import RemoteAgent.Proofs.Client.Ownership
import Mathlib.Data.List.Sort

/-!
# How a lane serves its requests

Requests join the lane of their key in the order of their numbers, and a request that was sent came
before every one in its lane that was not (`Service`). The frames of a lane are therefore written in
the order in which their requests joined it, each after the requests before it have come to an end;
and a request waits for its turn only while one that joined the same lane before it is there
(`lane_in_order`).
-/

namespace RemoteAgent

/-- The request that the event tells took its place in the lane of a key. -/
def Event.joined? (key : RequestKey) : Event → Option Nat
  | .issued number other => if other = key then some number else none
  | _ => none

/-- The requests that took their place in the lane of a key, the first one first. -/
def joinedUnder (key : RequestKey) (trace : List Event) : List Nat :=
  trace.reverse.filterMap (Event.joined? key)

/-- The requests of a lane whose frames were written to the socket of a generation, in the order of
the frames. -/
def writtenUnder (generation : Nat) (key : RequestKey) (trace : List Event) : List Nat :=
  (List.range (transmittedOn generation trace).length).filterMap fun index =>
    (joinedUnder key trace).find? fun number => placeOf number trace = some ⟨generation, index⟩

/-- The requests that have joined a lane are those that were issued under its key. -/
theorem mem_joinedUnder {key : RequestKey} {trace : List Event} {number : Nat} :
    number ∈ joinedUnder key trace ↔ .issued number key ∈ trace := by
  simp only [joinedUnder, List.mem_filterMap, List.mem_reverse]
  constructor
  · rintro ⟨event, member, joined⟩
    cases event with
    | issued other otherKey =>
      simp only [Event.joined?, Option.ite_none_right_eq_some, Option.some.injEq] at joined
      obtain ⟨rfl, rfl⟩ := joined
      exact member
    | _ => cases joined
  · exact fun member => ⟨_, member, by simp [Event.joined?]⟩

theorem joinedUnder_append {events : List Event}
    (unissued : ∀ number key, .issued number key ∉ events) (key : RequestKey)
    (trace : List Event) : joinedUnder key (events ++ trace) = joinedUnder key trace := by
  have nothing : joinedUnder key events = [] := by
    refine List.eq_nil_iff_forall_not_mem.mpr fun number member => ?_
    exact unissued number key (mem_joinedUnder.mp member)
  simp only [joinedUnder, List.reverse_append, List.filterMap_append] at nothing ⊢
  rw [nothing, List.append_nil]

theorem joinedUnder_issued (number : Nat) (key other : RequestKey) (trace : List Event) :
    joinedUnder key (.issued number other :: trace) =
      joinedUnder key trace ++ if other = key then [number] else [] := by
  simp only [joinedUnder, List.reverse_cons, List.filterMap_append, List.filterMap_cons,
    List.filterMap_nil, Event.joined?]
  split <;> simp_all

namespace Client

variable {config : Config} {client after : Client} {action : Action}

/-- A move issues the next request or none. -/
theorem Move.issues (moves : Move action client after) (sound : client.Sound) :
    (∃ key, after.trace = .issued client.requests.issued key :: client.trace) ∨
      ∃ events, after.trace = events ++ client.trace ∧
        ∀ number key, .issued number key ∉ events := by
  obtain ⟨events, extended, explained⟩ := moves.adds sound
  by_cases issued : ∃ number key, .issued number key ∈ events
  · left
    obtain ⟨number, key, member⟩ := issued
    obtain ⟨_, rfl, _, request, found, rfl⟩ := explained _ member
    rcases moves.foundAfter sound found with ⟨before, foundBefore, _⟩ | ⟨_, _, _, _, told⟩
    · rw [sound.requests.find?_issued] at foundBefore
      cases foundBefore
    · exact ⟨_, told⟩
  · exact .inr ⟨events, extended, fun number key member => issued ⟨number, key, member⟩⟩

/-- How the requests of a lane are served. -/
structure Service (client : Client) : Prop where
  /-- Requests join a lane in the order of their numbers. -/
  joined : ∀ key, (joinedUnder key client.trace).Pairwise (· < ·)
  /-- A request that was sent joined its lane before any that was not. -/
  ahead : ∀ {number generation key other request}, .sent number generation ∈ client.trace →
    .issued number key ∈ client.trace → client.requests.find? other = some request →
      request.key = key → request.standing = .granted ∨ request.standing = .queued → number < other
  /-- The frames of a lane have their places in the order in which their requests joined it. -/
  places : ∀ {number other key place otherPlace}, .issued number key ∈ client.trace →
    .issued other key ∈ client.trace → number < other →
      placeOf number client.trace = some place → placeOf other client.trace = some otherPlace →
        place.Precedes otherPlace

/-- The key of a request that was sent was known before. -/
theorem Move.key_of_sent (moves : Move action client after) (sound : client.Sound)
    {number : Nat} {key : RequestKey} (past : number < client.requests.issued)
    (issued : .issued number key ∈ after.trace) : .issued number key ∈ client.trace := by
  rcases moves.explains sound issued with old | ⟨_, newest, _⟩
  · exact old
  · omega

/-- The request whose turn it is joined its lane before those in the queue. -/
theorem holder_lt_queued {requests : Requests} (sound : requests.Sound) {number other : Nat}
    {request queued : Request} (found : requests.find? number = some request)
    (turn : request.standing ≠ .queued) (foundOther : requests.find? other = some queued)
    (waits : queued.standing = .queued) (sameKey : queued.key = request.key) : number < other := by
  have holds := (sound.holder_iff request.key number).mpr ⟨request, found, rfl, turn⟩
  have member := (sound.queue_iff request.key other).mpr ⟨queued, foundOther, sameKey, waits⟩
  have ordered := sound.ordered request.key
  rw [holds, List.pairwise_append] at ordered
  exact ordered.2.2 number (by simp) other member

/-- A request that is sent joined its lane before any that is not. -/
theorem Move.ahead (moves : Move action client after) (sound : client.Sound)
    (outcomes : client.Outcomes) (service : client.Service) {number generation other : Nat}
    {key : RequestKey} {request : Request} (sent : .sent number generation ∈ after.trace)
    (issued : .issued number key ∈ after.trace) (found : after.requests.find? other = some request)
    (sameKey : request.key = key)
    (early : request.standing = .granted ∨ request.standing = .queued) : number < other := by
  have past : number < client.requests.issued := by
    rcases moves.explains sound sent with old | ⟨_, _, turned, foundTurned, _⟩
    · exact outcomes.sent_lt old
    · exact sound.requests.number_lt foundTurned
  have issuedBefore := moves.key_of_sent sound past issued
  rcases moves.foundAfter sound found with ⟨before, foundBefore, follows⟩ | ⟨_, newest, _⟩
  · have earlyBefore : before.standing = .granted ∨ before.standing = .queued := by
      cases follows with
      | same => exact early
      | granted queued => exact .inr queued
      | sent => simp at early
      | answered => simp at early
      | lost => simp at early
    rw [key_of_follows follows] at sameKey
    rcases moves.explains sound sent with old | ⟨_, _, turned, foundTurned, turn, entered⟩
    · exact service.ahead old issuedBefore foundBefore sameKey earlyBefore
    · have named := Requests.number_of_find? foundTurned
      have ownKey : turned.key = key :=
        outcomes.issued_unique (outcomes.issued foundTurned) issuedBefore
      have different : other ≠ number := by
        rintro rfl
        rw [entered, sound.requests.enter_find? _ _ (named.symm ▸ foundTurned) turn,
          if_pos named.symm] at found
        cases found
        simp at early
      rcases earlyBefore with granted | queued
      · exact absurd (sound.requests.turn_unique foundTurned (by simp [turn]) foundBefore
          (by simp [granted]) (sameKey.trans ownKey.symm)).1 different
      · exact holder_lt_queued sound.requests foundTurned (by simp [turn]) foundBefore queued
          (sameKey.trans ownKey.symm)
  · omega

/-- A move keeps the order of service. -/
theorem Move.service (moves : Move action client after) (sound : client.Sound)
    (history : client.History) (outcomes : client.Outcomes) (places : client.Places)
    (service : client.Service) : after.Service := by
  refine ⟨?_, moves.ahead sound outcomes service, ?_⟩
  · intro key
    rcases moves.issues sound with ⟨issuedKey, told⟩ | ⟨events, extended, unissued⟩
    · rw [told, joinedUnder_issued]
      split
      · refine List.pairwise_append.mpr ⟨service.joined key, List.pairwise_singleton _ _, ?_⟩
        intro number member newest isNewest
        rw [List.mem_singleton.mp isNewest]
        exact outcomes.issued_lt (mem_joinedUnder.mp member)
      · rw [List.append_nil]
        exact service.joined key
    · rw [extended, joinedUnder_append unissued]
      exact service.joined key
  · intro number other key place otherPlace issued issuedOther before placed placedOther
    rcases moves.sends sound with ⟨request, generation, _, found, turn, opened, told⟩ |
      ⟨events, extended, unsent⟩
    · have issuedBefore : ∀ {number}, .issued number key ∈ after.trace →
          .issued number key ∈ client.trace := by
        intro number issued
        rw [told] at issued
        simpa using issued
      rw [told, placeOf_sent] at placed placedOther
      split at placedOther
      · next own =>
        cases placedOther
        rw [if_neg (by omega)] at placed
        exact places.precedes_next sound history opened placed
      · split at placed
        · next own =>
          -- A later request of the lane would have been sent before its turn.
          subst own
          obtain ⟨_, sent⟩ := sent_of_placeOf placedOther
          have ownKey := outcomes.issued_unique (outcomes.issued found) (issuedBefore issued)
          have behind := service.ahead sent (issuedBefore issuedOther) found ownKey (.inl turn)
          omega
        · exact service.places (issuedBefore issued) (issuedBefore issuedOther) before placed
            placedOther
    · rw [extended, placeOf_append unsent] at placed placedOther
      obtain ⟨_, sent⟩ := sent_of_placeOf placed
      obtain ⟨_, sentOther⟩ := sent_of_placeOf placedOther
      exact service.places (moves.key_of_sent sound (outcomes.sent_lt sent) issued)
        (moves.key_of_sent sound (outcomes.sent_lt sentOther) issuedOther) before placed placedOther

/-- In every run, lanes are served in order. -/
theorem Reachable.service (reachable : Reachable config client) : client.Service := by
  refine (@Reachable.byHistory _ _ (fun client => (client.Outcomes ∧ client.Places) ∧
    client.Service) reachable ⟨⟨Reachable.initial.outcomes, Reachable.initial.places⟩, ?_⟩ ?_).2
  · exact ⟨by simp [Client.initial, joinedUnder], by simp [Client.initial],
      by simp [Client.initial]⟩
  · rintro action client after sound history moves ⟨⟨outcomes, places⟩, service⟩
    exact ⟨⟨moves.outcomes sound outcomes, moves.places sound history outcomes places⟩,
      moves.service sound history outcomes places service⟩

/-! ## The order of frames -/

/-- Requests of a lane that are in the order of their numbers are in the order in which they joined
it. -/
theorem Service.sublist_joined (service : client.Service) {key : RequestKey} {numbers : List Nat}
    (ascending : numbers.Pairwise (· < ·))
    (joined : ∀ number ∈ numbers, .issued number key ∈ client.trace) :
    numbers.Sublist (joinedUnder key client.trace) := by
  have distinct : numbers.Nodup := ascending.imp Nat.ne_of_lt
  exact List.sublist_of_subperm_of_pairwise
    (distinct.subperm fun number member => mem_joinedUnder.mpr (joined number member))
    ascending (service.joined key)

/-- Requests that joined a lane one after the other are in the order of their numbers. -/
theorem Service.lt_of_sublist (service : client.Service) {key : RequestKey} {number other : Nat}
    (inOrder : [number, other].Sublist (joinedUnder key client.trace)) : number < other :=
  List.rel_of_pairwise_cons ((service.joined key).sublist inOrder) List.mem_cons_self

/-- Two requests of a lane do not share a place. -/
theorem Service.place_unique (service : client.Service) {key : RequestKey} {number other : Nat}
    {place : Place} (issued : .issued number key ∈ client.trace)
    (issuedOther : .issued other key ∈ client.trace)
    (placed : placeOf number client.trace = some place)
    (placedOther : placeOf other client.trace = some place) : number = other := by
  have apart : ¬ place.Precedes place := by
    rintro (older | ⟨_, ahead⟩)
    · exact Nat.lt_irrefl _ older
    · exact Nat.lt_irrefl _ ahead
  rcases Nat.lt_trichotomy number other with less | same | more
  · exact absurd (service.places issued issuedOther less placed placedOther) apart
  · exact same
  · exact absurd (service.places issuedOther issued more placedOther placed) apart

/-- The frames of a lane are written to a socket in the order in which their requests joined it. -/
theorem Service.written (service : client.Service) (generation : Nat) (key : RequestKey) :
    (writtenUnder generation key client.trace).Sublist (joinedUnder key client.trace) := by
  refine service.sublist_joined ?_ ?_
  · refine List.pairwise_filterMap.mpr (List.pairwise_lt_range.imp ?_)
    intro index later before number found other foundOther
    have joined := mem_joinedUnder.mp (List.mem_of_find?_eq_some found)
    have joinedOther := mem_joinedUnder.mp (List.mem_of_find?_eq_some foundOther)
    have placed : placeOf number client.trace = some ⟨generation, index⟩ := by
      simpa using List.find?_some found
    have placedOther : placeOf other client.trace = some ⟨generation, later⟩ := by
      simpa using List.find?_some foundOther
    rcases Nat.lt_trichotomy number other with less | rfl | more
    · exact less
    · rw [placed] at placedOther
      cases placedOther
      omega
    · rcases service.places joinedOther joined more placedOther placed with older | ⟨_, ahead⟩
      · exact absurd older (Nat.lt_irrefl _)
      · have behind : later < index := ahead
        omega
  · intro number member
    obtain ⟨index, _, found⟩ := List.mem_filterMap.mp member
    exact mem_joinedUnder.mp (List.mem_of_find?_eq_some found)

/-! ## One at a time -/

/-- A request that was issued is there, or has an outcome. -/
def Accounted (client : Client) (number : Nat) : Prop :=
  ∀ key, .issued number key ∈ client.trace →
    (∃ request, client.requests.find? number = some request) ∨
      ∃ outcome, .answered number outcome ∈ client.trace

/-- A request that is not given up stays accounted for. -/
theorem Move.accounted (moves : Move action client after) (sound : client.Sound) {number : Nat}
    (spared : ¬ client.GivesUp number action) (accounted : client.Accounted number) :
    after.Accounted number := by
  intro key issued
  rcases moves.explains sound issued with old | ⟨_, _, _, request, found, _⟩
  · rcases accounted key old with ⟨before, foundBefore⟩ | ⟨outcome, answered⟩
    · rcases moves.foundBefore sound foundBefore with ⟨request, found, _⟩ |
        ⟨outcome, _, _, told, _⟩ | ⟨givesUp, _⟩
      · exact .inl ⟨request, found⟩
      · exact .inr ⟨outcome, told ▸ List.mem_cons_self⟩
      · exact absurd givesUp spared
    · exact .inr ⟨outcome, moves.remembers sound answered⟩
  · exact .inl ⟨request, found⟩

/-- A request that is not given up in a run is there, or has an outcome. -/
theorem accounted_of_run (config : Config) {actions : List Action} {number : Nat}
    (spares : (Client.initial config).Spares number actions) :
    ((Client.initial config).run actions).Accounted number :=
  @run_while (Client.initial config) (fun client action => ¬ client.GivesUp number action)
    (fun client => client.Accounted number) Reachable.initial.sound actions spares
    (fun _ _ _ moves spared => moves.spares spared)
    (fun _ _ _ sound moves spared accounted => moves.accounted sound spared accounted)
    (by simp [Accounted, Client.initial])

/-- A request that was sent since the client had done what is `past` found every one before it in its
lane at an end, up to those that were given up. -/
structure SentInTurn (client : Client) (past : List Event) (givenUp : Nat → Prop) : Prop where
  accounted : ∀ {number}, ¬ givenUp number → client.Accounted number
  sent : ∀ {recent earlier number generation}, client.trace =
      recent ++ .sent number generation :: earlier → .sent number generation ∉ past →
    ∀ {key other}, .issued number key ∈ client.trace → .issued other key ∈ client.trace →
      other < number → ¬ givenUp other → ∃ outcome, .answered other outcome ∈ earlier

/-- Events among which no request is sent hide none that was sent before them. -/
theorem split_of_unsent {events trace recent earlier : List Event} {number generation : Nat}
    (unsent : ∀ number generation, .sent number generation ∉ events)
    (same : events ++ trace = recent ++ .sent number generation :: earlier) :
    ∃ later, trace = later ++ .sent number generation :: earlier := by
  rcases List.append_eq_append_iff.mp same with ⟨later, _, rest⟩ | ⟨later, whole, rest⟩
  · exact ⟨later, rest⟩
  · cases later with
    | nil => exact ⟨[], by simpa using rest.symm⟩
    | cons event later =>
      obtain ⟨rfl, _⟩ := List.cons.inj rest
      exact absurd (whole ▸ List.mem_append_right _ List.mem_cons_self) (unsent number generation)

/-- When it is the turn of a request, nothing that joined its lane before it is left. -/
theorem gone_of_turn {requests : Requests} (sound : requests.Sound) {number other : Nat}
    {request : Request} (found : requests.find? number = some request)
    (turn : request.standing ≠ .queued) (before : other < number) {ahead : Request}
    (foundOther : requests.find? other = some ahead) : ahead.key ≠ request.key := by
  intro sameKey
  by_cases queued : ahead.standing = .queued
  · have behind := holder_lt_queued sound found turn foundOther queued sameKey
    omega
  · have own := (sound.turn_unique found turn foundOther queued sameKey).1
    omega

/-- A move sends requests in their turn. -/
theorem Move.sentInTurn (moves : Move action client after) (sound : client.Sound)
    (outcomes : client.Outcomes) (runs : action.runsRequests = true) {past : List Event}
    {givenUp : Nat → Prop} (inTurn : client.SentInTurn past givenUp) :
    after.SentInTurn past givenUp := by
  have spared : ∀ number, ¬ client.GivesUp number action := by
    intro number givesUp
    cases action <;> first | exact givesUp.elim | cases runs
  refine ⟨fun kept => moves.accounted sound (spared _) (inTurn.accounted kept), ?_⟩
  intro recent earlier number generation split new key other issued issuedOther before kept
  rcases moves.sends sound with ⟨request, opened, _, found, turn, _, told⟩ |
    ⟨events, extended, unsent⟩
  · have issuedBefore : ∀ {number}, .issued number key ∈ after.trace →
        .issued number key ∈ client.trace := by
      intro number issued
      rw [told] at issued
      simpa using issued
    rw [told] at split
    cases recent with
    | nil =>
      obtain ⟨own, rfl⟩ := List.cons.inj split
      cases own
      rcases inTurn.accounted kept key (issuedBefore issuedOther) with ⟨ahead, foundOther⟩ |
        ⟨outcome, answered⟩
      · have ownKey := outcomes.issued_unique (outcomes.issued found) (issuedBefore issued)
        have otherKey := outcomes.issued_unique (outcomes.issued foundOther)
          (issuedBefore issuedOther)
        exact absurd (otherKey.trans ownKey.symm)
          (gone_of_turn sound.requests found (by simp [turn]) before foundOther)
      · exact ⟨outcome, List.mem_cons_of_mem _ answered⟩
    | cons event rest =>
      obtain ⟨_, afterwards⟩ := List.cons.inj split
      obtain ⟨later, extended⟩ := @split_of_unsent [.accepted opened request.frame] _ _ _ _ _
        (by simp) afterwards
      exact inTurn.sent extended new (issuedBefore issued) (issuedBefore issuedOther) before kept
  · obtain ⟨later, rest⟩ := split_of_unsent unsent (extended.symm.trans split)
    have sent : .sent number generation ∈ client.trace :=
      rest ▸ List.mem_append_right _ List.mem_cons_self
    have passed := outcomes.sent_lt sent
    exact inTurn.sent rest new (moves.key_of_sent sound passed issued)
      (moves.key_of_sent sound (before.trans passed) issuedOther) before kept

/-- When a request is sent, those that joined its lane before it have come to an end. -/
theorem sent_in_turn (config : Config) (actions : List Action) {recent earlier : List Event}
    {number generation other : Nat} {key : RequestKey}
    (split : (((Client.initial config).run actions).step action).trace =
      recent ++ .sent number generation :: earlier)
    (new : .sent number generation ∉ ((Client.initial config).run actions).trace)
    (inOrder : [other, number].Sublist
      (joinedUnder key (((Client.initial config).run actions).step action).trace))
    (spares : (Client.initial config).Spares other actions) :
    ∃ outcome, .answered other outcome ∈ earlier := by
  have reachable : Reachable config ((Client.initial config).run actions) :=
    Reachable.initial.run actions
  have sends : ((Client.initial config).run actions).Sends number action :=
    ⟨generation, split ▸ List.mem_append_right _ List.mem_cons_self, new⟩
  have runs := sends.runs reachable.sound
  have inTurn := @Reachable.step_keeps _ _ action
    (fun middle => middle.SentInTurn ((Client.initial config).run actions).trace
      fun number => ¬ (Client.initial config).Spares number actions) reachable
    (fun _ _ sound outcomes _ moves inTurn => moves.sentInTurn sound outcomes runs inTurn)
    ⟨fun kept => accounted_of_run config (not_not.mp kept), fun split new =>
      absurd (split ▸ List.mem_append_right _ List.mem_cons_self) new⟩
  have joined := inOrder.subset
  have before : other < number := (reachable.step action).service.lt_of_sublist inOrder
  exact inTurn.sent split new (mem_joinedUnder.mp (joined (by simp)))
    (mem_joinedUnder.mp (joined (by simp))) before (not_not.mpr spares)

/-! ## Waiting for a turn -/

/-- A request waits for its turn exactly while one that joined its lane before it is there. -/
theorem queued_iff {requests : Requests} (sound : requests.Sound) {number : Nat}
    {request : Request} (found : requests.find? number = some request) :
    request.standing = .queued ↔
      ∃ other ahead, other < number ∧ requests.find? other = some ahead ∧
        ahead.key = request.key := by
  constructor
  · intro queued
    obtain ⟨holder, held, before, foundHolder, sameKey, _⟩ := holder_of_queued sound found queued
    exact ⟨holder, held, before, foundHolder, sameKey⟩
  · rintro ⟨other, ahead, before, foundOther, sameKey⟩
    by_contra turn
    exact gone_of_turn sound found turn before foundOther sameKey

/-- At its turn, a request that runs is about to be sent. -/
theorem step_poll_of_granted {request : Request}
    (found : client.requests.find? request.number = some request)
    (turn : request.standing = .granted) :
    client.step (.poll request.number) = client.sendRequest request := by
  simp [step, Action.isOwners, perform, poll, found, turn]

/-- At its turn, a request that runs is sent on the open socket, and waits for its reply from that
moment on. -/
theorem step_poll_sent (sound : client.requests.Sound) {number generation : Nat} {request : Request}
    (found : client.requests.find? number = some request) (turn : request.standing = .granted)
    (opened : client.link.lifecycle = .opened generation) :
    .sent number generation ∈ (client.step (.poll number)).trace ∧
      (client.step (.poll number)).requests.find? number =
        some { request with standing := .waiting generation client.clock } := by
  obtain rfl := Requests.number_of_find? found
  rw [step_poll_of_granted found turn, sendRequest, Link.accept_eq_some_iff.mpr ⟨opened, rfl⟩]
  refine ⟨List.mem_cons_self, ?_⟩
  exact (sound.enter_find? generation client.clock found turn request.number).trans (if_pos rfl)

/-- At its turn, a request that runs without an open socket fails. -/
theorem step_poll_unsent {number : Nat} {request : Request}
    (found : client.requests.find? number = some request) (turn : request.standing = .granted)
    (shut : ∀ generation, client.link.lifecycle ≠ .opened generation) :
    .answered number (.error .notConnected) ∈ (client.step (.poll number)).trace := by
  obtain rfl := Requests.number_of_find? found
  rw [step_poll_of_granted found turn, sendRequest]
  split
  · next accepted => exact absurd (Link.accept_eq_some_iff.mp accepted).1 (shut _)
  · exact failRequest_told _ _ _

/-- A request is among those whose frames were written exactly when its frame is. -/
theorem Reachable.mem_writtenUnder (reachable : Reachable config client) {generation number : Nat}
    {key : RequestKey} :
    number ∈ writtenUnder generation key client.trace ↔
      .issued number key ∈ client.trace ∧ ∃ index frame,
        placeOf number client.trace = some ⟨generation, index⟩ ∧
          (transmittedOn generation client.trace)[index]? = some (Outbound.encode frame) ∧
          frame.key? = some key := by
  have service := reachable.service
  constructor
  · intro member
    obtain ⟨index, inside, found⟩ := List.mem_filterMap.mp member
    have issued := mem_joinedUnder.mp (List.mem_of_find?_eq_some found)
    have placed : placeOf number client.trace = some ⟨generation, index⟩ := by
      simpa using List.find?_some found
    obtain ⟨named, frame, issuedToo, keyOfFrame, accepted⟩ := reachable.places.placed placed
    obtain rfl := reachable.outcomes.issued_unique issued issuedToo
    refine ⟨issued, index, frame, placed, ?_, keyOfFrame⟩
    obtain ⟨later, written⟩ := reachable.inOrder.written generation
    rw [frameAt, ← written, List.getElem?_append_left (List.mem_range.mp inside)] at accepted
    exact accepted
  · rintro ⟨issued, index, frame, placed, written, keyOfFrame⟩
    obtain ⟨inside, _⟩ := List.getElem?_eq_some_iff.mp written
    refine List.mem_filterMap.mpr ⟨index, List.mem_range.mpr inside, ?_⟩
    cases found : (joinedUnder key client.trace).find? fun number =>
        placeOf number client.trace = some ⟨generation, index⟩ with
    | none =>
      have nowhere := List.find?_eq_none.mp found number (mem_joinedUnder.mpr issued)
      simp [placed] at nowhere
    | some other =>
      have issuedOther := mem_joinedUnder.mp (List.mem_of_find?_eq_some found)
      have placedOther : placeOf other client.trace = some ⟨generation, index⟩ := by
        simpa using List.find?_some found
      exact congrArg some (service.place_unique issuedOther issued placedOther placed)

/-- In every run, the frames of a lane are written to each socket in the order in which their requests
joined the lane, and those on a newer socket are of requests that joined later; a request is sent when
every one that joined its lane before it has come to an end or was given up; a request waits for its
turn exactly while one that joined its lane before it is there; and at its turn it is to run, and is
sent as soon as it does if the link is open. -/
theorem lane_in_order (config : Config) (actions : List Action) :
    let client := (Client.initial config).run actions
    (∀ generation key, (writtenUnder generation key client.trace).Sublist
      (joinedUnder key client.trace)) ∧
    (∀ generation key number, number ∈ writtenUnder generation key client.trace ↔
      .issued number key ∈ client.trace ∧ ∃ index frame,
        placeOf number client.trace = some ⟨generation, index⟩ ∧
          (transmittedOn generation client.trace)[index]? = some (Outbound.encode frame) ∧
          frame.key? = some key) ∧
    (∀ key number other place otherPlace,
      [number, other].Sublist (joinedUnder key client.trace) →
      placeOf number client.trace = some place → placeOf other client.trace = some otherPlace →
        place.Precedes otherPlace) ∧
    (∀ action recent earlier number generation key other,
      (client.step action).trace = recent ++ .sent number generation :: earlier →
      .sent number generation ∉ client.trace →
      [other, number].Sublist (joinedUnder key (client.step action).trace) →
      (Client.initial config).Spares other actions →
        ∃ outcome, .answered other outcome ∈ earlier) ∧
    (∀ number request, client.requests.find? number = some request →
      (request.standing = .queued ↔ ∃ other ahead, other < number ∧
        client.requests.find? other = some ahead ∧ ahead.key = request.key)) ∧
    (∀ number request, client.requests.find? number = some request →
      request.standing = .granted → number ∈ client.requests.ready ∧
        ((∃ generation, .sent number generation ∈ (client.step (.poll number)).trace) ∨
          (∀ generation, client.link.lifecycle ≠ .opened generation) ∧
            .answered number (.error .notConnected) ∈ (client.step (.poll number)).trace)) := by
  intro client
  have reachable : Reachable config client := Reachable.initial.run actions
  have sound := reachable.requests_sound
  refine ⟨reachable.service.written, fun _ _ _ => reachable.mem_writtenUnder, ?_, ?_, ?_, ?_⟩
  · intro key number other place otherPlace inOrder placed placedOther
    have joined := inOrder.subset
    exact reachable.service.places (mem_joinedUnder.mp (joined (by simp)))
      (mem_joinedUnder.mp (joined (by simp))) (reachable.service.lt_of_sublist inOrder) placed
      placedOther
  · intro action recent earlier number generation key other split new inOrder spares
    exact sent_in_turn config actions split new inOrder spares
  · exact fun number request found => queued_iff sound found
  · intro number request found turn
    refine ⟨sound.ready found (by rw [turn]; rfl), ?_⟩
    by_cases opened : ∃ generation, client.link.lifecycle = .opened generation
    · obtain ⟨generation, opened⟩ := opened
      exact .inl ⟨generation, (step_poll_sent sound found turn opened).1⟩
    · have shut : ∀ generation, client.link.lifecycle ≠ .opened generation :=
        fun generation now => opened ⟨generation, now⟩
      exact .inr ⟨shut, step_poll_unsent found turn shut⟩

/-- The second of two questions for a file is sent when the first one has timed out. -/
theorem lane_in_order_of_queries :
    let actions : List Action := [.connect, .settle 1 .accepted, .resolve 1,
      .start (.query "a") (some (.ofSeconds 1)), .start (.query "a") none, .wait (.ofSeconds 1),
      .poll 0]
    let client := (Client.initial .loopback).run actions
    let after := client.step (.poll 1)
    joinedUnder (.info "a") after.trace = [0, 1] ∧ .sent 1 1 ∈ after.trace ∧
      ∃ outcome, .answered 0 outcome ∈ client.trace := by
  intro actions client after
  have told : after.trace = [] ++ .sent 1 1 ::
      .accepted 1 (Outbound.queryFile "a").encode :: client.trace := rfl
  have joined : joinedUnder (.info "a") after.trace = [0, 1] := rfl
  have spares : (Client.initial .loopback).Spares 0 actions := by
    simp only [actions, spares_cons, GivesUp]
    simp [Spares]
  have found : client.requests.find? 1 =
      some ⟨1, .info "a", (Outbound.queryFile "a").encode, .info, none, .granted⟩ := by decide
  have reachable : Reachable .loopback client := Reachable.initial.run actions
  have unsent : .sent 1 1 ∉ client.trace := reachable.outcomes.unsent found (.inl rfl)
  obtain ⟨_, _, _, inTurn, _, _⟩ := lane_in_order .loopback actions
  obtain ⟨outcome, answered⟩ := inTurn (.poll 1) _ _ 1 1 (.info "a") 0 told unsent
    (joined ▸ List.Sublist.refl _) spares
  refine ⟨joined, told ▸ List.mem_cons_self, outcome, ?_⟩
  simpa using answered

end Client

end RemoteAgent
