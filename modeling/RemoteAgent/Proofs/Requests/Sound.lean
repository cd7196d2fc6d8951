import RemoteAgent.Proofs.Requests.Views

/-!
# Sound requests

Requests, lanes and entries in flight fit together. A request that is queued stands in the
queue of its key; any other one holds the lane of its key; a lane without a holder has an
empty queue; an entry in flight belongs to a request that waits for its reply; and a request
that has something to do is ready to run. This module shows it kept by the changes that leave the
lanes alone (`Sound.enter`, `Sound.deliver`, `Sound.disconnect`, `Sound.rest`), and says what they
do to one request. Since a lane has one holder, a key has one entry at most, and the request that
enters one never displaces another (`Sound.entryFor?_eq_none`).
-/

namespace RemoteAgent

/-- The request has something to do as soon as it runs. -/
def Standing.isEager : Standing → Bool
  | .granted | .answered _ | .disconnected => true
  | .queued | .waiting _ _ => false

/-- The request waits for its reply. -/
def Standing.isWaiting : Standing → Bool
  | .waiting _ _ => true
  | _ => false

/-- The request waits for its reply on the socket of a generation. -/
def Standing.waitsOn (generation : Nat) : Standing → Bool
  | .waiting other _ => other == generation
  | _ => false

namespace Requests

/-- How requests, lanes and entries fit together. -/
structure Sound (requests : Requests) : Prop where
  lanes : requests.LanesDistinct
  number_lt : ∀ {number request}, requests.find? number = some request → number < requests.issued
  /-- The entries are those of the requests that wait for a reply. -/
  entry_iff : ∀ entry, entry ∈ requests.inFlight ↔
    ∃ request sentAt, requests.find? entry.request = some request ∧ request.key = entry.key ∧
      request.awaits = entry.awaits ∧ request.standing = .waiting entry.generation sentAt
  /-- A lane is held by the request under its key that is not queued. -/
  holder_iff : ∀ key number, requests.holder? key = some number ↔
    ∃ request, requests.find? number = some request ∧ request.key = key ∧
      request.standing ≠ .queued
  /-- A queue is made of the requests under its key that are queued. -/
  queue_iff : ∀ key number, number ∈ requests.queue key ↔
    ∃ request, requests.find? number = some request ∧ request.key = key ∧
      request.standing = .queued
  free : ∀ key, requests.holder? key = none → requests.queue key = []
  /-- A lane serves its requests in the order in which they came. -/
  ordered : ∀ key, ((requests.holder? key).toList ++ requests.queue key).Pairwise (· < ·)
  ready : ∀ {number request}, requests.find? number = some request →
    request.standing.isEager = true → number ∈ requests.ready
  awaits : ∀ {number request}, requests.find? number = some request →
    request.awaits = request.key.replyKind

variable {requests : Requests}

/-- No requests are sound. -/
theorem sound_nothing (issued : Nat) : Sound { issued } where
  lanes := List.Pairwise.nil
  number_lt := by simp [find?]
  entry_iff := by simp [find?]
  holder_iff := by simp [find?, holder?, lane?]
  queue_iff := by simp [find?, queue, lane?]
  free := by simp [queue, lane?]
  ordered := by simp [holder?, queue, lane?]
  ready := by simp [find?]
  awaits := by simp [find?]

namespace Sound

/-! ## What follows from it -/

/-- One request under a key has its turn. -/
theorem turn_unique (sound : requests.Sound) {number other : Nat} {request turned : Request}
    (found : requests.find? number = some request) (turn : request.standing ≠ .queued)
    (foundOther : requests.find? other = some turned) (turnOther : turned.standing ≠ .queued)
    (sameKey : turned.key = request.key) : other = number ∧ turned = request := by
  have holds := (sound.holder_iff request.key number).mpr ⟨request, found, rfl, turn⟩
  have holdsToo := (sound.holder_iff request.key other).mpr
    ⟨turned, foundOther, sameKey, turnOther⟩
  rw [holds] at holdsToo
  cases holdsToo
  rw [found] at foundOther
  cases foundOther
  exact ⟨rfl, rfl⟩

/-- The request whose turn it is has no entry in flight under its key. -/
theorem entryFor?_eq_none (sound : requests.Sound) {number : Nat} {request : Request}
    (found : requests.find? number = some request) (turn : request.standing = .granted) :
    requests.entryFor? request.key = none := by
  refine entryFor?_eq_none_iff.mpr fun entry member same => ?_
  obtain ⟨other, sentAt, foundOther, key, _, waits⟩ := (sound.entry_iff entry).mp member
  obtain ⟨_, rfl⟩ := sound.turn_unique found (by simp [turn]) foundOther (by simp [waits])
    (key.trans same)
  rw [turn] at waits
  cases waits

/-- Nobody stands in a queue twice. -/
theorem nodup (sound : requests.Sound) (key : RequestKey) : (requests.queue key).Nodup :=
  (List.pairwise_append.mp (sound.ordered key)).2.1.imp Nat.ne_of_lt

/-- The entry of a request that waits. -/
theorem entry_of_waiting (sound : requests.Sound) {number generation sentAt : Nat}
    {request : Request} (found : requests.find? number = some request)
    (waits : request.standing = .waiting generation sentAt) :
    ⟨request.key, generation, number, request.awaits⟩ ∈ requests.inFlight :=
  (sound.entry_iff _).mpr ⟨request, sentAt, found, rfl, rfl, waits⟩

/-! ## What keeps it -/

theorem rest (sound : requests.Sound) {number : Nat}
    (idle : ∀ request, requests.find? number = some request → request.standing.isEager = false) :
    (requests.rest number).Sound := by
  refine { sound with ready := ?_ }
  intro other request found eager
  have different : other ≠ number := by
    rintro rfl
    rw [idle request found] at eager
    cases eager
  have member := sound.ready found eager
  simpa [Requests.rest] using ⟨member, different⟩

/-- Requests stay sound when some of them come further within their place in the lanes. -/
theorem advance (sound : requests.Sound) {after : Requests} (lanes : after.lanes = requests.lanes)
    (issued : after.issued = requests.issued)
    (moved : ∀ number request, after.find? number = some request →
      ∃ before, requests.find? number = some before ∧ request.key = before.key ∧
        request.awaits = before.awaits ∧ (request.standing = .queued ↔ before.standing = .queued))
    (kept : ∀ number before, requests.find? number = some before →
      ∃ request, after.find? number = some request)
    (entry_iff : ∀ entry, entry ∈ after.inFlight ↔
      ∃ request sentAt, after.find? entry.request = some request ∧ request.key = entry.key ∧
        request.awaits = entry.awaits ∧ request.standing = .waiting entry.generation sentAt)
    (ready : ∀ {number request}, after.find? number = some request →
      request.standing.isEager = true → number ∈ after.ready) :
    after.Sound := by
  have lane : ∀ key, after.lane? key = requests.lane? key := fun key => by
    simp only [lane?, lanes]
  have holder : ∀ key, after.holder? key = requests.holder? key := fun key => by
    simp only [holder?, lane]
  have queue : ∀ key, after.queue key = requests.queue key := fun key => by
    simp only [Requests.queue, lane]
  refine
    { lanes := by simpa only [LanesDistinct, lanes] using sound.lanes
      number_lt := ?_
      entry_iff
      holder_iff := ?_
      queue_iff := ?_
      free := by simpa only [holder, queue] using sound.free
      ordered := by simpa only [holder, queue] using sound.ordered
      ready
      awaits := ?_ }
  · intro number request found
    obtain ⟨before, foundBefore, _⟩ := moved number request found
    exact issued ▸ sound.number_lt foundBefore
  · intro key number
    rw [holder, sound.holder_iff]
    grind
  · intro key number
    rw [queue, sound.queue_iff]
    grind
  · intro number request found
    obtain ⟨before, foundBefore, sameKey, sameKind, _⟩ := moved number request found
    rw [sameKind, sameKey, sound.awaits foundBefore]

/-- At its turn, a request comes to wait when its frame is accepted, and no other one is
touched. -/
theorem enter_find? (sound : requests.Sound) {request : Request} (generation clock : Nat)
    (found : requests.find? request.number = some request) (turn : request.standing = .granted)
    (number : Nat) :
    (requests.enter request generation clock).find? number =
      if number = request.number then some { request with standing := .waiting generation clock }
      else requests.find? number := by
  simp only [Requests.enter, sound.entryFor?_eq_none found turn]
  refine (find?_place _ request.number number _).trans ?_
  split
  · next same => simp [same, found]
  · rfl

theorem enter_inFlight (sound : requests.Sound) {request : Request} (generation clock : Nat)
    (found : requests.find? request.number = some request) (turn : request.standing = .granted) :
    (requests.enter request generation clock).inFlight =
      requests.inFlight ++ [⟨request.key, generation, request.number, request.awaits⟩] := by
  have undisplaced := sound.entryFor?_eq_none found turn
  have alone : requests.inFlight.filter (·.key != request.key) = requests.inFlight := by
    refine List.filter_eq_self.mpr fun entry member => ?_
    simpa using entryFor?_eq_none_iff.mp undisplaced entry member
  simp [Requests.enter, undisplaced, Requests.rest, clear, alone]

theorem enter (sound : requests.Sound) {request : Request} (generation clock : Nat)
    (found : requests.find? request.number = some request) (turn : request.standing = .granted) :
    (requests.enter request generation clock).Sound := by
  have undisplaced := sound.entryFor?_eq_none found turn
  have placed := sound.enter_find? generation clock found turn
  have entries := sound.enter_inFlight generation clock found turn
  apply sound.advance
  · simp [Requests.enter, undisplaced, Requests.rest, clear, place]
  · simp [Requests.enter, undisplaced, Requests.rest, clear, place]
  · intro number other
    rw [placed]
    grind
  · intro number other
    rw [placed]
    grind
  · intro entry
    rw [entries, placed, List.mem_append, List.mem_singleton]
    by_cases own : entry.request = request.number
    · rw [if_pos own]
      constructor
      · rintro (member | rfl)
        · obtain ⟨other, _, foundOther, _, _, waits⟩ := (sound.entry_iff entry).mp member
          rw [own, found] at foundOther
          cases foundOther
          rw [turn] at waits
          cases waits
        · exact ⟨_, clock, rfl, rfl, rfl, rfl⟩
      · rintro ⟨_, _, ⟨⟩, key, awaits, waits⟩
        right
        cases entry
        cases waits
        simp_all
    · rw [if_neg own, sound.entry_iff]
      constructor
      · rintro (waiting | rfl)
        · exact waiting
        · exact absurd rfl own
      · exact Or.inl
  · intro number other foundOther eager
    rw [placed] at foundOther
    split at foundOther
    · cases foundOther
      cases eager
    · next different =>
      have member := sound.ready foundOther eager
      simpa [Requests.enter, undisplaced, Requests.rest, clear, place] using ⟨member, different⟩

theorem deliver (sound : requests.Sound) (key : RequestKey) (reply : Reply) :
    (requests.deliver key reply).Sound := by
  cases found : requests.entryFor? key with
  | none => simpa only [Requests.deliver, found] using sound
  | some entry =>
    obtain ⟨member, sameKey⟩ := mem_of_entryFor? found
    obtain ⟨request, sentAt, foundRequest, requestKey, awaits, waits⟩ :=
      (sound.entry_iff entry).mp member
    have inFlight := deliver_inFlight requests key reply
    have standing : ∃ standing : Standing, standing ≠ .queued ∧ standing.isEager = true ∧
        requests.deliver key reply = (requests.clear key).wake entry.request standing := by
      simp only [Requests.deliver, found]
      split
      · exact ⟨_, by simp, rfl, rfl⟩
      · exact ⟨_, by simp, rfl, rfl⟩
    obtain ⟨standing, notQueued, eager, delivered⟩ := standing
    have waiting : ∀ generation sentAt, standing ≠ .waiting generation sentAt := by
      rintro generation sentAt rfl
      cases eager
    rw [delivered] at inFlight ⊢
    have advanced := fun number => (requests.clear key).find?_wake entry.request number standing
    simp only [find?_clear] at advanced
    apply sound.advance
    · rfl
    · rfl
    · intro number other
      rw [advanced]
      grind
    · intro number other
      rw [advanced]
      grind
    · intro other
      rw [inFlight, advanced, List.mem_filter, sound.entry_iff]
      by_cases own : other.request = entry.request
      · simp only [own, if_true, foundRequest]
        grind
      · have apart : ∀ request, requests.find? other.request = some request →
            request.standing ≠ .queued → request.key ≠ key := by
          intro another foundOther turn same
          exact own (sound.turn_unique foundRequest (by simp [waits]) foundOther turn
            (same.trans (requestKey.trans sameKey).symm)).1
        rw [if_neg own]
        grind
    · intro number other foundOther isEager
      rw [advanced] at foundOther
      have := @sound.ready number
      change number ∈ requests.ready ++ [entry.request]
      grind

theorem disconnect (sound : requests.Sound) (generation : Nat) :
    (requests.disconnect generation).Sound := by
  have advanced := requests.disconnect_find? generation
  -- An entry belongs to a request that waits on its generation, so none is woken by chance.
  have woken : ∀ number request, requests.find? number = some request →
      (∃ entry ∈ requests.inFlight, entry.generation = generation ∧ entry.request = number) →
      ∃ sentAt, request.standing = .waiting generation sentAt := by
    rintro number request found ⟨entry, member, rfl, rfl⟩
    obtain ⟨owner, sentAt, foundOwner, _, _, waits⟩ := (sound.entry_iff entry).mp member
    rw [found] at foundOwner
    cases foundOwner
    exact ⟨sentAt, waits⟩
  apply sound.advance
  · exact disconnect_lanes requests generation
  · exact disconnect_issued requests generation
  · intro number other foundOther
    rw [advanced] at foundOther
    split at foundOther
    · next failed =>
      obtain ⟨before, found, rfl⟩ := Option.map_eq_some_iff.mp foundOther
      obtain ⟨sentAt, waits⟩ := woken number before found failed
      exact ⟨before, found, rfl, rfl, by simp [waits]⟩
    · exact ⟨other, foundOther, rfl, rfl, Iff.rfl⟩
  · intro number before found
    rw [advanced, found]
    split
    · exact ⟨_, rfl⟩
    · exact ⟨_, rfl⟩
  · intro entry
    rw [disconnect_inFlight, advanced, List.mem_filter]
    split
    · next failed =>
      constructor
      · rintro ⟨member, spared⟩
        obtain ⟨owner, sentAt, found, _, _, waits⟩ := (sound.entry_iff entry).mp member
        obtain ⟨_, lost⟩ := woken _ _ found failed
        rw [waits] at lost
        cases lost
        simp at spared
      · rintro ⟨request, sentAt, found, _, _, waits⟩
        obtain ⟨before, _, rfl⟩ := Option.map_eq_some_iff.mp found
        cases waits
    · next spared =>
      rw [sound.entry_iff]
      constructor
      · exact And.left
      · intro waiting
        refine ⟨waiting, ?_⟩
        have member := (sound.entry_iff entry).mpr waiting
        simpa using fun same => spared ⟨entry, member, same, rfl⟩
  · intro number other foundOther eager
    rw [advanced] at foundOther
    rw [disconnect_ready]
    split at foundOther
    · next failed =>
      obtain ⟨entry, member, same, rfl⟩ := failed
      refine List.mem_append_right _ (List.mem_map.mpr ⟨entry, ?_, rfl⟩)
      exact List.mem_filter.mpr ⟨member, by simpa using same⟩
    · exact List.mem_append_left _ (sound.ready foundOther eager)

/-! ## What becomes of one request -/

/-- The request that an entry belongs to is the only one under its key that waits. -/
theorem entryFor?_of_waiting (sound : requests.Sound) {number generation sentAt : Nat}
    {request : Request} (found : requests.find? number = some request)
    (waits : request.standing = .waiting generation sentAt) :
    ∃ entry, requests.entryFor? request.key = some entry ∧ entry.request = number := by
  have member := sound.entry_of_waiting found waits
  cases first : requests.entryFor? request.key with
  | none => exact absurd rfl (entryFor?_eq_none_iff.mp first _ member)
  | some entry =>
    refine ⟨entry, rfl, ?_⟩
    obtain ⟨memberFirst, sameKey⟩ := mem_of_entryFor? first
    obtain ⟨owner, sentAt, foundOwner, ownerKey, _, ownerWaits⟩ :=
      (sound.entry_iff entry).mp memberFirst
    exact (sound.turn_unique found (by simp [waits]) foundOwner (by simp [ownerWaits])
      (ownerKey.trans sameKey)).1

/-- A reply goes to the request that waits under its key, and touches no other. -/
theorem deliver_find? (sound : requests.Sound) {key : RequestKey} {reply : Reply}
    (fits : reply.kind = key.replyKind) (number : Nat) :
    (requests.deliver key reply).find? number = (requests.find? number).map fun request =>
      if request.key = key ∧ request.standing.isWaiting = true then
        { request with standing := .answered reply }
      else request := by
  have waiting : ∀ request, requests.find? number = some request → request.key = key →
      request.standing.isWaiting = true →
      ∃ entry, requests.entryFor? key = some entry ∧ entry.request = number := by
    rintro request found rfl waits
    unfold Standing.isWaiting at waits
    split at waits
    · next standing => exact sound.entryFor?_of_waiting found standing
    · cases waits
  cases answered : requests.entryFor? key with
  | none =>
    have untouched : requests.deliver key reply = requests := by
      simp only [Requests.deliver, answered]
    rw [untouched]
    cases found : requests.find? number with
    | none => rfl
    | some request =>
      rw [Option.map_some, if_neg]
      rintro ⟨same, waits⟩
      obtain ⟨entry, some, _⟩ := waiting request found same waits
      rw [answered] at some
      cases some
  | some entry =>
    obtain ⟨member, sameKey⟩ := mem_of_entryFor? answered
    obtain ⟨owner, sentAt, foundOwner, ownerKey, awaits, waits⟩ :=
      (sound.entry_iff entry).mp member
    have expected : entry.awaits = reply.kind := by
      rw [← awaits, sound.awaits foundOwner, ownerKey, sameKey, fits]
    simp only [Requests.deliver, answered, if_pos expected, find?_wake, find?_clear]
    by_cases own : number = entry.request
    · rw [if_pos own, own, foundOwner, Option.map_some, Option.map_some, if_pos]
      exact ⟨ownerKey.trans sameKey, by rw [waits]; rfl⟩
    · rw [if_neg own]
      cases found : requests.find? number with
      | none => rfl
      | some request =>
        rw [Option.map_some, if_neg]
        rintro ⟨same, waitsToo⟩
        obtain ⟨other, first, sameNumber⟩ := waiting request found same waitsToo
        rw [answered] at first
        cases first
        exact own sameNumber.symm

/-- The end of a socket reaches the requests that wait on it, and touches no other. -/
theorem disconnect_find? (sound : requests.Sound) (generation number : Nat) :
    (requests.disconnect generation).find? number = (requests.find? number).map fun request =>
      if request.standing.waitsOn generation = true then
        { request with standing := .disconnected }
      else request := by
  rw [Requests.disconnect_find?]
  cases found : requests.find? number with
  | none => simp
  | some request =>
    have lost : (∃ entry ∈ requests.inFlight,
        entry.generation = generation ∧ entry.request = number) ↔
          request.standing.waitsOn generation = true := by
      constructor
      · rintro ⟨entry, member, rfl, rfl⟩
        obtain ⟨owner, sentAt, foundOwner, _, _, waits⟩ := (sound.entry_iff entry).mp member
        rw [found] at foundOwner
        cases foundOwner
        simp [Standing.waitsOn, waits]
      · intro waits
        unfold Standing.waitsOn at waits
        split at waits
        · next other sentAt standing =>
          have same : other = generation := by simpa using waits
          subst same
          exact ⟨_, sound.entry_of_waiting found standing, rfl, rfl⟩
        · cases waits
    simp only [lost, Option.map_some]
    split <;> rfl

end Sound

end Requests

end RemoteAgent
