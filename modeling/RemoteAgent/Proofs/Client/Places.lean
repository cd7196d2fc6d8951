import RemoteAgent.Proofs.Client.Frames
import RemoteAgent.Proofs.Client.Outcomes

/-!
# The places of frames

A frame that was accepted has a place: its socket, and its number among the frames accepted for
that. A request is sent once, and its frame keeps its place (`Move.placeOf`). While a request
waits for its reply, no other one under its key is sent, so that any request at a later place has
another key (`Reachable.places`).
-/

namespace RemoteAgent

/-- A place among the frames accepted for a socket, counted from nothing. -/
structure Place where
  generation : Nat
  index : Nat
  deriving DecidableEq, Repr

/-- A place comes before another on the same socket, or is on an older one. -/
def Place.Precedes (place other : Place) : Prop :=
  place.generation < other.generation ∨
    place.generation = other.generation ∧ place.index < other.index

/-- The frame accepted at a place. -/
def frameAt (place : Place) (trace : List Event) : Option Bytes :=
  (acceptedOn place.generation trace)[place.index]?

/-- The place of the frame of a request. A request is sent when its frame has just been accepted. -/
def placeOf (number : Nat) : List Event → Option Place
  | [] => none
  | .sent other generation :: earlier =>
    if other = number then some ⟨generation, (acceptedOn generation earlier).length - 1⟩
    else placeOf number earlier
  | _ :: earlier => placeOf number earlier

/-- Frames keep their places. -/
theorem frameAt_append {place : Place} {trace : List Event} {octets : Bytes}
    (accepted : frameAt place trace = some octets) (events : List Event) :
    frameAt place (events ++ trace) = some octets := by
  obtain ⟨inside, _⟩ := List.getElem?_eq_some_iff.mp accepted
  rw [frameAt, acceptedOn_append, List.getElem?_append_left inside]
  exact accepted

/-- A request that was sent is told of as sent. -/
theorem sent_of_placeOf {number : Nat} {place : Place} {trace : List Event}
    (placed : placeOf number trace = some place) :
    ∃ generation, .sent number generation ∈ trace := by
  induction trace with
  | nil => cases placed
  | cons event earlier inductionHypothesis =>
    have later : placeOf number earlier = some place →
        ∃ generation, .sent number generation ∈ event :: earlier := by
      intro before
      obtain ⟨generation, member⟩ := inductionHypothesis before
      exact ⟨generation, List.mem_cons_of_mem _ member⟩
    cases event with
    | sent other generation =>
      rw [placeOf] at placed
      split at placed
      · next own =>
        subst own
        exact ⟨generation, List.mem_cons_self⟩
      · exact later placed
    | _ => exact later placed

/-- Without a request that is sent, no place is taken. -/
theorem placeOf_append {events : List Event}
    (unsent : ∀ number generation, .sent number generation ∉ events) (number : Nat)
    (trace : List Event) : placeOf number (events ++ trace) = placeOf number trace := by
  induction events with
  | nil => rfl
  | cons event later inductionHypothesis =>
    have rest := inductionHypothesis fun number generation member =>
      unsent number generation (List.mem_cons_of_mem _ member)
    cases event with
    | sent other generation => exact absurd List.mem_cons_self (unsent other generation)
    | _ => exact rest

/-- The place that a request takes when it is sent. -/
theorem placeOf_sent (number sent generation : Nat) (frame : Bytes) (trace : List Event) :
    placeOf number (.sent sent generation :: .accepted generation frame :: trace) =
      if sent = number then some ⟨generation, (acceptedOn generation trace).length⟩
      else placeOf number trace := by
  have accepted := acceptedOn_append generation [.accepted generation frame] trace
  have one : acceptedOn generation [.accepted generation frame] = [frame] := by
    simp [acceptedOn, Event.accepted?]
  simp only [List.singleton_append, one] at accepted
  simp [placeOf, accepted]

/-- The frame of a request is at the place that it takes. -/
theorem frameAt_sent (number generation : Nat) (frame : Bytes) (trace : List Event) :
    frameAt ⟨generation, (acceptedOn generation trace).length⟩
      (.sent number generation :: .accepted generation frame :: trace) = some frame := by
  have accepted := acceptedOn_append generation
    [.sent number generation, .accepted generation frame] trace
  have one : acceptedOn generation [.sent number generation, .accepted generation frame] =
      [frame] := by
    simp [acceptedOn, Event.accepted?]
  simp only [List.cons_append, List.nil_append, one] at accepted
  simp [frameAt, accepted]

namespace Client

variable {client after : Client} {action : Action}

/-- A move sends one request, whose frame is accepted with it, or none. -/
theorem Move.sends (moves : Move action client after) (sound : client.Sound) :
    (∃ request generation, action.runsRequests = true ∧
        client.requests.find? request.number = some request ∧ request.standing = .granted ∧
        client.link.lifecycle = .opened generation ∧
        after.trace = .sent request.number generation ::
          .accepted generation request.frame :: client.trace) ∨
      ∃ events, after.trace = events ++ client.trace ∧
        ∀ number generation, .sent number generation ∉ events := by
  obtain ⟨events, extended, explained⟩ := moves.adds sound
  by_cases sent : ∃ number generation, .sent number generation ∈ events
  · left
    obtain ⟨number, generation, member⟩ := sent
    obtain ⟨_, _, request, found, turn, entered⟩ := explained _ member
    obtain rfl := Requests.number_of_find? found
    have foundAfter : after.requests.find? request.number =
        some { request with standing := .waiting generation client.clock } := by
      rw [entered, sound.requests.enter_find? _ _ found turn, if_pos rfl]
    rcases moves.foundAfter sound foundAfter with ⟨before, foundBefore, follows⟩ | ⟨_, newest, _⟩
    · rw [found] at foundBefore
      cases foundBefore
      generalize next : { request with standing := Standing.waiting generation client.clock } = last
        at follows
      cases follows with
      | same => rw [← next] at turn; cases turn
      | granted => cases next
      | sent runs _ opened told => exact ⟨request, _, runs, found, turn, opened, told⟩
      | answered => cases next
      | lost => cases next
    · rw [newest, sound.requests.find?_issued] at found
      cases found
  · exact .inr ⟨events, extended, fun number generation member =>
      sent ⟨number, generation, member⟩⟩

/-- Where the requests of a client are placed, and what is known of those that wait. -/
structure Places (client : Client) : Prop where
  /-- At the place of a request is its frame. -/
  placed : ∀ {number place}, placeOf number client.trace = some place →
    ∃ key frame, .issued number key ∈ client.trace ∧ Outbound.key? frame = some key ∧
      frameAt place client.trace = some frame.encode
  framed : ∀ {number request}, client.requests.find? number = some request →
    ∃ frame, Outbound.key? frame = some request.key ∧ request.frame = frame.encode
  /-- No request under the key of one that waits is placed after it. -/
  waiting : ∀ {number request}, client.requests.find? number = some request →
    request.standing.isWaiting = true →
      ∃ own, placeOf number client.trace = some own ∧
        ∀ other place, placeOf other client.trace = some place →
          place = own ∨ place.Precedes own ∨
            ∃ key, .issued other key ∈ client.trace ∧ key ≠ request.key

/-- A place that is taken is one of a socket that was opened. -/
theorem Places.generation_le (places : client.Places) (history : client.History) {number : Nat}
    {place : Place} (placed : placeOf number client.trace = some place) :
    place.generation ≤ client.link.generations := by
  obtain ⟨_, frame, _, _, accepted⟩ := places.placed placed
  have member := List.mem_of_getElem? accepted
  simp only [acceptedOn, List.mem_filterMap, List.mem_reverse] at member
  obtain ⟨event, told, isAccepted⟩ := member
  cases event with
  | accepted generation octets =>
    apply history.traffic told
    by_cases same : generation = place.generation
    · simp [Event.isTraffic, same]
    · simp [Event.accepted?, same] at isAccepted
  | _ => cases isAccepted

/-- A request keeps its place. -/
theorem Move.placeOf (moves : Move action client after) (sound : client.Sound)
    (outcomes : client.Outcomes) {number : Nat} {place : Place}
    (placed : placeOf number client.trace = some place) :
    RemoteAgent.placeOf number after.trace = some place := by
  rcases moves.sends sound with ⟨request, generation, _, found, turn, _, told⟩ |
    ⟨events, extended, unsent⟩
  · rw [told, placeOf_sent, if_neg]
    · exact placed
    · rintro rfl
      obtain ⟨opened, sent⟩ := sent_of_placeOf placed
      exact outcomes.unsent found (.inl turn) sent
  · rw [extended, placeOf_append unsent]
    exact placed

/-- The frame of a request stays. -/
theorem frame_of_follows {before request : Request}
    (follows : before.Follows action client after request) : request.frame = before.frame := by
  cases follows <;> rfl

/-- A request that waits after a move waited before it, or has just been sent. -/
theorem waiting_of_follows {before request : Request}
    (follows : before.Follows action client after request)
    (waits : request.standing.isWaiting = true) :
    before.standing.isWaiting = true ∨
      ∃ generation, before.standing = .granted ∧ client.link.lifecycle = .opened generation ∧
        after.trace = .sent before.number generation ::
          .accepted generation before.frame :: client.trace := by
  cases follows with
  | same => exact .inl waits
  | granted => cases waits
  | sent _ turn opened told => exact .inr ⟨_, turn, opened, told⟩
  | answered => cases waits
  | lost => cases waits

theorem Move.placed (moves : Move action client after) (sound : client.Sound)
    (outcomes : client.Outcomes) (places : client.Places) {number : Nat} {place : Place}
    (placed : RemoteAgent.placeOf number after.trace = some place) :
    ∃ key frame, .issued number key ∈ after.trace ∧ Outbound.key? frame = some key ∧
      frameAt place after.trace = some frame.encode := by
  have kept : RemoteAgent.placeOf number client.trace = some place →
      ∃ key frame, .issued number key ∈ after.trace ∧ Outbound.key? frame = some key ∧
        frameAt place after.trace = some frame.encode := by
    intro before
    obtain ⟨key, frame, issued, named, accepted⟩ := places.placed before
    obtain ⟨events, extended, _⟩ := moves.adds sound
    exact ⟨key, frame, moves.remembers sound issued, named,
      extended ▸ frameAt_append accepted events⟩
  rcases moves.sends sound with ⟨request, generation, _, found, turn, _, told⟩ |
    ⟨events, extended, unsent⟩
  · rw [told, placeOf_sent] at placed
    split at placed
    · next own =>
      subst own
      cases placed
      obtain ⟨frame, named, encoded⟩ := places.framed found
      refine ⟨request.key, frame, moves.remembers sound (outcomes.issued found), named, ?_⟩
      rw [told, frameAt_sent, encoded]
    · exact kept placed
  · rw [extended, placeOf_append unsent] at placed
    exact kept placed

/-- While a request waits, no other one under its key has its turn. -/
theorem key_ne_of_turns {requests : Requests} (sound : requests.Sound) {number other : Nat}
    {request turned : Request} (found : requests.find? number = some request)
    (waits : request.standing.isWaiting = true) (foundOther : requests.find? other = some turned)
    (turn : turned.standing = .granted) : turned.key ≠ request.key := by
  intro sameKey
  have unqueued : request.standing ≠ .queued := by
    intro queued
    rw [queued] at waits
    cases waits
  obtain ⟨_, rfl⟩ := sound.turn_unique found unqueued foundOther (by simp [turn]) sameKey
  rw [turn] at waits
  cases waits

/-- Whatever was placed is on an older socket than the open one, or was accepted earlier than any
frame that is still to come. -/
theorem Places.precedes_next (places : client.Places) (sound : client.Sound)
    (history : client.History) {generation number : Nat} {place : Place}
    (opened : client.link.lifecycle = .opened generation)
    (placed : placeOf number client.trace = some place) :
    place.Precedes ⟨generation, (acceptedOn generation client.trace).length⟩ := by
  have bounded := places.generation_le history placed
  rw [← (sound.link.opened opened).1] at bounded
  obtain ⟨_, frame, _, _, accepted⟩ := places.placed placed
  obtain ⟨inside, _⟩ := List.getElem?_eq_some_iff.mp accepted
  rcases Nat.lt_or_eq_of_le bounded with older | same
  · exact .inl older
  · exact .inr ⟨same, same ▸ inside⟩

theorem Move.places (moves : Move action client after) (sound : client.Sound)
    (history : client.History) (outcomes : client.Outcomes) (places : client.Places) :
    after.Places := by
  refine ⟨moves.placed sound outcomes places, ?_, ?_⟩
  · intro number request found
    rcases moves.foundAfter sound found with ⟨before, foundBefore, follows⟩ |
      ⟨_, _, _, ⟨transfer, want, wanted, sameKey, sameFrame⟩, _⟩
    · rw [key_of_follows follows, frame_of_follows follows]
      exact places.framed foundBefore
    · exact ⟨want.frame, sameKey ▸ Transfer.key_of_wants wanted, sameFrame⟩
  · intro number request found waits
    rcases moves.foundAfter sound found with ⟨before, foundBefore, follows⟩ | ⟨_, _, early, _⟩
    · rcases waiting_of_follows follows waits with waited | ⟨generation, turn, opened, told⟩
      · obtain ⟨own, placed, others⟩ := places.waiting foundBefore waited
        refine ⟨own, moves.placeOf sound outcomes placed, ?_⟩
        intro other place placedAfter
        have kept : RemoteAgent.placeOf other client.trace = some place →
            place = own ∨ place.Precedes own ∨
              ∃ key, .issued other key ∈ after.trace ∧ key ≠ request.key := by
          intro placedBefore
          refine (others other place placedBefore).imp_right (Or.imp_right ?_)
          rintro ⟨key, issued, different⟩
          exact ⟨key, moves.remembers sound issued, key_of_follows follows ▸ different⟩
        rcases moves.sends sound with ⟨sent, generation, _, foundSent, turn, _, told⟩ |
          ⟨events, extended, unsent⟩
        · rw [told, placeOf_sent] at placedAfter
          split at placedAfter
          · next isSent =>
            subst isSent
            refine .inr (.inr ⟨sent.key, moves.remembers sound (outcomes.issued foundSent), ?_⟩)
            rw [key_of_follows follows]
            exact key_ne_of_turns sound.requests foundBefore waited foundSent turn
          · exact kept placedAfter
        · rw [extended, placeOf_append unsent] at placedAfter
          exact kept placedAfter
      · obtain rfl := Requests.number_of_find? foundBefore
        refine ⟨⟨generation, (acceptedOn generation client.trace).length⟩, ?_, ?_⟩
        · rw [told, placeOf_sent, if_pos rfl]
        · intro other place placedAfter
          rw [told, placeOf_sent] at placedAfter
          split at placedAfter
          · cases placedAfter
            exact .inl rfl
          · exact .inr (.inl (places.precedes_next sound history opened placedAfter))
    · rcases early with turn | turn <;> simp [Standing.isWaiting, turn] at waits

theorem Reachable.places {config : Config} (reachable : Reachable config client) :
    client.Places := by
  refine (@Reachable.byHistory _ _ (fun client => client.Outcomes ∧ client.Places) reachable
    ⟨Reachable.initial.outcomes, ?_⟩ ?_).2
  · exact ⟨by simp [Client.initial, RemoteAgent.placeOf], by simp [Client.initial, Requests.find?],
      by simp [Client.initial, Requests.find?]⟩
  · rintro action client after sound history moves ⟨outcomes, places⟩
    exact ⟨moves.outcomes sound outcomes, moves.places sound history outcomes places⟩

/-- A step of a client that can be reached keeps what its moves keep. -/
theorem Reachable.step_keeps {config : Config} {client : Client} {action : Action}
    {property : Client → Prop} (reachable : Reachable config client)
    (kept : ∀ middle next, middle.Sound → middle.Outcomes → middle.Places →
      Move action middle next → property middle → property next)
    (before : property client) : property (client.step action) := by
  refine (@step_induct client action (fun client => (client.Sound ∧ client.History ∧
    client.Outcomes ∧ client.Places) ∧ property client) reachable.requests_sound ?_
    ⟨⟨reachable.sound, reachable.history, reachable.outcomes, reachable.places⟩, before⟩).2.2
  rintro middle next _ moves ⟨⟨sound, history, outcomes, places⟩, holds⟩
  exact ⟨⟨moves.keepsSound sound, moves.history sound history, moves.outcomes sound outcomes,
    moves.places sound history outcomes places⟩, kept middle next sound outcomes places moves holds⟩

end Client

end RemoteAgent
