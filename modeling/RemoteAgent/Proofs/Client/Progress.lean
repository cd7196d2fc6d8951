import RemoteAgent.Proofs.Client.Trace

/-!
# The course of a request

What a move can do to one request: it leaves it alone or brings it further (`Request.Follows`), it
ends it (`Ends`), or it gives it up because its owner does (`GivesUp`). `Move.foundAfter` and
`Move.foundBefore` say that there is nothing else, looking back from a move and ahead to it.
-/

namespace RemoteAgent

/-- How a request that has not ended follows from one before a move. -/
inductive Request.Follows (action : Action) (client after : Client) (before : Request) :
    Request → Prop where
  | same : Follows action client after before before
  /-- It is its turn now. -/
  | granted (queued : before.standing = .queued) :
      Follows action client after before { before with standing := .granted }
  /-- Its frame is accepted for the open socket. -/
  | sent {generation : Nat} (runs : action.runsRequests = true)
      (turn : before.standing = .granted) (opened : client.link.lifecycle = .opened generation)
      (told : after.trace = .sent before.number generation ::
        .accepted generation before.frame :: client.trace) :
      Follows action client after before
        { before with standing := .waiting generation client.clock }
  /-- A reply under its key comes in. -/
  | answered {generation : Nat} {socket : Socket} {octets : Bytes} {frame : Inbound} {reply : Reply}
      (waits : before.standing.isWaiting = true)
      (receives : action = .receive generation (.binary octets))
      (found : client.link.socket? generation = some socket) (running : socket.stage = .running)
      (decoded : Inbound.decode octets = .ok frame)
      (answers : frame.reply? = some (before.key, reply)) :
      Follows action client after before { before with standing := .answered reply }
  /-- Its socket is gone. -/
  | lost {generation : Nat} (waits : before.standing.waitsOn generation = true)
      (reports : action = .report generation) :
      Follows action client after before { before with standing := .disconnected }

namespace Client

/-- The action gives up a request, with the call that waits for it or with the client. -/
def GivesUp (client : Client) (number : Nat) : Action → Prop
  | .cancel call => ∃ waiting ∈ client.calls, waiting.number = call ∧ waiting.request = number
  | .release => True
  | _ => False

instance (client : Client) (number : Nat) (action : Action) :
    Decidable (client.GivesUp number action) := by
  unfold GivesUp
  split <;> infer_instance

variable {client after : Client} {action : Action}

/-- The same request is found after a move that leaves the requests alone. -/
private theorem follows_same {number : Nat} {request : Request}
    (same : after.requests.find? number = client.requests.find? number)
    (found : after.requests.find? number = some request) :
    ∃ before, client.requests.find? number = some before ∧
      before.Follows action client after request :=
  ⟨request, same ▸ found, .same⟩

/-- A request is found after the turn went to the head of a queue. -/
private theorem follows_of_granted (sound : client.Sound) {number : Nat} {request : Request}
    {key : RequestKey} {passes : Prop} [Decidable passes]
    (first : passes → (client.requests.queue key).head? = some number)
    (found : (if passes then (client.requests.find? number).map fun next =>
        { next with standing := .granted }
      else client.requests.find? number) = some request) :
    ∃ before, client.requests.find? number = some before ∧
      before.Follows action client after request := by
  split at found
  · next isFirst =>
    obtain ⟨before, foundBefore, rfl⟩ := Option.map_eq_some_iff.mp found
    obtain ⟨queued, foundQueued, _, standing⟩ :=
      (sound.requests.queue_iff key number).mp (List.mem_of_head? (first isFirst))
    rw [foundBefore] at foundQueued
    cases foundQueued
    exact ⟨before, foundBefore, .granted standing⟩
  · exact ⟨request, found, .same⟩

/-- A request that is found after a move was there before it and has come further, or is new. -/
theorem Move.foundAfter (moves : Move action client after) (sound : client.Sound) {number : Nat}
    {request : Request} (found : after.requests.find? number = some request) :
    (∃ before, client.requests.find? number = some before ∧
        before.Follows action client after request) ∨
      action.runsRequests = true ∧ number = client.requests.issued ∧
        (request.standing = .granted ∨ request.standing = .queued) ∧
        (∃ transfer : Transfer, ∃ want, transfer.wants client.config.chunkSize = .ok want ∧
          request.key = want.key ∧ request.frame = want.frame.encode) ∧
        after.trace = .issued number request.key :: client.trace := by
  cases moves with
  | remarks remarks => exact .inl (follows_same (by rw [remarks.requests]) found)
  | registers => exact .inl (follows_same rfl found)
  | waits => exact .inl (follows_same rfl found)
  | request moves =>
    cases moves with
    | @issues call want runs asked wanted =>
      have table : (client.issue call want).1.requests =
          (client.requests.issue want call.limit).1 := rfl
      rw [table, sound.requests.issue_find?] at found
      split at found
      · next newest =>
        cases found
        obtain ⟨standing, seat, request⟩ := client.requests.issue_request want call.limit
        refine .inr ⟨runs, newest, ?_, ?_, ?_⟩
        · rw [request]
          exact seat
        · exact ⟨call.transfer, want, wanted, by rw [request]; rfl, by rw [request]; rfl⟩
        · rw [newest, ← Requests.issue_number client.requests want call.limit]
          rfl
      · exact .inl ⟨request, found, .same⟩
    | sends runs foundSent turn opened =>
      rw [note_requests, note_requests, sound.requests.enter_find? _ _ foundSent turn] at found
      split at found
      · next own =>
        cases found
        exact .inl ⟨_, own ▸ foundSent, .sent runs turn opened rfl⟩
      · exact .inl ⟨request, found, .same⟩
    | @ends ended outcome runs foundEnded ending =>
      rw [note_requests, Requests.release_find?] at found
      split at found
      · cases found
      · exact .inl (follows_of_granted sound id found)
    | rests => exact .inl (follows_same rfl found)
    | drops cancels waits foundDropped =>
      have foundOwn := Requests.number_of_find? foundDropped ▸ foundDropped
      rw [sound.requests.drop_find? foundOwn] at found
      split at found
      · cases found
      · exact .inl (follows_of_granted sound And.right found)
    | @delivers _ _ _ frame key reply receives foundSocket running decoded answers =>
      have fits := Inbound.reply?_eq_some_key_kind answers
      rw [sound.requests.deliver_find? fits] at found
      obtain ⟨before, foundBefore, rfl⟩ := Option.map_eq_some_iff.mp found
      refine .inl ⟨before, foundBefore, ?_⟩
      split
      · next waits =>
        obtain ⟨rfl, waiting⟩ := waits
        exact .answered waiting receives foundSocket running decoded answers
      · exact .same
  | link moves => exact .inl (follows_same (by rw [moves.requests]) found)
  | loses reports =>
    rw [sound.requests.disconnect_find?] at found
    obtain ⟨before, foundBefore, rfl⟩ := Option.map_eq_some_iff.mp found
    refine .inl ⟨before, foundBefore, ?_⟩
    split
    · next waits => exact .lost waits reports
    · exact .same
  | releases => simp [Requests.find?] at found

/-- A request is gone only when its number is that of the one that left. -/
private theorem left_of_none {number left : Nat} {before : Request} {passes : Prop}
    [Decidable passes] (found : client.requests.find? number = some before)
    (gone : (if number = left then none else if passes then
        (client.requests.find? number).map fun next => { next with standing := .granted }
      else client.requests.find? number) = none) : number = left := by
  by_cases own : number = left
  · exact own
  · rw [if_neg own, found] at gone
    split at gone <;> cases gone

/-- A request that is there before a move comes further, ends, or is given up. -/
theorem Move.foundBefore (moves : Move action client after) (sound : client.Sound) {number : Nat}
    {before : Request} (found : client.requests.find? number = some before) :
    (∃ request, after.requests.find? number = some request ∧
        before.Follows action client after request) ∨
      (∃ outcome, action.runsRequests = true ∧ client.Ends before outcome ∧
        after.trace = .answered number outcome :: client.trace ∧
        after.requests.find? number = none) ∨
      client.GivesUp number action ∧ after.requests.find? number = none := by
  cases gone : after.requests.find? number with
  | some request =>
    rcases moves.foundAfter sound gone with ⟨origin, foundOrigin, follows⟩ | ⟨_, newest, _⟩
    · rw [found] at foundOrigin
      cases foundOrigin
      exact .inl ⟨request, rfl, follows⟩
    · rw [newest, sound.requests.find?_issued] at found
      cases found
  | none =>
    right
    have unchanged : after.requests.find? number ≠ client.requests.find? number := by
      rw [gone, found]
      simp
    cases moves with
    | remarks remarks => exact absurd (by rw [remarks.requests]) unchanged
    | registers => exact absurd rfl unchanged
    | waits => exact absurd rfl unchanged
    | request moves =>
      cases moves with
      | @issues call want =>
        have table : (client.issue call want).1.requests =
            (client.requests.issue want call.limit).1 := rfl
        rw [table, sound.requests.issue_find?, found] at gone
        split at gone <;> cases gone
      | sends _ foundSent turn =>
        rw [note_requests, note_requests, sound.requests.enter_find? _ _ foundSent turn, found]
          at gone
        split at gone <;> cases gone
      | @ends ended outcome runs foundEnded ending =>
        rw [note_requests, Requests.release_find?] at gone
        obtain rfl := left_of_none found gone
        rw [foundEnded] at found
        cases found
        exact .inl ⟨outcome, runs, ending, rfl, rfl⟩
      | rests => exact absurd rfl unchanged
      | @drops call dropped cancels waits foundDropped =>
        have named := Requests.number_of_find? foundDropped
        rw [sound.requests.drop_find? (named.symm ▸ foundDropped)] at gone
        obtain rfl := left_of_none found gone
        refine .inr ⟨?_, rfl⟩
        rw [cancels]
        exact ⟨call, List.mem_of_find?_eq_some waits, rfl, named.symm⟩
      | delivers _ _ _ _ answers =>
        rw [sound.requests.deliver_find? (Inbound.reply?_eq_some_key_kind answers), found] at gone
        cases gone
    | link moves => exact absurd (by rw [moves.requests]) unchanged
    | loses =>
      rw [sound.requests.disconnect_find?, found] at gone
      cases gone
    | releases releasing =>
      rw [releasing]
      exact .inr ⟨trivial, rfl⟩

end Client

end RemoteAgent
