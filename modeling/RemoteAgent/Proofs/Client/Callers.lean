import RemoteAgent.Proofs.Client.Attempts

/-!
# Those who call for an open link

Who waits for an attempt has joined it, nobody joins two attempts, and nobody who waits for an
attempt learns that the link is open unless this attempt has opened a socket
(`Reachable.callers`).
-/

namespace RemoteAgent.Client

/-- What the trace tells of those who call for an open link. -/
structure Callers (client : Client) : Prop where
  waiting : ∀ {attempt caller}, attempt ∈ client.link.attempts → caller ∈ attempt.callers →
    .joined caller attempt.number ∈ client.trace
  joined_lt : ∀ {caller number}, .joined caller number ∈ client.trace → caller < client.called
  connected_lt : ∀ {caller outcome}, .connected caller outcome ∈ client.trace →
    caller < client.called
  /-- A caller joins one attempt. -/
  joined_unique : ∀ {caller number other}, .joined caller number ∈ client.trace →
    .joined caller other ∈ client.trace → number = other
  /-- A caller learns that the link is open only when its attempt has opened a socket. -/
  outcome : ∀ {caller number outcome}, .joined caller number ∈ client.trace →
    .connected caller outcome ∈ client.trace →
      (∃ generation, .opened generation number ∈ client.trace) ∨
        ∃ failure, outcome = .error failure ∧ failure.isConnectionError = true

/-- An attempt ends in a move with an outcome. -/
structure Concludes (action : Action) (client after : Client) (attempt : Attempt)
    (outcome : Except Failure Unit) : Prop where
  resolving : action = .resolve attempt.number
  found : client.link.attempt? attempt.number = some attempt
  link : client.link.lifecycle = .connecting attempt.number ∧ outcome = .ok () ∧
      after.link = client.link.attach attempt.number ∨
    (∃ failure, outcome = .error failure ∧ failure.isConnectionError = true) ∧
      after.link = client.link.fail attempt.number

variable {client after : Client} {action : Action}

theorem Move.called_le (moves : Move action client after) : client.called ≤ after.called := by
  cases moves with
  | remarks remarks => exact remarks.called
  | request moves => exact Nat.le_of_eq moves.keeps.2.2.2.1.symm
  | link moves => cases moves <;> first | exact Nat.le_refl _ | exact Nat.le_succ _
  | _ => exact Nat.le_refl _

/-- Who waits for an attempt after a move waited for it before, or has joined it. -/
theorem Move.waiting (moves : Move action client after) {attempt : Attempt} {caller : Nat}
    (member : attempt ∈ after.link.attempts) (waits : caller ∈ attempt.callers) :
    (∃ before ∈ client.link.attempts, before.number = attempt.number ∧ caller ∈ before.callers) ∨
      .joined caller attempt.number ∈ after.trace := by
  rcases moves.attempt_before member with ⟨before, memberBefore, goesOn⟩ | starts
  · rcases goesOn.joins caller waits with old | ⟨_, joined⟩
    · exact .inl ⟨before, memberBefore, goesOn.number.symm, old⟩
    · exact .inr joined
  · exact .inr (starts.joins caller waits)

/-- Who has joined an attempt in a move has joined the attempt of the link. -/
theorem Move.joins (moves : Move action client after) (sound : client.Sound) {caller number : Nat}
    (joined : .joined caller number ∈ after.trace) :
    .joined caller number ∈ client.trace ∨
      caller = client.called ∧ after.link.lifecycle = .connecting number := by
  rcases moves.explains sound joined with old | ⟨new, _, ⟨connecting, same⟩ | ⟨rfl, _, same⟩⟩
  · exact .inl old
  · exact .inr ⟨new, by rw [same, Link.changeAttempt_lifecycle, connecting]⟩
  · exact .inr ⟨new, by rw [same, Link.dial]⟩

/-- Who has joined an attempt has joined it before the move in which the outcome is told, and waits
for it then. -/
theorem Move.concludes (moves : Move action client after) (sound : client.Sound)
    (callers : client.Callers) {caller number : Nat} {outcome : Except Failure Unit}
    (joined : .joined caller number ∈ after.trace)
    (connected : .connected caller outcome ∈ after.trace) :
    .joined caller number ∈ client.trace ∧ (.connected caller outcome ∈ client.trace ∨
      ∃ attempt, Concludes action client after attempt outcome ∧ attempt.number = number ∧
        caller ∈ attempt.callers) := by
  rcases moves.joins sound joined with oldJoined | ⟨newJoined, named⟩
  · refine ⟨oldJoined, ?_⟩
    have before := callers.joined_lt oldJoined
    rcases moves.explains sound connected with oldConnected | ⟨newConnected, _⟩ |
      ⟨attempt, resolving, found, waits, link⟩
    · exact .inl oldConnected
    · omega
    · have waited := callers.waiting (List.mem_of_find?_eq_some found) waits
      exact .inr ⟨attempt, ⟨resolving, found, link⟩, callers.joined_unique waited oldJoined, waits⟩
  · rcases moves.explains sound connected with oldConnected | ⟨_, _, generation, opened⟩ |
      ⟨attempt, _, found, waits, _⟩
    · have before := callers.connected_lt oldConnected
      omega
    · cases named.symm.trans opened
    · have before := callers.joined_lt (callers.waiting (List.mem_of_find?_eq_some found) waits)
      omega

theorem Move.callers (moves : Move action client after) (sound : client.Sound)
    (history : client.History) (callers : client.Callers) : after.Callers := by
  have called := moves.called_le
  refine ⟨?_, ?_, ?_, ?_, ?_⟩
  · intro attempt caller member waits
    rcases moves.waiting member waits with ⟨before, memberBefore, same, waited⟩ | joined
    · rw [← same]
      exact moves.remembers sound (callers.waiting memberBefore waited)
    · exact joined
  · intro caller number member
    rcases moves.explains sound member with old | ⟨new, counted, _⟩
    · exact Nat.lt_of_lt_of_le (callers.joined_lt old) called
    · omega
  · intro caller outcome member
    rcases moves.explains sound member with old | ⟨new, counted, _⟩ | ⟨attempt, _, found, waits, _⟩
    · exact Nat.lt_of_lt_of_le (callers.connected_lt old) called
    · omega
    · have joined := callers.waiting (List.mem_of_find?_eq_some found) waits
      exact Nat.lt_of_lt_of_le (callers.joined_lt joined) called
  · intro caller number other first second
    rcases moves.joins sound first with oldFirst | ⟨newFirst, namedFirst⟩
    · rcases moves.joins sound second with oldSecond | ⟨newSecond, _⟩
      · exact callers.joined_unique oldFirst oldSecond
      · have before := callers.joined_lt oldFirst
        omega
    · rcases moves.joins sound second with oldSecond | ⟨_, namedSecond⟩
      · have before := callers.joined_lt oldSecond
        omega
      · exact Lifecycle.connecting.inj (namedFirst.symm.trans namedSecond)
  · intro caller number outcome joined connected
    obtain ⟨oldJoined, oldConnected |
        ⟨attempt, ⟨_, found, ⟨_, rfl, attached⟩ | ⟨refused, _⟩⟩, rfl, _⟩⟩ :=
      moves.concludes sound callers joined connected
    · apply (callers.outcome oldJoined oldConnected).imp_left
      rintro ⟨generation, opened⟩
      exact ⟨generation, moves.remembers sound opened⟩
    · have opened := sound.link.socket?_attach_newest attempt.number
      rw [← attached] at opened
      exact .inl ⟨_, (moves.history sound history).socket opened⟩
    · exact .inr refused

theorem Reachable.callers {config : Config} (reachable : Reachable config client) :
    client.Callers := by
  refine reachable.byHistory ?_ fun _ _ _ sound history moves callers =>
    moves.callers sound history callers
  exact ⟨by simp [Client.initial], by simp [Client.initial], by simp [Client.initial],
    by simp [Client.initial], by simp [Client.initial]⟩

end RemoteAgent.Client
