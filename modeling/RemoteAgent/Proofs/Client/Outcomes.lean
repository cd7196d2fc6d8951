import RemoteAgent.Proofs.Client.Progress

/-!
# What the trace tells of requests

A request is issued once, under one key, and has at most one outcome, after which it is gone; its
frame is not sent before its turn (`Reachable.outcomes`). A request that is gone does not come
back (`Move.gone`).
-/

namespace RemoteAgent.Client

/-- What the trace tells of requests. -/
structure Outcomes (client : Client) : Prop where
  issued_lt : ∀ {number key}, .issued number key ∈ client.trace → number < client.requests.issued
  /-- A request has one key. -/
  issued_unique : ∀ {number key other}, .issued number key ∈ client.trace →
    .issued number other ∈ client.trace → key = other
  issued : ∀ {number request}, client.requests.find? number = some request →
    .issued number request.key ∈ client.trace
  answered_lt : ∀ {number outcome}, .answered number outcome ∈ client.trace →
    number < client.requests.issued
  /-- A request has one outcome. -/
  answered_unique : ∀ {number outcome other}, .answered number outcome ∈ client.trace →
    .answered number other ∈ client.trace → outcome = other
  /-- A request that has an outcome is gone. -/
  unanswered : ∀ {number request outcome}, client.requests.find? number = some request →
    .answered number outcome ∉ client.trace
  sent_lt : ∀ {number generation}, .sent number generation ∈ client.trace →
    number < client.requests.issued
  /-- The frame of a request is not sent before its turn. -/
  unsent : ∀ {number request generation}, client.requests.find? number = some request →
    request.standing = .granted ∨ request.standing = .queued →
      .sent number generation ∉ client.trace

variable {client after : Client} {action : Action}

/-- How a request ends is settled by its standing. -/
theorem Ends.unique {request : Request} {outcome other : Except Failure Reply}
    (first : client.Ends request outcome) (second : client.Ends request other) :
    outcome = other := by
  cases first with
  | unsent turn =>
    cases second with
    | unsent => rfl
    | overdue waits => exact absurd (turn.symm.trans waits) (by simp)
    | answered came => exact absurd (turn.symm.trans came) (by simp)
    | lost gone => exact absurd (turn.symm.trans gone) (by simp)
  | overdue waits limited =>
    cases second with
    | unsent turn => exact absurd (waits.symm.trans turn) (by simp)
    | overdue _ limitedToo =>
      rw [limited] at limitedToo
      cases limitedToo
      rfl
    | answered came => exact absurd (waits.symm.trans came) (by simp)
    | lost gone => exact absurd (waits.symm.trans gone) (by simp)
  | answered came =>
    cases second with
    | unsent turn => exact absurd (came.symm.trans turn) (by simp)
    | overdue waits => exact absurd (came.symm.trans waits) (by simp)
    | answered cameToo =>
      rw [came] at cameToo
      cases cameToo
      rfl
    | lost gone => exact absurd (came.symm.trans gone) (by simp)
  | lost gone =>
    cases second with
    | unsent turn => exact absurd (gone.symm.trans turn) (by simp)
    | overdue waits => exact absurd (gone.symm.trans waits) (by simp)
    | answered came => exact absurd (gone.symm.trans came) (by simp)
    | lost => rfl

/-- The number of requests only grows. -/
theorem Move.issued_le (moves : Move action client after) :
    client.requests.issued ≤ after.requests.issued := by
  cases moves with
  | remarks remarks => exact Nat.le_of_eq (by rw [remarks.requests])
  | registers => exact Nat.le_refl _
  | waits => exact Nat.le_refl _
  | request moves =>
    cases moves with
    | issues => exact Nat.le_trans (Nat.le_succ _) (Nat.le_of_eq (Requests.issue_issued ..).symm)
    | sends => exact Nat.le_of_eq (Requests.enter_issued ..).symm
    | ends => exact Nat.le_of_eq (Requests.release_issued ..).symm
    | rests => exact Nat.le_refl _
    | drops => exact Nat.le_of_eq (Requests.drop_issued ..).symm
    | delivers => exact Nat.le_of_eq (Requests.deliver_issued ..).symm
  | link moves => exact Nat.le_of_eq (by rw [moves.requests])
  | loses => exact Nat.le_of_eq (Requests.disconnect_issued ..).symm
  | releases => exact Nat.le_refl _

/-- A request that is gone does not come back. -/
theorem Move.gone (moves : Move action client after) (sound : client.Sound) {number : Nat}
    (past : number < client.requests.issued) (gone : client.requests.find? number = none) :
    after.requests.find? number = none := by
  refine Option.eq_none_iff_forall_ne_some.mpr fun request found => ?_
  rcases moves.foundAfter sound found with ⟨before, foundBefore, _⟩ | ⟨_, newest, _⟩
  · rw [gone] at foundBefore
    cases foundBefore
  · omega

/-- The key of a request stays. -/
theorem key_of_follows {before request : Request}
    (follows : before.Follows action client after request) : request.key = before.key := by
  cases follows <;> rfl

theorem Move.outcomes (moves : Move action client after) (sound : client.Sound)
    (outcomes : client.Outcomes) : after.Outcomes := by
  have counted := moves.issued_le
  refine ⟨?_, ?_, ?_, ?_, ?_, ?_, ?_, ?_⟩
  · intro number key member
    rcases moves.explains sound member with old | ⟨_, _, newest, _⟩
    · exact Nat.lt_of_lt_of_le (outcomes.issued_lt old) counted
    · omega
  · intro number key other first second
    rcases moves.explains sound first with oldFirst | ⟨_, newFirst, _, request, found, rfl⟩
    · rcases moves.explains sound second with oldSecond | ⟨_, newSecond, _⟩
      · exact outcomes.issued_unique oldFirst oldSecond
      · have past := outcomes.issued_lt oldFirst
        omega
    · rcases moves.explains sound second with oldSecond | ⟨_, _, _, requestToo, foundToo, rfl⟩
      · have past := outcomes.issued_lt oldSecond
        omega
      · rw [found] at foundToo
        cases foundToo
        rfl
  · intro number request found
    rcases moves.foundAfter sound found with ⟨before, foundBefore, follows⟩ | ⟨_, _, _, _, told⟩
    · rw [key_of_follows follows]
      exact moves.remembers sound (outcomes.issued foundBefore)
    · rw [told]
      exact List.mem_cons_self
  · intro number outcome member
    rcases moves.explains sound member with old | ⟨_, request, found, _⟩
    · exact Nat.lt_of_lt_of_le (outcomes.answered_lt old) counted
    · exact Nat.lt_of_lt_of_le (sound.requests.number_lt found) counted
  · intro number outcome other first second
    rcases moves.explains sound first with oldFirst | ⟨_, request, found, ending, _⟩
    · rcases moves.explains sound second with oldSecond | ⟨_, request, found, _⟩
      · exact outcomes.answered_unique oldFirst oldSecond
      · exact absurd oldFirst (outcomes.unanswered found)
    · rcases moves.explains sound second with oldSecond | ⟨_, requestToo, foundToo, endingToo, _⟩
      · exact absurd oldSecond (outcomes.unanswered found)
      · rw [found] at foundToo
        cases foundToo
        exact ending.unique endingToo
  · intro number request outcome found member
    rcases moves.explains sound member with old | ⟨_, ended, foundEnded, _, released⟩
    · rcases moves.foundAfter sound found with ⟨before, foundBefore, _⟩ | ⟨_, newest, _⟩
      · exact outcomes.unanswered foundBefore old
      · have past := outcomes.answered_lt old
        omega
    · have named := Requests.number_of_find? foundEnded
      rw [released, Requests.release_find?, if_pos named.symm] at found
      cases found
  · intro number generation member
    rcases moves.explains sound member with old | ⟨_, _, request, found, _⟩
    · exact Nat.lt_of_lt_of_le (outcomes.sent_lt old) counted
    · exact Nat.lt_of_lt_of_le (sound.requests.number_lt found) counted
  · intro number request generation found early member
    rcases moves.foundAfter sound found with ⟨before, foundBefore, follows⟩ | ⟨_, newest, _⟩
    · rcases moves.explains sound member with old | ⟨_, opened, sent, foundSent, turn, entered⟩
      · refine outcomes.unsent foundBefore ?_ old
        cases follows with
        | same => exact early
        | granted queued => exact .inr queued
        | sent => simp at early
        | answered => simp at early
        | lost => simp at early
      · have named := Requests.number_of_find? foundSent
        rw [entered, sound.requests.enter_find? _ _ (named.symm ▸ foundSent) turn,
          if_pos named.symm] at found
        cases found
        simp at early
    · rcases moves.explains sound member with old | ⟨_, _, sent, foundSent, _⟩
      · have past := outcomes.sent_lt old
        omega
      · have past := sound.requests.number_lt foundSent
        omega

theorem Reachable.outcomes {config : Config} (reachable : Reachable config client) :
    client.Outcomes := by
  refine reachable.bySoundMoves ?_ fun _ _ _ sound moves outcomes => moves.outcomes sound outcomes
  constructor <;> simp [Client.initial, Requests.find?]

end RemoteAgent.Client
