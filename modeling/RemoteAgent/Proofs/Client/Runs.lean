import RemoteAgent.Proofs.Client.Outcomes

/-!
# Runs that spare a request

A run may be known to spare a request, in that its owner never gives it up, and the link may be
known to stand in one way throughout. `run_while` turns what every move keeps under such a
condition into what the run keeps. `IsQuiescent` says that nothing goes on by itself.
-/

namespace RemoteAgent.Client

/-- At every point of a run, from its start to its end, a property holds. -/
def Throughout (client : Client) (actions : List Action) (holds : Client → Prop) : Prop :=
  ∀ first later, actions = first ++ later → holds (client.run first)

/-- At no point of a run is a request given up. -/
def Spares (client : Client) (number : Nat) (actions : List Action) : Prop :=
  ∀ first action later, actions = first ++ action :: later →
    ¬ (client.run first).GivesUp number action

/-- Nothing goes on by itself: no request is ready to run or overdue, every socket runs and has
nothing to write, and no attempt is due. -/
def IsQuiescent (client : Client) : Prop :=
  client.requests.ready = [] ∧
    (∀ request ∈ client.requests.live, request.isOverdue client.clock = false) ∧
    (∀ socket ∈ client.link.sockets, socket.stage = .running ∧ socket.queue = []) ∧
    ∀ attempt ∈ client.link.attempts, attempt.isDue client.clock = false

instance (client : Client) : Decidable client.IsQuiescent := by
  unfold IsQuiescent
  infer_instance

variable {client after : Client} {action : Action}

/-! ## Conditions on runs -/

theorem throughout_nil {holds : Client → Prop} : client.Throughout [] holds ↔ holds client := by
  constructor
  · exact fun throughout => throughout [] [] rfl
  · intro now first later same
    obtain ⟨rfl, rfl⟩ := List.append_eq_nil_iff.mp same.symm
    exact now

theorem throughout_cons {actions : List Action} {holds : Client → Prop} :
    client.Throughout (action :: actions) holds ↔
      holds client ∧ (client.step action).Throughout actions holds := by
  constructor
  · intro throughout
    refine ⟨throughout [] _ rfl, ?_⟩
    rintro first later rfl
    exact throughout (action :: first) later rfl
  · rintro ⟨now, afterwards⟩ first later same
    cases first with
    | nil => exact now
    | cons head first =>
      obtain ⟨rfl, rest⟩ := List.cons.inj same
      exact afterwards first later rest

theorem spares_cons {number : Nat} {actions : List Action} :
    client.Spares number (action :: actions) ↔
      ¬ client.GivesUp number action ∧ (client.step action).Spares number actions := by
  constructor
  · intro spares
    refine ⟨spares [] action actions rfl, ?_⟩
    rintro first next later rfl
    exact spares (action :: first) next later rfl
  · rintro ⟨now, afterwards⟩ first next later same
    cases first with
    | nil =>
      obtain ⟨rfl, _⟩ := List.cons.inj same
      exact now
    | cons head first =>
      obtain ⟨rfl, rest⟩ := List.cons.inj same
      exact afterwards first next later rest

/-- Only the owner gives up a request. -/
theorem spares_of_not_owners {number : Nat} {actions : List Action}
    (own : ∀ action ∈ actions, action.isOwners = false) : client.Spares number actions := by
  rintro first action later rfl givesUp
  have notOwners := own action (by simp)
  cases action <;> first | exact givesUp.elim | cases notOwners

/-- A run keeps what every move keeps under a condition that holds when each of its steps begins,
and that the moves of one step cannot end. -/
theorem run_while {holds : Client → Action → Prop} {property : Client → Prop}
    (sound : client.Sound) {actions : List Action}
    (always : ∀ first action later, actions = first ++ action :: later →
      holds (client.run first) action)
    (steady : ∀ action middle next, Move action middle next → holds middle action →
      holds next action)
    (kept : ∀ action middle next, middle.Sound → Move action middle next → holds middle action →
      property middle → property next)
    (before : property client) : property (client.run actions) := by
  induction actions generalizing client with
  | nil => exact before
  | cons action later inductionHypothesis =>
    have stepped := (@step_induct client action
      (fun client => client.Sound ∧ holds client action ∧ property client) sound.requests
      (fun middle next _ moves ⟨soundMiddle, holdsMiddle, propertyMiddle⟩ =>
        ⟨moves.keepsSound soundMiddle, steady action middle next moves holdsMiddle,
          kept action middle next soundMiddle moves holdsMiddle propertyMiddle⟩)
      ⟨sound, always [] action later rfl, before⟩).2
    refine inductionHypothesis stepped.1 ?_ stepped.2.2
    rintro first next rest rfl
    exact always (action :: first) next rest rfl

/-- An action in which no request runs gives no call another request. -/
theorem Move.calls (moves : Move action client after) (aside : action.runsRequests = false) :
    after.calls ⊆ client.calls := by
  cases moves with
  | remarks remarks => exact remarks.calls.subset
  | registers => exact fun _ member => member
  | waits => exact fun _ member => member
  | request moves =>
    cases moves with
    | issues runs => exact absurd (runs.symm.trans aside) (by simp)
    | drops => exact fun _ member => (List.mem_filter.mp member).1
    | _ => exact fun _ member => member
  | link moves => rw [moves.keeps.2.2.2.1]; exact fun _ member => member
  | loses => exact fun _ member => member
  | releases => exact List.nil_subset _

/-- The moves of a step that spares a request spare it all along. -/
theorem Move.spares (moves : Move action client after) {number : Nat}
    (spared : ¬ client.GivesUp number action) : ¬ after.GivesUp number action := by
  cases action with
  | cancel call =>
    rintro ⟨waiting, member, named, waits⟩
    exact spared ⟨waiting, moves.calls rfl member, named, waits⟩
  | release => exact spared
  | _ => exact id

/-- Requests run on the link as it stands. -/
theorem Move.lifecycle_of_runs (moves : Move action client after)
    (runs : action.runsRequests = true) : after.link.lifecycle = client.link.lifecycle := by
  cases moves with
  | remarks remarks => rw [remarks.link]
  | registers => rfl
  | waits => rfl
  | request moves =>
    rcases moves.link with same | ⟨_, _, _, pushed⟩
    · rw [same]
    · rw [pushed]
      rfl
  | link moves aside => exact absurd (runs.symm.trans aside) (by simp)
  | loses reports =>
    rw [reports] at runs
    cases runs
  | releases releasing =>
    rw [releasing] at runs
    cases runs

/-! ## Requests that are given up -/

/-- A request that is given up is gone after the step. -/
theorem gone_of_givesUp (sound : client.Sound) {number : Nat}
    (givesUp : client.GivesUp number action) :
    (client.step action).requests.find? number = none := by
  cases action with
  | cancel call =>
    obtain ⟨waiting, member, rfl, rfl⟩ := givesUp
    have held : client.isHeld = true := by
      refine Bool.not_eq_false _ |>.mp fun unheld => ?_
      rw [(sound.released unheld).2.1] at member
      cases member
    have cancelled : (client.step (.cancel waiting.number)).requests =
        (client.abandon waiting.number).requests := by
      simp [step, held, perform, cancel, leave, sweep, noteAll_eq]
    have own : client.calls.find? (·.number == waiting.number) = some waiting :=
      find?_of_nodup sound.calls member
    rw [cancelled]
    simp only [abandon, own]
    split
    · next gone => exact gone
    · next request found =>
      have named := Requests.number_of_find? found
      change (client.requests.drop request).find? waiting.request = none
      rw [sound.requests.drop_find? (named.symm ▸ found), if_pos named.symm]
  | release =>
    by_cases held : client.isHeld = true
    · simp [step, held, perform, release, noteAll_eq, Requests.find?]
    · have unheld : client.isHeld = false := by simpa using held
      simp [step, unheld, Action.isOwners, (sound.released unheld).2.2 number]
  | _ => exact givesUp.elim

/-- A request that is gone does not come back in a run. -/
theorem run_gone (sound : client.Sound) {number : Nat} (past : number < client.requests.issued)
    (gone : client.requests.find? number = none) (actions : List Action) :
    (client.run actions).requests.find? number = none := by
  refine (@run_keeps client (fun client => number < client.requests.issued ∧
    client.requests.find? number = none) sound actions ?_ ⟨past, gone⟩).2.2
  intro action _ middle next soundMiddle moves ⟨pastMiddle, goneMiddle⟩
  exact ⟨Nat.lt_of_lt_of_le pastMiddle moves.issued_le,
    moves.gone soundMiddle pastMiddle goneMiddle⟩

/-- A request that a run does not spare is gone at its end. -/
theorem gone_of_not_spares (sound : client.Sound) {number : Nat}
    (past : number < client.requests.issued) {actions : List Action}
    (given : ¬ client.Spares number actions) :
    (client.run actions).requests.find? number = none := by
  induction actions generalizing client with
  | nil => exact absurd (by simp [Spares]) given
  | cons action later inductionHypothesis =>
    have stepped := @run_keeps client (fun client => number < client.requests.issued) sound
      [action] (fun _ _ _ _ _ moves past => Nat.lt_of_lt_of_le past moves.issued_le) past
    by_cases givesUp : client.GivesUp number action
    · exact run_gone stepped.1 stepped.2 (gone_of_givesUp sound givesUp) later
    · exact inductionHypothesis stepped.1 stepped.2 fun spares =>
        given (spares_cons.mpr ⟨givesUp, spares⟩)

end RemoteAgent.Client
