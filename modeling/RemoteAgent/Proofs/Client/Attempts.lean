import RemoteAgent.Proofs.Client.History

/-!
# The course of an attempt

What a move can do to one attempt. `Move.attempt_before` says that an attempt that is there after a
move was there before it or has just been started, and `Move.attempt_after` that an attempt goes on
until those who wait for it are told how it has ended. An attempt that is past stays so
(`Move.past`), since the next one takes a new number. The attempt that the lifecycle names is always
there (`Reachable.tended`).
-/

namespace RemoteAgent

/-- How an attempt goes on in one move, after which the trace is as given. -/
structure Attempt.GoesOn (action : Action) (trace : List Event) (before after : Attempt) :
    Prop where
  number : after.number = before.number
  deadline : after.deadline = before.deadline
  /-- Only who gives up is not waited for any more. -/
  stays : ∀ caller ∈ before.callers, action ≠ .cancel caller → caller ∈ after.callers
  /-- Only who joins comes to wait. -/
  joins : ∀ caller ∈ after.callers, caller ∈ before.callers ∨
    action = .connect ∧ .joined caller after.number ∈ trace
  settled : before.handshake.isSome = true → after.handshake.isSome = true

namespace Attempt.GoesOn

variable {action : Action} {trace : List Event} (attempt : Attempt)

theorem refl : attempt.GoesOn action trace attempt :=
  ⟨rfl, rfl, fun _ waits _ => waits, fun _ waits => .inl waits, id⟩

theorem join {caller : Nat} (calling : action = .connect)
    (joined : .joined caller attempt.number ∈ trace) :
    attempt.GoesOn action trace (attempt.join caller) := by
  refine ⟨rfl, rfl, fun _ waits _ => List.mem_append_left _ waits, fun other waits => ?_, id⟩
  rcases List.mem_append.mp waits with old | new
  · exact .inl old
  · rw [List.mem_singleton.mp new]
    exact .inr ⟨calling, joined⟩

theorem leave {caller : Nat} (cancels : action = .cancel caller) :
    attempt.GoesOn action trace (attempt.leave caller) := by
  refine ⟨rfl, rfl, fun other waits stays => ?_, fun _ waits => .inl (List.mem_filter.mp waits).1,
    id⟩
  have different : other ≠ caller := by
    rintro rfl
    exact stays cancels
  exact List.mem_filter.mpr ⟨waits, by simpa using different⟩

theorem settle (handshake : Handshake) :
    attempt.GoesOn action trace (attempt.settle handshake) where
  number := attempt.number_settle handshake
  deadline := attempt.deadline_settle handshake
  stays _ waits _ := (attempt.callers_settle handshake).symm ▸ waits
  joins _ waits := .inl (attempt.callers_settle handshake ▸ waits)
  settled _ := attempt.isSome_handshake_settle handshake

end Attempt.GoesOn

namespace Client

/-- A caller waits for the attempt of a number. -/
def Waits (client : Client) (caller number : Nat) : Prop :=
  ∃ attempt ∈ client.link.attempts, attempt.number = number ∧ caller ∈ attempt.callers

/-- The attempt of a number is past: nobody waits for it, and nobody can join it. -/
structure Past (client : Client) (number : Nat) : Prop where
  counted : number ≤ client.link.dials
  unnamed : client.link.lifecycle ≠ .connecting number
  gone : ∀ attempt ∈ client.link.attempts, attempt.number ≠ number

/-- An attempt has just been started, by a caller who waits for it. -/
structure Starts (action : Action) (client after : Client) (attempt : Attempt) : Prop where
  calling : action = .connect
  held : client.isHeld = true
  number : attempt.number = client.link.dials + 1
  joins : ∀ caller ∈ attempt.callers, .joined caller attempt.number ∈ after.trace

/-- Those who wait for an attempt are told how it has ended. It ends well only if it is the link's
own. -/
def TellsAll (client after : Client) (attempt : Attempt) : Prop :=
  ∃ outcome, (∀ caller ∈ attempt.callers, .connected caller outcome ∈ after.trace) ∧
    (client.link.lifecycle = .connecting attempt.number ∨
      ∃ failure : Failure, outcome = .error failure ∧ failure.isConnectionError = true)

variable {client after : Client} {action : Action}

/-- The attempts of a link are as they were after anything that is not a move of the link. -/
theorem RequestMove.attempts (moves : RequestMove action client after) :
    after.link.attempts = client.link.attempts := by
  rcases moves.link with same | ⟨_, _, _, pushed⟩
  · rw [same]
  · rw [pushed]
    rfl

/-! ## Where an attempt comes from -/

/-- Each attempt after a move of the link was there before it, or starts with it. -/
theorem LinkMove.attempt_before (moves : LinkMove action client after) {attempt : Attempt}
    (member : attempt ∈ after.link.attempts) :
    (∃ before ∈ client.link.attempts, before.GoesOn action after.trace attempt) ∨
      Starts action client after attempt := by
  have unchanged : attempt ∈ client.link.attempts →
      ∃ before ∈ client.link.attempts, before.GoesOn action after.trace attempt :=
    fun member => ⟨attempt, member, .refl attempt⟩
  cases moves with
  | finds => exact .inl (unchanged member)
  | @joins number calling =>
    obtain ⟨before, memberBefore, ⟨rfl, rfl⟩ | ⟨_, rfl⟩⟩ := Link.mem_changeAttempt.mp member
    · exact .inl ⟨before, memberBefore, .join before calling List.mem_cons_self⟩
    · exact .inl (unchanged memberBefore)
  | dials _ calling held =>
    rcases List.mem_append.mp member with old | new
    · exact .inl (unchanged old)
    · rw [List.mem_singleton.mp new]
      refine .inr ⟨calling, held, rfl, fun caller waits => ?_⟩
      rw [List.mem_singleton.mp waits]
      exact List.mem_cons_of_mem _ List.mem_cons_self
  | @parts parting cancels =>
    obtain ⟨before, memberBefore, rfl⟩ := List.mem_map.mp member
    exact .inl ⟨before, memberBefore, .leave before cancels⟩
  | sweeps => exact .inl (unchanged (List.mem_filter.mp member).1)
  | closes => exact .inl (unchanged (Link.attempts_close _ ▸ member))
  | settles number handshake =>
    obtain ⟨before, memberBefore, ⟨_, rfl⟩ | ⟨_, rfl⟩⟩ := Link.mem_changeAttempt.mp member
    · exact .inl ⟨before, memberBefore, .settle before handshake⟩
    · exact .inl (unchanged memberBefore)
  | opens => exact .inl (unchanged (List.mem_filter.mp member).1)
  | fails => exact .inl (unchanged (List.mem_filter.mp member).1)
  | accepts => exact .inl (unchanged member)
  | writes => exact .inl (unchanged member)
  | breaks => exact .inl (unchanged member)
  | announces => exact .inl (unchanged member)
  | retires => exact .inl (unchanged member)
  | tells => exact .inl (unchanged (Link.attempts_toldAllBut _ _ _ ▸ member))

/-- An attempt that is there after a move was there before it, or has just been started. -/
theorem Move.attempt_before (moves : Move action client after) {attempt : Attempt}
    (member : attempt ∈ after.link.attempts) :
    (∃ before ∈ client.link.attempts, before.GoesOn action after.trace attempt) ∨
      Starts action client after attempt := by
  have unchanged : attempt ∈ client.link.attempts →
      ∃ before ∈ client.link.attempts, before.GoesOn action after.trace attempt :=
    fun member => ⟨attempt, member, .refl attempt⟩
  cases moves with
  | remarks remarks => exact .inl (unchanged (remarks.link ▸ member))
  | registers => exact .inl (unchanged member)
  | waits => exact .inl (unchanged member)
  | request moves => exact .inl (unchanged (moves.attempts ▸ member))
  | link moves => exact moves.attempt_before member
  | loses => exact .inl (unchanged (Link.attempts_toldAllBut _ _ _ ▸ member))
  | releases => cases member

/-! ## What becomes of an attempt -/

/-- Each attempt before a move of the link goes on, or ends with all its callers told. -/
theorem LinkMove.attempt_after (moves : LinkMove action client after) (sound : client.Sound)
    {attempt : Attempt} (member : attempt ∈ client.link.attempts) :
    (∃ next ∈ after.link.attempts, attempt.GoesOn action after.trace next) ∨
      after.link.lifecycle ≠ .connecting attempt.number ∧ TellsAll client after attempt := by
  have unchanged : attempt ∈ after.link.attempts →
      ∃ next ∈ after.link.attempts, attempt.GoesOn action after.trace next :=
    fun member => ⟨attempt, member, .refl attempt⟩
  -- The attempt that ends is the only one with its number.
  have same : ∀ {ending : Attempt}, client.link.attempt? ending.number = some ending →
      attempt.number = ending.number → attempt = ending := by
    intro ending found named
    have own := sound.link.attempt?_of_mem member
    rw [named, found] at own
    exact (Option.some.inj own).symm
  cases moves with
  | finds => exact .inl (unchanged member)
  | @joins number calling =>
    by_cases joined : attempt.number = number
    · subst joined
      exact .inl ⟨attempt.join client.called,
        Link.mem_changeAttempt.mpr ⟨attempt, member, .inl ⟨rfl, rfl⟩⟩,
        .join attempt calling List.mem_cons_self⟩
    · exact .inl (unchanged (Link.mem_changeAttempt.mpr ⟨attempt, member, .inr ⟨joined, rfl⟩⟩))
  | dials => exact .inl (unchanged (List.mem_append_left _ member))
  | @parts parting cancels =>
    exact .inl ⟨attempt.leave parting, List.mem_map_of_mem member, .leave attempt cancels⟩
  | sweeps =>
    by_cases forsaken : client.link.isForsaken attempt = true
    · obtain ⟨unwaited, unnamed⟩ : attempt.callers = [] ∧
          client.link.lifecycle ≠ .connecting attempt.number := by
        simpa [Link.isForsaken] using forsaken
      refine .inr ⟨unnamed, .error (.connection .abandoned), ?_, .inr ⟨_, rfl, rfl⟩⟩
      simp [unwaited]
    · exact .inl (unchanged (List.mem_filter.mpr ⟨member, by simpa using forsaken⟩))
  | closes => exact .inl (unchanged ((Link.attempts_close _).symm ▸ member))
  | settles number handshake =>
    by_cases settled : attempt.number = number
    · exact .inl ⟨attempt.settle handshake,
        Link.mem_changeAttempt.mpr ⟨attempt, member, .inl ⟨settled, rfl⟩⟩,
        .settle attempt handshake⟩
    · exact .inl (unchanged (Link.mem_changeAttempt.mpr ⟨attempt, member, .inr ⟨settled, rfl⟩⟩))
  | @opens opener _ _ found own =>
    by_cases ending : attempt.number = opener.number
    · cases same found ending
      refine .inr ⟨by simp [Link.attach], .ok (), fun caller waits => ?_, .inl own⟩
      exact List.mem_append_left _ (List.mem_reverse.mpr (List.mem_map_of_mem waits))
    · exact .inl (unchanged (List.mem_filter.mpr ⟨member, by simpa using ending⟩))
  | @fails failed failure _ found blamed =>
    by_cases ending : attempt.number = failed.number
    · cases same found ending
      refine .inr ⟨?_, .error failure, fun caller waits => ?_, .inr ⟨failure, rfl, blamed⟩⟩
      · by_cases own : client.link.lifecycle = .connecting attempt.number
        · simp [Link.fail, Lifecycle.afterFailure, own]
        · exact fun named => own ((Link.fail_lifecycle_of_ne own).symm.trans named)
      · exact List.mem_append_left _ (List.mem_reverse.mpr (List.mem_map_of_mem waits))
    · exact .inl (unchanged (List.mem_filter.mpr ⟨member, by simpa using ending⟩))
  | accepts => exact .inl (unchanged member)
  | writes => exact .inl (unchanged member)
  | breaks => exact .inl (unchanged member)
  | announces => exact .inl (unchanged member)
  | retires => exact .inl (unchanged member)
  | tells => exact .inl (unchanged ((Link.attempts_toldAllBut _ _ _).symm ▸ member))

/-- An attempt goes on in a move, or those who wait for it are told how it has ended, unless the
client is let go of. -/
theorem Move.attempt_after (moves : Move action client after) (sound : client.Sound)
    {attempt : Attempt} (member : attempt ∈ client.link.attempts) :
    (∃ next ∈ after.link.attempts, attempt.GoesOn action after.trace next) ∨
      after.link.lifecycle ≠ .connecting attempt.number ∧
        (TellsAll client after attempt ∨ action = .release ∧ after.isHeld = false) := by
  have unchanged : attempt ∈ after.link.attempts →
      ∃ next ∈ after.link.attempts, attempt.GoesOn action after.trace next :=
    fun member => ⟨attempt, member, .refl attempt⟩
  cases moves with
  | remarks remarks => exact .inl (unchanged (remarks.link ▸ member))
  | registers => exact .inl (unchanged member)
  | waits => exact .inl (unchanged member)
  | request moves => exact .inl (unchanged (moves.attempts ▸ member))
  | link moves => exact (moves.attempt_after sound member).imp_right (.imp_right .inl)
  | loses => exact .inl (unchanged ((Link.attempts_toldAllBut _ _ _).symm ▸ member))
  | releases releasing => exact .inr ⟨by simp, .inr ⟨releasing, rfl⟩⟩

/-- What is past stays past. -/
theorem Move.past (moves : Move action client after) {number : Nat} (past : client.Past number) :
    after.Past number where
  counted := Nat.le_trans past.counted moves.counts.2
  unnamed := moves.unnamed past.counted past.unnamed
  gone := by
    rintro attempt member rfl
    rcases moves.attempt_before member with ⟨before, memberBefore, goesOn⟩ | starts
    · exact past.gone before memberBefore goesOn.number.symm
    · have counted := past.counted
      have newest := starts.number
      omega

/-! ## The attempts that are there -/

/-- The attempt that the lifecycle names is there, and there is none once nobody holds the
client. -/
structure Tended (client : Client) : Prop where
  named : ∀ {number}, client.link.lifecycle = .connecting number →
    ∃ attempt ∈ client.link.attempts, attempt.number = number
  unheld : client.isHeld = false → client.link.attempts = []

/-- Who lets go of a client leaves no attempts behind. -/
theorem Move.isHeld (moves : Move action client after) :
    after.isHeld = client.isHeld ∨
      action = .release ∧ after.isHeld = false ∧ after.link.attempts = [] := by
  cases moves with
  | remarks remarks => exact .inl remarks.isHeld
  | registers => exact .inl rfl
  | waits => exact .inl rfl
  | request moves => exact .inl moves.keeps.2.2.2.2
  | link moves => exact .inl moves.keeps.2.2.2.2
  | loses => exact .inl rfl
  | releases releasing => exact .inr ⟨releasing, rfl, rfl⟩

/-- A move keeps attempts tended. -/
theorem Move.tended (moves : Move action client after) (sound : client.Sound)
    (tended : client.Tended) : after.Tended where
  named := by
    intro number connecting
    rcases moves.lifecycle with same | idle | closed | ⟨_, deadline, dialed⟩ | ⟨_, _, opened⟩
    · obtain ⟨attempt, member, rfl⟩ := tended.named (same.symm.trans connecting)
      rcases moves.attempt_after sound member with ⟨next, memberNext, goesOn⟩ | ⟨unnamed, _⟩
      · exact ⟨next, memberNext, goesOn.number⟩
      · exact absurd connecting unnamed
    · cases idle.symm.trans connecting
    · cases closed.symm.trans connecting
    · rw [dialed] at connecting ⊢
      exact ⟨_, List.mem_append_right _ List.mem_cons_self, Lifecycle.connecting.inj connecting⟩
    · cases opened.symm.trans connecting
  unheld := by
    intro unheld
    rcases moves.isHeld with same | ⟨_, _, none⟩
    · have before := same.symm.trans unheld
      refine List.eq_nil_iff_forall_not_mem.mpr fun attempt member => ?_
      rcases moves.attempt_before member with ⟨old, memberOld, _⟩ | starts
      · rw [tended.unheld before] at memberOld
        cases memberOld
      · cases before.symm.trans starts.held
    · exact none

/-- In every run, attempts are tended. -/
theorem Reachable.tended {config : Config} (reachable : Reachable config client) :
    client.Tended :=
  reachable.bySoundMoves ⟨by simp [Client.initial], fun _ => rfl⟩
    fun _ _ _ sound moves tended => moves.tended sound tended

end Client

end RemoteAgent
