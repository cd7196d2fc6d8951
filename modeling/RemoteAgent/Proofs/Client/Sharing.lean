import RemoteAgent.Proofs.Client.Callers
import RemoteAgent.Proofs.Client.Generations
import Mathlib.Data.List.Induction

/-!
# Those who share an attempt

All who have joined an attempt learn the same, since they are told in one move, after which the
attempt is past (`Reachable.sharers`). Who joined it and has not given up waits for it or was told
with the others (`accounts_of_run`).
-/

namespace RemoteAgent.Client

/-- What the trace tells of those who share an attempt. -/
structure Sharers (client : Client) : Prop where
  joined_le : ∀ {caller number}, .joined caller number ∈ client.trace → number ≤ client.link.dials
  opened : ∀ {generation number}, .opened generation number ∈ client.trace → client.Past number
  /-- Once somebody who joined an attempt learns how it has ended, it is past. -/
  told : ∀ {caller number outcome}, .joined caller number ∈ client.trace →
    .connected caller outcome ∈ client.trace → client.Past number
  agree : ∀ {caller other number outcome different}, .joined caller number ∈ client.trace →
    .joined other number ∈ client.trace → .connected caller outcome ∈ client.trace →
      .connected other different ∈ client.trace → outcome = different
  refused : ∀ {caller number failure generation}, .joined caller number ∈ client.trace →
    .connected caller (.error failure) ∈ client.trace →
      .opened generation number ∉ client.trace

/-- Those who joined an attempt are accounted for, apart from some of whom it is known that they
are gone. -/
structure Accounts (client : Client) (gone : Nat → Nat → Prop) : Prop where
  fate : ∀ {caller number}, client.isHeld = true → .joined caller number ∈ client.trace →
    client.Waits caller number ∨ (∃ outcome, .connected caller outcome ∈ client.trace) ∨
      gone caller number
  together : ∀ {caller other number outcome}, .joined caller number ∈ client.trace →
    .joined other number ∈ client.trace → .connected caller outcome ∈ client.trace →
      .connected other outcome ∈ client.trace ∨ gone other number

/-- In a run, a caller gave up while it waited for the attempt of a number. -/
def GaveUp (config : Config) (actions : List Action) (caller number : Nat) : Prop :=
  ∃ before later, actions = before ++ .cancel caller :: later ∧
    (ran config before).Waits caller number

variable {client after : Client} {action : Action}

/-! ## One outcome for all -/

/-- An attempt that has opened a socket is past. -/
theorem past_of_attach {number : Nat} (sound : client.Sound)
    (own : client.link.lifecycle = .connecting number)
    (attached : after.link = client.link.attach number) : after.Past number where
  counted := attached ▸ Nat.le_of_eq (sound.link.connecting own)
  unnamed := by
    rw [attached]
    simp [Link.attach]
  gone := by
    rw [attached]
    exact fun attempt member => by simpa using (List.mem_filter.mp member).2

/-- An attempt that has failed is past. -/
theorem past_of_fail {attempt : Attempt} (sound : client.Sound)
    (found : client.link.attempt? attempt.number = some attempt)
    (failed : after.link = client.link.fail attempt.number) : after.Past attempt.number where
  counted := failed ▸ sound.link.number_le attempt (List.mem_of_find?_eq_some found)
  unnamed := by
    rw [failed]
    by_cases own : client.link.lifecycle = .connecting attempt.number
    · simp [Link.fail, Lifecycle.afterFailure, own]
    · rwa [Link.fail_lifecycle_of_ne own]
  gone := by
    rw [failed]
    exact fun other member => by simpa using (List.mem_filter.mp member).2

/-- An attempt that has ended is past. -/
theorem Concludes.past {attempt : Attempt} {outcome : Except Failure Unit}
    (concludes : Concludes action client after attempt outcome) (sound : client.Sound) :
    after.Past attempt.number := by
  obtain ⟨_, found, ⟨own, _, attached⟩ | ⟨_, failed⟩⟩ := concludes
  · exact past_of_attach sound own attached
  · exact past_of_fail sound found failed

/-- Where all callers learn the same in some events, they still do behind them. -/
theorem alike_of_append {outcome : Except Failure Unit} (events : List Event)
    (extended : after.trace = events ++ client.trace)
    (alike : ∀ caller other, .connected caller other ∈ events → other = outcome) :
    ∃ outcome, ∀ caller other, .connected caller other ∈ after.trace →
      .connected caller other ∈ client.trace ∨ other = outcome := by
  refine ⟨outcome, fun caller other connected => ?_⟩
  rw [extended] at connected
  exact (List.mem_append.mp connected).symm.imp_right (alike caller other)

/-- Callers that learn an outcome in one move learn the same. -/
theorem Move.alike (moves : Move action client after) :
    ∃ outcome, ∀ caller other, .connected caller other ∈ after.trace →
      .connected caller other ∈ client.trace ∨ other = outcome := by
  have unchanged : after.trace = client.trace → ∃ outcome, ∀ caller other,
      .connected caller other ∈ after.trace → .connected caller other ∈ client.trace ∨
        other = outcome := fun same => ⟨.ok (), fun _ _ connected => .inl (same ▸ connected)⟩
  cases moves with
  | remarks remarks =>
    obtain ⟨told, quiet, extended⟩ := remarks.trace
    refine @alike_of_append _ _ (.ok ()) told extended fun caller other connected => ?_
    cases quiet _ connected
  | registers => exact unchanged rfl
  | waits => exact unchanged rfl
  | request moves =>
    cases moves with
    | issues => exact @alike_of_append _ _ (.ok ()) [.issued _ _] rfl (by simp)
    | sends => exact @alike_of_append _ _ (.ok ()) [.sent _ _, .accepted _ _] rfl (by simp)
    | ends => exact @alike_of_append _ _ (.ok ()) [.answered _ _] rfl (by simp)
    | rests => exact unchanged rfl
    | drops => exact unchanged rfl
    | delivers => exact unchanged rfl
  | link moves =>
    cases moves with
    | finds => exact @alike_of_append _ _ (.ok ()) [.connected _ _] rfl (by simp)
    | joins => exact @alike_of_append _ _ (.ok ()) [.joined _ _] rfl (by simp)
    | dials => exact @alike_of_append _ _ (.ok ()) [.dialed _, .joined _ _] rfl (by simp)
    | @opens attempt remarks _ _ _ quiet =>
      refine @alike_of_append _ _ (.ok ())
        ((attempt.callers.map fun caller => Event.connected caller (.ok ())).reverse ++
          (remarks ++ [.opened (client.link.generations + 1) attempt.number])) (by simp) ?_
      intro caller other connected
      simp only [List.mem_append, List.mem_reverse, List.mem_map, List.mem_singleton] at connected
      obtain ⟨_, _, same⟩ | remark | opened := connected
      · cases same
        rfl
      · cases quiet _ remark
      · cases opened
    | @fails attempt failure =>
      refine @alike_of_append _ _ (.error failure) _ rfl fun caller other connected => ?_
      obtain ⟨_, _, same⟩ := List.mem_map.mp (List.mem_reverse.mp connected)
      cases same
      rfl
    | accepts => exact @alike_of_append _ _ (.ok ()) [.accepted _ _] rfl (by simp)
    | writes => exact @alike_of_append _ _ (.ok ()) [.transmitted _ _] rfl (by simp)
    | tells => exact @alike_of_append _ _ (.ok ()) [.told _ _] rfl (by simp)
    | _ => exact unchanged rfl
  | loses => exact @alike_of_append _ _ (.ok ()) [.told _ _] rfl (by simp)
  | releases => exact unchanged rfl

/-- Every move keeps what the trace tells of those who share an attempt. -/
theorem Move.sharers (moves : Move action client after) (sound : client.Sound)
    (callers : client.Callers) (sharers : client.Sharers) : after.Sharers where
  joined_le := by
    intro caller number joined
    rcases moves.joins sound joined with old | ⟨_, named⟩
    · exact Nat.le_trans (sharers.joined_le old) moves.counts.2
    · exact Nat.le_of_eq ((moves.keepsSound sound).link.connecting named)
  opened := by
    intro generation number opened
    rcases moves.explains sound opened with old | ⟨_, own, attached⟩
    · exact moves.past (sharers.opened old)
    · exact past_of_attach sound own attached
  told := by
    intro caller number outcome joined connected
    obtain ⟨oldJoined, oldConnected | ⟨attempt, concludes, rfl, _⟩⟩ :=
      moves.concludes sound callers joined connected
    · exact moves.past (sharers.told oldJoined oldConnected)
    · exact concludes.past sound
  agree := by
    intro caller other number outcome different joined joinedToo connected connectedToo
    obtain ⟨old, outcomes⟩ := moves.concludes sound callers joined connected
    obtain ⟨oldToo, outcomesToo⟩ := moves.concludes sound callers joinedToo connectedToo
    -- An attempt that ends now was not past before, so nobody knew its outcome.
    have unknown : ∀ {attempt}, client.link.attempt? attempt.number = some attempt →
        attempt.number = number → ∀ {someone known}, .joined someone number ∈ client.trace →
          .connected someone known ∉ client.trace := by
      intro attempt found named someone known joinedBefore connectedBefore
      exact (sharers.told joinedBefore connectedBefore).gone attempt
        (List.mem_of_find?_eq_some found) named
    obtain ⟨common, alike⟩ := moves.alike
    rcases outcomes with known | ⟨attempt, concludes, named, _⟩
    · rcases outcomesToo with knownToo | ⟨attempt, concludes, named, _⟩
      · exact sharers.agree old oldToo known knownToo
      · exact absurd known (unknown concludes.found named old)
    · have first := (alike caller outcome connected).resolve_left
        (unknown concludes.found named old)
      have second := (alike other different connectedToo).resolve_left
        (unknown concludes.found named oldToo)
      exact first.trans second.symm
  refused := by
    intro caller number failure generation joined connected opened
    obtain ⟨oldJoined, oldConnected | ⟨attempt, ⟨_, found, link⟩, rfl, _⟩⟩ :=
      moves.concludes sound callers joined connected
    · rcases moves.explains sound opened with oldOpened | ⟨_, own, _⟩
      · exact sharers.refused oldJoined oldConnected oldOpened
      · exact (sharers.told oldJoined oldConnected).unnamed own
    · rcases moves.explains sound opened with oldOpened | ⟨_, _, attached⟩
      · exact (sharers.opened oldOpened).gone attempt (List.mem_of_find?_eq_some found) rfl
      · obtain ⟨_, impossible, _⟩ | ⟨_, failed⟩ := link
        · cases impossible
        · have counted := congrArg Link.generations (failed.symm.trans attached)
          simp [Link.fail, Link.forget, Link.attach] at counted

/-- In every reachable client, those who share an attempt learn the same of it. -/
theorem Reachable.sharers {config : Config} (reachable : Reachable config client) :
    client.Sharers := by
  refine (@Reachable.byHistory _ _ (fun client => client.Callers ∧ client.Sharers) reachable
    ⟨Reachable.initial.callers, ?_⟩ ?_).2
  · exact ⟨by simp [Client.initial], by simp [Client.initial], by simp [Client.initial],
      by simp [Client.initial], by simp [Client.initial]⟩
  · rintro action client after sound history moves ⟨callers, sharers⟩
    exact ⟨moves.callers sound history callers, moves.sharers sound callers sharers⟩

/-! ## Nobody is forgotten -/

/-- Every move keeps account of those who joined an attempt, if those who give up count as gone. -/
theorem Move.accounts (moves : Move action client after) (sound : client.Sound)
    (tended : client.Tended) (callers : client.Callers) (sharers : client.Sharers)
    {gone : Nat → Nat → Prop}
    (cancels : ∀ caller number, action = .cancel caller → client.Waits caller number →
      gone caller number)
    (accounts : client.Accounts gone) : after.Accounts gone where
  fate := by
    intro caller number held joined
    rcases moves.explains sound joined with old | ⟨rfl, _, ⟨connecting, same⟩ |
      ⟨rfl, deadline, same⟩⟩
    · have before : client.isHeld = true := by
        rcases moves.isHeld with same | ⟨_, unheld, _⟩
        · exact same.symm.trans held
        · cases held.symm.trans unheld
      rcases accounts.fate before old with ⟨attempt, member, rfl, waits⟩ | ⟨outcome, told⟩ | left
      · rcases moves.attempt_after sound member with ⟨next, memberNext, goesOn⟩ |
          ⟨_, ⟨outcome, told, _⟩ | ⟨_, unheld⟩⟩
        · by_cases cancelled : action = .cancel caller
          · exact .inr (.inr (cancels _ _ cancelled ⟨attempt, member, rfl, waits⟩))
          · exact .inl ⟨next, memberNext, goesOn.number, goesOn.stays caller waits cancelled⟩
        · exact .inr (.inl ⟨outcome, told caller waits⟩)
        · cases held.symm.trans unheld
      · exact .inr (.inl ⟨outcome, moves.remembers sound told⟩)
      · exact .inr (.inr left)
    · obtain ⟨attempt, member, rfl⟩ := tended.named connecting
      refine .inl ⟨attempt.join client.called, ?_, rfl, List.mem_append_right _ List.mem_cons_self⟩
      rw [same]
      exact Link.mem_changeAttempt.mpr ⟨attempt, member, .inl ⟨rfl, rfl⟩⟩
    · refine .inl ⟨⟨client.link.dials + 1, deadline, none, [client.called]⟩, ?_, rfl,
        List.mem_cons_self⟩
      rw [same]
      exact List.mem_append_right _ List.mem_cons_self
  together := by
    intro caller other number outcome joined joinedToo connected
    have afterwards := moves.sharers sound callers sharers
    have past := afterwards.told joined connected
    have oldToo := (moves.joins sound joinedToo).resolve_right fun ⟨_, named⟩ => past.unnamed named
    obtain ⟨oldJoined, oldConnected | ⟨attempt, ⟨resolving, found, _⟩, rfl, _⟩⟩ :=
      moves.concludes sound callers joined connected
    · exact (accounts.together oldJoined oldToo oldConnected).imp_left (moves.remembers sound)
    · have member := List.mem_of_find?_eq_some found
      have held : client.isHeld = true := by
        refine Bool.not_eq_false _ |>.mp fun unheld => ?_
        rw [tended.unheld unheld] at member
        cases member
      rcases accounts.fate held oldToo with ⟨same, memberSame, named, waits⟩ | ⟨_, told⟩ | left
      · have own := sound.link.attempt?_of_mem memberSame
        rw [named, found] at own
        cases own
        rcases moves.attempt_after sound member with ⟨next, memberNext, goesOn⟩ |
          ⟨_, ⟨common, told, _⟩ | ⟨released, _⟩⟩
        · exact absurd goesOn.number (past.gone next memberNext)
        · rw [afterwards.agree joined joinedToo connected (told other waits)]
          exact .inl (told other waits)
        · cases resolving.symm.trans released
      · exact absurd rfl ((sharers.told oldToo told).gone attempt member)
      · exact .inr left

/-- Who has given up has done so in every longer run. -/
theorem GaveUp.later {config : Config} {actions : List Action} {caller number : Nat}
    (gaveUp : GaveUp config actions caller number) (later : List Action) :
    GaveUp config (actions ++ later) caller number := by
  obtain ⟨before, rest, rfl, waits⟩ := gaveUp
  exact ⟨before, rest ++ later, by simp, waits⟩

/-- After any run, all who joined an attempt are accounted for but those who gave up. -/
theorem accounts_of_run (config : Config) (actions : List Action) :
    (ran config actions).Accounts (GaveUp config actions) := by
  induction actions using List.reverseRecOn with
  | nil => exact ⟨by simp [ran, run, Client.initial], by simp [ran, run, Client.initial]⟩
  | append_singleton before action inductionHypothesis =>
    have reachable : Reachable config (ran config before) := Reachable.initial.run before
    have accounts : (ran config before).Accounts (GaveUp config (before ++ [action])) :=
      { fate := fun held joined => (inductionHypothesis.fate held joined).imp_right
          (.imp_right (GaveUp.later · [action]))
        together := fun joined joinedToo connected =>
          (inductionHypothesis.together joined joinedToo connected).imp_right
            (GaveUp.later · [action]) }
    have stepped := (@step_induct (ran config before) action (fun client =>
      client.Sound ∧ client.History ∧ client.Tended ∧ client.Callers ∧ client.Sharers ∧
        (∀ caller number, action = .cancel caller → client.Waits caller number →
          GaveUp config (before ++ [action]) caller number) ∧
        client.Accounts (GaveUp config (before ++ [action]))) reachable.sound.requests ?_
      ⟨reachable.sound, reachable.history, reachable.tended, reachable.callers, reachable.sharers,
        ?_, accounts⟩).2.2.2.2.2.2.2
    · have whole : ran config (before ++ [action]) = (ran config before).step action :=
        run_append _ _ _
      rwa [whole]
    · rintro client after _ moves ⟨sound, history, tended, callers, sharers, cancels, accounts⟩
      refine ⟨moves.keepsSound sound, moves.history sound history, moves.tended sound tended,
        moves.callers sound history callers, moves.sharers sound callers sharers, ?_,
        moves.accounts sound tended callers sharers cancels accounts⟩
      rintro caller number cancelled ⟨attempt, member, rfl, waits⟩
      rcases moves.attempt_before member with ⟨old, memberOld, goesOn⟩ | starts
      · rcases goesOn.joins caller waits with waited | ⟨calling, _⟩
        · exact cancels caller _ cancelled ⟨old, memberOld, goesOn.number.symm, waited⟩
        · cases cancelled.symm.trans calling
      · cases cancelled.symm.trans starts.calling
    · rintro caller number rfl waits
      exact ⟨before, [], rfl, waits⟩

end RemoteAgent.Client
