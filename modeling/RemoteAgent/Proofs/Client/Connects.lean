import RemoteAgent.Proofs.Client.Abandoned
import RemoteAgent.Proofs.Client.Runs
import RemoteAgent.Proofs.Client.Sharing

/-!
# Callers share attempts

However calls for an open link, their ends and the closing of the link follow each other, an attempt
starts with each call that finds the link idle or closed and with no other one. All who join it and
do not give up learn the same, and they learn that the link is open exactly if the attempt has
opened a socket. An attempt that fails without having been abandoned leaves the link idle
(`attempts_shared`).
-/

namespace RemoteAgent

/-- The attempt that the event tells has reached for the agent. -/
def Event.dialed? : Event → Option Nat
  | .dialed attempt => some attempt
  | _ => none

namespace Client

/-- The attempts that have reached for the agent, the first one first. -/
def dialings (client : Client) : List Nat := client.trace.reverse.filterMap Event.dialed?

/-- The action is a call for an open link, by somebody who holds the client, and finds the link
idle or closed. -/
def StartsAttempt (client : Client) (action : Action) : Prop :=
  action = .connect ∧ client.isHeld = true ∧
    (client.link.lifecycle = .idle ∨ client.link.lifecycle = .closed)

instance (client : Client) (action : Action) : Decidable (client.StartsAttempt action) := by
  unfold StartsAttempt
  infer_instance

/-- How many actions of a run are calls that find the link idle or closed. -/
def starts (client : Client) : List Action → Nat
  | [] => 0
  | action :: later =>
    (if client.StartsAttempt action then 1 else 0) + (client.step action).starts later

/-- How callers share attempts in a run. -/
structure SharesAttempts (config : Config) (actions : List Action) : Prop where
  /-- Attempts reach for the agent one after the other, one for each call that finds the link idle
  or closed. -/
  dialed : (ran config actions).dialings = List.range' 1 ((Client.initial config).starts actions)
  /-- Such a call waits for the attempt that it starts, which nobody has joined before. -/
  fresh : (ran config actions).StartsAttempt .connect →
    let next := (ran config actions).link.dials + 1
    let after := (ran config actions).step .connect
    after.trace = .dialed next :: .joined (ran config actions).called next ::
        (ran config actions).trace ∧
      after.link.lifecycle = .connecting next ∧ after.Waits (ran config actions).called next ∧
      ∀ caller, .joined caller next ∉ (ran config actions).trace
  /-- A call that finds the link open returns at once, and only adds to the number of calls. -/
  opened : ∀ generation, (ran config actions).link.lifecycle = .opened generation →
    (ran config actions).step .connect =
      { ran config actions with called := (ran config actions).called + 1 }.note
        (.connected (ran config actions).called (.ok ()))
  /-- A call that finds the link connecting waits for the attempt under way. -/
  joins : ∀ number, (ran config actions).link.lifecycle = .connecting number →
    let after := (ran config actions).step .connect
    after.trace = .joined (ran config actions).called number :: (ran config actions).trace ∧
      after.link.lifecycle = .connecting number ∧ after.Waits (ran config actions).called number
  /-- Those who joined an attempt do not learn different things about it. -/
  agree : ∀ {caller other number outcome different},
    .joined caller number ∈ (ran config actions).trace →
    .joined other number ∈ (ran config actions).trace →
    .connected caller outcome ∈ (ran config actions).trace →
    .connected other different ∈ (ran config actions).trace → outcome = different
  /-- With the first of them, all learn it who have not given up. -/
  together : ∀ {caller other number outcome},
    .joined caller number ∈ (ran config actions).trace →
    .joined other number ∈ (ran config actions).trace →
    .connected caller outcome ∈ (ran config actions).trace →
      .connected other outcome ∈ (ran config actions).trace ∨ GaveUp config actions other number
  /-- They learn that the link is open exactly if the attempt has opened a socket. -/
  outcome : ∀ {caller number outcome}, .joined caller number ∈ (ran config actions).trace →
    .connected caller outcome ∈ (ran config actions).trace →
      (outcome = .ok () ↔ ∃ generation, .opened generation number ∈ (ran config actions).trace) ∧
        ∀ failure, outcome = .error failure → failure.isConnectionError = true
  /-- As long as somebody holds the client, all who joined wait, were told, or gave up. -/
  settles : ∀ {caller number}, (ran config actions).isHeld = true →
    .joined caller number ∈ (ran config actions).trace →
      (ran config actions).Waits caller number ∨
        (∃ outcome, .connected caller outcome ∈ (ran config actions).trace) ∨
        GaveUp config actions caller number
  /-- Nobody waits for an attempt that can end, once nothing goes on by itself. -/
  waits : (ran config actions).IsQuiescent → ∀ {caller number},
    (ran config actions).Waits caller number → ∃ attempt,
      (ran config actions).link.attempt? number = some attempt ∧ attempt.handshake = none ∧
        (ran config actions).clock < attempt.deadline
  /-- An attempt that can end tells all who wait for it the same when it goes on, and is past. -/
  resolves : ∀ {number attempt}, (ran config actions).link.attempt? number = some attempt →
    attempt.isDue (ran config actions).clock = true →
      ((ran config actions).step (.resolve number)).Past number ∧
        ∃ outcome, ∀ caller ∈ attempt.callers,
          .connected caller outcome ∈ ((ran config actions).step (.resolve number)).trace
  /-- Only to close the link abandons an attempt: without that it is the attempt of the link until
  it is past. -/
  owned : ∀ {before later}, actions = before ++ .connect :: later →
    (ran config before).StartsAttempt .connect → .close ∉ later →
      (ran config actions).link.lifecycle = .connecting ((ran config before).link.dials + 1) ∨
        (ran config actions).Past ((ran config before).link.dials + 1)
  /-- The failure of the attempt of the link leaves it idle, and the next call starts an attempt. -/
  fails : ∀ {before number later attempt}, actions = before ++ .resolve number :: later →
    (ran config before).link.lifecycle = .connecting number →
    (ran config before).link.attempt? number = some attempt →
    attempt.isDue (ran config before).clock = true → attempt.handshake ≠ some .accepted →
      ((ran config before).step (.resolve number)).link.lifecycle = .idle ∧
        (.connect ∉ later → .release ∉ later → (ran config actions).StartsAttempt .connect)

variable {client after : Client} {action : Action}

/-! ## Calls for an open link -/

/-- Somebody holds a client whose link is not closed. -/
theorem Sound.isHeld (sound : client.Sound) (live : client.link.lifecycle ≠ .closed) :
    client.isHeld = true :=
  Bool.not_eq_false _ |>.mp fun unheld => live (sound.released unheld).1

theorem step_connect_of_starts (starts : client.StartsAttempt .connect) :
    client.step .connect = (({ client with
      link := client.link.dial client.called
        (client.clock + client.config.connectTimeout.nanoseconds)
      called := client.called + 1 }.note (.joined client.called (client.link.dials + 1))).note
        (.dialed (client.link.dials + 1))) := by
  obtain ⟨_, held, idle | closed⟩ := starts
  · simp [step, held, perform, connect, Link.join, idle]
  · simp [step, held, perform, connect, Link.join, closed]

theorem step_connect_of_opened (sound : client.Sound) {generation : Nat}
    (opened : client.link.lifecycle = .opened generation) :
    client.step .connect =
      { client with called := client.called + 1 }.note (.connected client.called (.ok ())) := by
  have held := sound.isHeld (by simp [opened])
  simp [step, held, perform, connect, Link.join, opened]

theorem step_connect_of_connecting (sound : client.Sound) {number : Nat}
    (connecting : client.link.lifecycle = .connecting number) :
    client.step .connect = { client with
      link := client.link.changeAttempt number (·.join client.called)
      called := client.called + 1 }.note (.joined client.called number) := by
  have held := sound.isHeld (by simp [connecting])
  simp [step, held, perform, connect, Link.join, connecting]

/-! ## Attempts are counted -/

/-- Only a call for an open link starts an attempt. -/
theorem Move.dials (moves : Move action client after) (other : action ≠ .connect) :
    after.link.dials = client.link.dials := by
  cases moves with
  | remarks remarks => rw [remarks.link]
  | registers => rfl
  | waits => rfl
  | request moves =>
    rcases moves.link with same | ⟨_, _, _, pushed⟩
    · rw [same]
    · rw [pushed]
      rfl
  | link moves =>
    cases moves with
    | dials _ calling => exact absurd calling other
    | closes =>
      simp only [Link.close]
      split <;> rfl
    | @tells _ _ _ _ _ later => cases later <;> rfl
    | _ => rfl
  | @loses _ _ later => cases later <;> rfl
  | releases =>
    simp only [Link.close]
    split <;> rfl

theorem Move.dialings (moves : Move action client after) (sound : client.Sound)
    (other : action ≠ .connect) : after.dialings = client.dialings := by
  refine moves.view sound fun event cause => ?_
  cases event with
  | dialed attempt => exact absurd cause.1 other
  | _ => rfl

/-- A step starts an attempt, with the next number, if it is a call that finds the link idle or
closed. -/
theorem step_dialings (sound : client.Sound) (action : Action) :
    (client.step action).dialings = client.dialings ++
        (if client.StartsAttempt action then [client.link.dials + 1] else []) ∧
      (client.step action).link.dials =
        client.link.dials + (if client.StartsAttempt action then 1 else 0) := by
  by_cases starts : client.StartsAttempt action
  · obtain rfl := starts.1
    rw [step_connect_of_starts starts, if_pos starts, if_pos starts]
    exact ⟨by simp [Client.dialings, note, List.filterMap_cons, Event.dialed?], rfl⟩
  rw [if_neg starts, if_neg starts, List.append_nil, Nat.add_zero]
  by_cases calling : action = .connect
  · subst calling
    cases held : client.isHeld with
    | false => simp [step, held, Action.isOwners]
    | true =>
      cases standing : client.link.lifecycle with
      | idle => exact absurd ⟨rfl, held, .inl standing⟩ starts
      | closed => exact absurd ⟨rfl, held, .inr standing⟩ starts
      | opened generation =>
        rw [step_connect_of_opened sound standing]
        exact ⟨by simp [Client.dialings, note, Event.dialed?], rfl⟩
      | connecting number =>
        rw [step_connect_of_connecting sound standing]
        exact ⟨by simp [Client.dialings, note, Event.dialed?], rfl⟩
  · refine (@step_induct client action (fun after => after.Sound ∧
      after.dialings = client.dialings ∧ after.link.dials = client.link.dials) sound.requests
      ?_ ⟨sound, rfl, rfl⟩).2.2
    rintro _ _ _ moves ⟨soundMiddle, told, counted⟩
    exact ⟨moves.keepsSound soundMiddle, (moves.dialings soundMiddle calling).trans told,
      (moves.dials calling).trans counted⟩

/-- In a run, attempts start under consecutive numbers, one for each call that finds the link idle
or closed. -/
theorem run_dialings (sound : client.Sound) (actions : List Action) :
    (client.run actions).dialings =
      client.dialings ++ List.range' (client.link.dials + 1) (client.starts actions) := by
  induction actions generalizing client with
  | nil => simp [run, starts]
  | cons action later inductionHypothesis =>
    obtain ⟨told, counted⟩ := step_dialings sound action
    have rest := inductionHypothesis (sound.step action)
    rw [told, counted] at rest
    refine rest.trans ?_
    rw [starts, List.append_assoc]
    congr 1
    split
    · rw [Nat.add_comm 1, List.range'_succ]
      rfl
    · rw [Nat.zero_add]
      rfl

/-! ## The end of attempts -/

/-- The attempt of the link stays that until it is past, as long as nobody closes the link. -/
theorem Move.owns (moves : Move action client after) (sound : client.Sound) {number : Nat}
    (own : client.link.lifecycle = .connecting number) (unclosed : action ≠ .close) :
    after.link.lifecycle = .connecting number ∨ after.Past number := by
  have counts := moves.counts
  cases moves with
  | remarks remarks => exact .inl (remarks.link ▸ own)
  | registers => exact .inl own
  | waits => exact .inl own
  | request moves =>
    rcases moves.link with same | ⟨_, _, _, pushed⟩
    · exact .inl (same ▸ own)
    · exact .inl (pushed ▸ own)
  | link moves =>
    cases moves with
    | dials _ _ _ _ idle => exact absurd own (idle number)
    | closes closing => exact absurd closing unclosed
    | opens _ _ other =>
      cases own.symm.trans other
      exact .inr (past_of_attach sound own rfl)
    | @fails attempt _ _ found =>
      by_cases same : client.link.lifecycle = .connecting attempt.number
      · cases own.symm.trans same
        exact .inr (past_of_fail sound found rfl)
      · exact .inl ((Link.fail_lifecycle_of_ne same).trans own)
    | announces => exact .inl ((Link.announce_lifecycle_of_ne _ (by simp [own])).trans own)
    | @tells _ _ _ _ _ later => cases later <;> exact .inl own
    | _ => exact .inl own
  | @loses _ _ later => cases later <;> exact .inl own
  | releases =>
    exact .inr ⟨Nat.le_trans (Nat.le_of_eq (sound.link.connecting own)) counts.2, by simp, by simp⟩

/-- A link that rests goes on resting until somebody calls for it to be open. -/
theorem Move.rests (moves : Move action client after) (calling : action ≠ .connect)
    (releasing : action ≠ .release) (held : client.isHeld = true)
    (rests : client.link.lifecycle = .idle ∨ client.link.lifecycle = .closed) :
    after.isHeld = true ∧
      (after.link.lifecycle = .idle ∨ after.link.lifecycle = .closed) := by
  constructor
  · rcases moves.isHeld with same | ⟨releases, _⟩
    · exact same.trans held
    · exact absurd releases releasing
  · rcases moves.lifecycle with same | idle | closed | ⟨calls, _⟩ | ⟨_, connecting, _⟩
    · exact same ▸ rests
    · exact .inl idle
    · exact .inr closed
    · exact absurd calls calling
    · simp [connecting] at rests

/-- An attempt that can end tells those who wait for it how it has ended. -/
theorem resolve_tells {number : Nat} {attempt : Attempt}
    (found : client.link.attempt? number = some attempt)
    (due : attempt.isDue client.clock = true) :
    ∃ outcome, ∀ caller ∈ attempt.callers,
      .connected caller outcome ∈ (client.step (.resolve number)).trace := by
  change ∃ outcome, ∀ caller ∈ attempt.callers,
    .connected caller outcome ∈ (client.resolve number).trace
  unfold resolve openSocket failAttempt
  simp only [found, due, if_true]
  cases attempt.handshake with
  | none => exact ⟨_, fun caller waits => List.mem_cons_of_mem _ (mem_tellCallers waits _)⟩
  | some handshake =>
    cases handshake with
    | accepted =>
      dsimp only
      split
      · exact ⟨_, fun caller waits => mem_tellCallers waits _⟩
      · exact ⟨_, fun caller waits => mem_tellCallers waits _⟩
    | failed fault => exact ⟨_, fun caller waits => mem_tellCallers waits _⟩

/-- The failure of the attempt of a link leaves the link idle. -/
theorem resolve_idle {number : Nat} {attempt : Attempt}
    (own : client.link.lifecycle = .connecting number)
    (found : client.link.attempt? number = some attempt)
    (due : attempt.isDue client.clock = true) (failed : attempt.handshake ≠ some .accepted) :
    (client.step (.resolve number)).link.lifecycle = .idle := by
  change (client.resolve number).link.lifecycle = .idle
  have named : attempt.number = number := by simpa using List.find?_some found
  have idle : (client.link.fail number).lifecycle = .idle := by
    simp [Link.fail, Lifecycle.afterFailure, own]
  unfold resolve
  simp only [found, due, if_true]
  cases ended : attempt.handshake with
  | none => simpa [failAttempt, tellCallers, noteAll_eq, note, named] using idle
  | some handshake =>
    cases handshake with
    | accepted => exact absurd ended failed
    | failed fault => simpa [failAttempt, tellCallers, noteAll_eq, named] using idle

/-- An attempt that can end is past once it has gone on, and has told those who wait for it the
same. -/
theorem Reachable.resolves {config : Config} (reachable : Reachable config client) {number : Nat}
    {attempt : Attempt} (found : client.link.attempt? number = some attempt)
    (due : attempt.isDue client.clock = true) :
    (client.step (.resolve number)).Past number ∧ ∃ outcome, ∀ caller ∈ attempt.callers,
      .connected caller outcome ∈ (client.step (.resolve number)).trace := by
  obtain ⟨outcome, told⟩ := resolve_tells found due
  refine ⟨?_, outcome, told⟩
  have named : attempt.number = number := by simpa using List.find?_some found
  obtain ⟨caller, waits⟩ : ∃ caller, caller ∈ attempt.callers := by
    refine List.exists_mem_of_ne_nil _ ?_
    rintro none
    simp [Attempt.isDue, none] at due
  have joined := run_remembers reachable.sound [.resolve number]
    (reachable.callers.waiting (List.mem_of_find?_eq_some found) waits)
  exact (reachable.step _).sharers.told (named ▸ joined) (told caller waits)

/-! ## What callers come to -/

/-- A call that finds the link idle or closed waits for an attempt that nobody has joined before. -/
theorem Reachable.fresh {config : Config} (reachable : Reachable config client)
    (starts : client.StartsAttempt .connect) :
    let next := client.link.dials + 1
    let after := client.step .connect
    after.trace = .dialed next :: .joined client.called next :: client.trace ∧
      after.link.lifecycle = .connecting next ∧ after.Waits client.called next ∧
      ∀ caller, .joined caller next ∉ client.trace := by
  intro next after
  have stepped : after = _ := step_connect_of_starts starts
  refine ⟨by rw [stepped]; rfl, by rw [stepped]; rfl, ?_, ?_⟩
  · rw [stepped]
    exact ⟨_, List.mem_append_right _ List.mem_cons_self, rfl, List.mem_cons_self⟩
  · intro caller joined
    have counted := reachable.sharers.joined_le joined
    omega

/-- A call that finds the link connecting waits for the attempt under way. -/
theorem Reachable.joins {config : Config} (reachable : Reachable config client) {number : Nat}
    (connecting : client.link.lifecycle = .connecting number) :
    let after := client.step .connect
    after.trace = .joined client.called number :: client.trace ∧
      after.link.lifecycle = .connecting number ∧ after.Waits client.called number := by
  intro after
  have stepped : after = _ := step_connect_of_connecting reachable.sound connecting
  refine ⟨by rw [stepped]; rfl, by rw [stepped]; exact connecting, ?_⟩
  obtain ⟨attempt, member, rfl⟩ := reachable.tended.named connecting
  rw [stepped]
  exact ⟨attempt.join _, Link.mem_changeAttempt.mpr ⟨attempt, member, .inl ⟨rfl, rfl⟩⟩, rfl,
    List.mem_append_right _ List.mem_cons_self⟩

/-- A caller learns that the link is open if its attempt has opened a socket, and else of a failure
of the connection. -/
theorem Reachable.learns {config : Config} (reachable : Reachable config client)
    {caller number : Nat} {outcome : Except Failure Unit}
    (joined : .joined caller number ∈ client.trace)
    (connected : .connected caller outcome ∈ client.trace) :
    (outcome = .ok () ↔ ∃ generation, .opened generation number ∈ client.trace) ∧
      ∀ failure, outcome = .error failure → failure.isConnectionError = true := by
  have learns := reachable.callers.outcome joined connected
  cases outcome with
  | ok opened =>
    refine ⟨⟨fun _ => ?_, fun _ => rfl⟩, by simp⟩
    apply learns.resolve_right
    rintro ⟨failure, impossible, _⟩
    cases impossible
  | error failure =>
    have unopened : ¬ ∃ generation, .opened generation number ∈ client.trace := by
      rintro ⟨_, opened⟩
      exact reachable.sharers.refused joined connected opened
    refine ⟨⟨by simp, fun opened => absurd opened unopened⟩, ?_⟩
    rintro _ ⟨⟩
    obtain ⟨_, same, blamed⟩ := learns.resolve_left unopened
    cases same
    exact blamed

/-- Once nothing goes on by itself, an attempt that somebody waits for has neither an answer nor
used up its time. -/
theorem IsQuiescent.waits (quiescent : client.IsQuiescent) (sound : client.Sound)
    {caller number : Nat} (waits : client.Waits caller number) : ∃ attempt,
      client.link.attempt? number = some attempt ∧ attempt.handshake = none ∧
        client.clock < attempt.deadline := by
  obtain ⟨attempt, member, rfl, waits⟩ := waits
  refine ⟨attempt, sound.link.attempt?_of_mem member, ?_⟩
  have occupied : attempt.callers ≠ [] := List.ne_nil_of_mem waits
  simpa [Attempt.isDue, occupied] using quiescent.2.2.2 attempt member

/-! ## Runs -/

/-- As long as nobody closes the link, its attempt stays that until it is past. -/
theorem owned_of_run (sound : client.Sound) {number : Nat} {actions : List Action}
    (own : client.link.lifecycle = .connecting number) (unclosed : .close ∉ actions) :
    (client.run actions).link.lifecycle = .connecting number ∨
      (client.run actions).Past number := by
  refine (@run_keeps _ (fun client => client.link.lifecycle = .connecting number ∨
    client.Past number) sound actions ?_ (.inl own)).2
  rintro action member middle next soundMiddle moves (own | past)
  · exact moves.owns soundMiddle own fun closing => unclosed (closing ▸ member)
  · exact .inr (moves.past past)

/-- A link that rests goes on so as long as nobody calls for it to be open, and then the next call
starts an attempt. -/
theorem starts_of_run (sound : client.Sound) (idle : client.link.lifecycle = .idle)
    {actions : List Action} (uncalled : .connect ∉ actions) (unreleased : .release ∉ actions) :
    (client.run actions).StartsAttempt .connect := by
  refine ⟨rfl, (@run_keeps _ (fun client => client.isHeld = true ∧
    (client.link.lifecycle = .idle ∨ client.link.lifecycle = .closed)) sound actions ?_
    ⟨sound.isHeld (by simp [idle]), .inl idle⟩).2⟩
  rintro action member middle next _ moves ⟨held, rests⟩
  exact moves.rests (fun calling => uncalled (calling ▸ member))
    (fun releasing => unreleased (releasing ▸ member)) held rests

/-- Whatever calls for an open link, ends and closes there are, callers share attempts. -/
theorem attempts_shared (config : Config) (actions : List Action) :
    SharesAttempts config actions := by
  have reachable : ∀ actions, Reachable config (ran config actions) :=
    fun actions => Reachable.initial.run actions
  have accounts := accounts_of_run config actions
  refine
    { dialed := run_dialings Reachable.initial.sound actions
      fresh := (reachable actions).fresh
      opened := fun generation => step_connect_of_opened (reachable actions).sound
      joins := fun number => (reachable actions).joins
      agree := (reachable actions).sharers.agree
      together := accounts.together
      outcome := (reachable actions).learns
      settles := accounts.fate
      waits := fun quiescent _ _ => quiescent.waits (reachable actions).sound
      resolves := (reachable actions).resolves
      owned := ?_
      fails := ?_ }
  · rintro before later rfl starts unclosed
    rw [ran, run_append]
    refine owned_of_run ((reachable before).sound.step .connect) ?_ unclosed
    exact ((reachable before).fresh starts).2.1
  · rintro before number later attempt rfl own found due failed
    have idle := resolve_idle own found due failed
    refine ⟨idle, fun uncalled unreleased => ?_⟩
    rw [ran, run_append]
    exact starts_of_run ((reachable before).sound.step (.resolve number)) idle uncalled unreleased

/-- Of three callers that share an attempt, two learn that it has opened a socket, and the one that
has given up learns nothing. A fourth one finds the link open. -/
example :
    let client := ran .loopback [.connect, .connect, .connect, .cancel 1, .settle 1 .accepted,
      .resolve 1, .connect]
    client.trace = [.connected 3 (.ok ()), .connected 2 (.ok ()), .connected 0 (.ok ()),
      .opened 1 1, .joined 2 1, .joined 1 1, .dialed 1, .joined 0 1] := by
  rfl

end Client

end RemoteAgent
