import RemoteAgent.Proofs.Client.Connects

/-!
# Attempts whose time is up

An attempt belongs to the callers that wait for it, and so does its deadline: without them it does
not end. Once its time is up and nothing goes on by itself, nobody waits for it, and the link goes
on connecting with it only if all who joined it have given up (`expired_attempt_unwaited`). In that
case the next caller joins the attempt whose time is up, which ends as soon as it goes on.
-/

namespace RemoteAgent.Client

/-- How things stand with an attempt whose time is up, when nothing goes on by itself and it is
known who has given up waiting for it. -/
structure TimeIsUp (client : Client) (number : Nat) (gaveUp : Nat → Prop) : Prop where
  unwaited : ∀ caller, ¬ client.Waits caller number
  /-- The link goes on connecting with it only if all who joined it have given up. -/
  deserted : client.link.lifecycle = .connecting number →
    ∀ caller, .joined caller number ∈ client.trace → gaveUp caller
  /-- Otherwise nobody joins it any more. -/
  closed : client.link.lifecycle ≠ .connecting number → ∀ later caller,
    .joined caller number ∈ (client.run later).trace → .joined caller number ∈ client.trace
  /-- If it does, the next caller joins the attempt, which can end at once. -/
  stale : client.link.lifecycle = .connecting number →
    let joined := client.step .connect
    joined.Waits client.called number ∧ (joined.step (.resolve number)).Past number ∧
      (∃ outcome, .connected client.called outcome ∈ (joined.step (.resolve number)).trace) ∧
      ∀ attempt, client.link.attempt? number = some attempt → attempt.handshake = none →
        .connected client.called
            (.error (.connectionTimeout client.config.connectTimeout.milliseconds)) ∈
          (joined.step (.resolve number)).trace

variable {client after : Client} {action : Action}

/-- The attempt of a number, if it is there, ends by a deadline. -/
structure EndsBy (client : Client) (number deadline : Nat) : Prop where
  counted : number ≤ client.link.dials
  deadline : ∀ attempt ∈ client.link.attempts, attempt.number = number →
    attempt.deadline = deadline

/-- No move puts a deadline off. -/
theorem Move.endsBy (moves : Move action client after) {number deadline : Nat}
    (endsBy : client.EndsBy number deadline) : after.EndsBy number deadline where
  counted := Nat.le_trans endsBy.counted moves.counts.2
  deadline := by
    rintro attempt member rfl
    rcases moves.attempt_before member with ⟨before, memberBefore, goesOn⟩ | starts
    · exact goesOn.deadline.trans (endsBy.deadline before memberBefore goesOn.number.symm)
    · have counted := endsBy.counted
      have newest := starts.number
      omega

/-- An attempt that starts now ends by the deadline that its caller sets. -/
theorem endsBy_of_starts (sound : client.Sound) (starts : client.StartsAttempt .connect) :
    (client.step .connect).EndsBy (client.link.dials + 1)
      (client.clock + client.config.connectTimeout.nanoseconds) := by
  rw [step_connect_of_starts starts]
  refine ⟨Nat.le_refl _, fun attempt member named => ?_⟩
  rcases List.mem_append.mp member with old | new
  · have counted := sound.link.number_le attempt old
    omega
  · rw [List.mem_singleton.mp new]

/-- Nobody waits for an attempt whose time is up, once nothing goes on by itself. -/
theorem IsQuiescent.unwaited (quiescent : client.IsQuiescent) (sound : client.Sound)
    {number deadline : Nat} (endsBy : client.EndsBy number deadline)
    (late : deadline ≤ client.clock) (caller : Nat) : ¬ client.Waits caller number := by
  intro waits
  obtain ⟨attempt, found, _, early⟩ := quiescent.waits sound waits
  have due := endsBy.deadline attempt (List.mem_of_find?_eq_some found)
    (by simpa using List.find?_some found)
  omega

/-- An attempt that can end without a handshake tells those who wait for it that it took too
long. -/
theorem resolve_timesOut {number caller : Nat} {attempt : Attempt}
    (found : client.link.attempt? number = some attempt)
    (due : attempt.isDue client.clock = true) (waits : caller ∈ attempt.callers)
    (unanswered : attempt.handshake = none) :
    .connected caller (.error (.connectionTimeout client.config.connectTimeout.milliseconds)) ∈
      (client.step (.resolve number)).trace := by
  change _ ∈ (client.resolve number).trace
  simp only [resolve, found, due, if_true, unanswered]
  exact List.mem_cons_of_mem _ (mem_tellCallers waits _)

/-- Nobody joins an attempt that the link does not name, and that is not to come. -/
theorem joined_of_run (sound : client.Sound) {number : Nat} (counted : number ≤ client.link.dials)
    (unnamed : client.link.lifecycle ≠ .connecting number) (later : List Action) {caller : Nat}
    (joined : .joined caller number ∈ (client.run later).trace) :
    .joined caller number ∈ client.trace := by
  refine (@run_keeps client (fun middle => number ≤ middle.link.dials ∧
    middle.link.lifecycle ≠ .connecting number ∧
      (.joined caller number ∈ middle.trace → .joined caller number ∈ client.trace)) sound later ?_
    ⟨counted, unnamed, id⟩).2.2.2 joined
  rintro action _ middle next soundMiddle moves ⟨countedMiddle, unnamedMiddle, known⟩
  have unnamedNext := moves.unnamed countedMiddle unnamedMiddle
  refine ⟨Nat.le_trans countedMiddle moves.counts.2, unnamedNext, fun joinedNext => known ?_⟩
  exact (moves.joins soundMiddle joinedNext).resolve_right fun ⟨_, named⟩ => unnamedNext named

/-- A caller that finds a link connecting with an attempt whose time is up joins it, and it can end
at once. -/
theorem Reachable.stale {config : Config} (reachable : Reachable config client)
    {number deadline : Nat} (endsBy : client.EndsBy number deadline)
    (late : deadline ≤ client.clock) (connecting : client.link.lifecycle = .connecting number) :
    ∃ attempt, client.link.attempt? number = some attempt ∧
      (client.step .connect).link.attempt? number = some (attempt.join client.called) ∧
      (attempt.join client.called).isDue (client.step .connect).clock = true := by
  obtain ⟨attempt, member, rfl⟩ := reachable.tended.named connecting
  have stepped := step_connect_of_connecting reachable.sound connecting
  have memberAfter : attempt.join client.called ∈ (client.step .connect).link.attempts := by
    rw [stepped]
    exact Link.mem_changeAttempt.mpr ⟨attempt, member, .inl ⟨rfl, rfl⟩⟩
  refine ⟨attempt, reachable.sound.link.attempt?_of_mem member,
    (reachable.sound.step .connect).link.attempt?_of_mem memberAfter, ?_⟩
  have due := endsBy.deadline attempt member rfl
  rw [stepped]
  simpa [Attempt.isDue, Attempt.join, due, note] using Or.inr late

/-- An attempt whose time is up is not waited for once nothing goes on by itself. Unless all who
joined it have given up, the link does not go on connecting with it either, and nobody joins it any
more. -/
theorem expired_attempt_unwaited {config : Config} {before later : List Action}
    (starts : (ran config before).StartsAttempt .connect)
    (late : (ran config before).clock + config.connectTimeout.nanoseconds ≤
      (ran config (before ++ .connect :: later)).clock)
    (quiescent : (ran config (before ++ .connect :: later)).IsQuiescent) :
    (ran config (before ++ .connect :: later)).TimeIsUp ((ran config before).link.dials + 1)
      fun caller => GaveUp config (before ++ .connect :: later) caller
        ((ran config before).link.dials + 1) := by
  have reachable : ∀ actions, Reachable config (ran config actions) :=
    fun actions => Reachable.initial.run actions
  have reachableAfter := reachable (before ++ .connect :: later)
  have accounts := accounts_of_run config (before ++ .connect :: later)
  have endsBy : (ran config (before ++ .connect :: later)).EndsBy
      ((ran config before).link.dials + 1)
      ((ran config before).clock + config.connectTimeout.nanoseconds) := by
    have atOnce := endsBy_of_starts (reachable before).sound starts
    rw [(reachable before).config] at atOnce
    have whole : ran config (before ++ .connect :: later) =
        ((ran config before).step .connect).run later := run_append _ _ _
    rw [whole]
    exact (@run_keeps _ (fun client => client.EndsBy _ _) ((reachable before).sound.step .connect)
      later (fun _ _ _ _ _ moves endsBy => moves.endsBy endsBy) atOnce).2
  generalize ran config (before ++ .connect :: later) = client at *
  generalize (ran config before).link.dials + 1 = number at *
  refine
    { unwaited := quiescent.unwaited reachableAfter.sound endsBy late
      deserted := ?_
      closed := fun unnamed later caller =>
        joined_of_run reachableAfter.sound endsBy.counted unnamed later
      stale := ?_ }
  · intro connecting caller joined
    have held := reachableAfter.sound.isHeld (by simp [connecting])
    rcases accounts.fate held joined with waits | ⟨_, told⟩ | gaveUp
    · exact absurd waits (quiescent.unwaited reachableAfter.sound endsBy late caller)
    · exact absurd connecting (reachableAfter.sharers.told joined told).unnamed
    · exact gaveUp
  · intro connecting joined
    obtain ⟨attempt, found, foundJoined, due⟩ := reachableAfter.stale endsBy late connecting
    have waits : client.called ∈ (attempt.join client.called).callers :=
      List.mem_append_right _ List.mem_cons_self
    have named : attempt.number = number := by simpa using List.find?_some found
    obtain ⟨past, outcome, told⟩ := (reachableAfter.step .connect).resolves foundJoined due
    refine ⟨⟨_, List.mem_of_find?_eq_some foundJoined, named, waits⟩, past,
      ⟨outcome, told _ waits⟩, ?_⟩
    rintro other foundOther unanswered
    rw [found] at foundOther
    cases foundOther
    have timesOut := resolve_timesOut foundJoined due waits unanswered
    rwa [(reachableAfter.step .connect).config, ← reachableAfter.config] at timesOut

/-- An attempt whose only caller waits until its time is up. -/
theorem expired_attempt_unwaited_of_wait :
    let actions : List Action := [.wait (.ofSeconds 1), .resolve 1]
    let client := ran .loopback (.connect :: actions)
    client.link.lifecycle = .idle ∧ ∀ later caller,
      .joined caller 1 ∈ (client.run later).trace → .joined caller 1 ∈ client.trace := by
  intro actions client
  have up := @expired_attempt_unwaited .loopback [] actions (by decide) (by decide) (by decide)
  have idle : client.link.lifecycle = .idle := by decide
  exact ⟨idle, up.closed (fun connecting => by cases idle.symm.trans connecting)⟩

/-- An attempt whose only caller gives up outlives its time. The next caller joins it, and learns at
once that it has taken too long. -/
theorem deserted_attempt_outlives_timeout :
    let client := ran .loopback [.connect, .cancel 0, .wait (.ofSeconds 1)]
    (Client.initial .loopback).StartsAttempt .connect ∧
      (Client.initial .loopback).clock + Config.loopback.connectTimeout.nanoseconds ≤
        client.clock ∧
      client.IsQuiescent ∧ client.link.lifecycle = .connecting 1 ∧
      (client.step .connect).trace.head? = some (.joined 1 1) ∧
      (client.run [.connect, .resolve 1]).trace =
        [.forsook 1, .connected 1 (.error (.connectionTimeout 1000)), .joined 1 1, .dialed 1,
          .joined 0 1] := by
  refine ⟨by decide, by decide, by decide, by decide, rfl, rfl⟩

end RemoteAgent.Client
