import RemoteAgent.Proofs.Client.Callers

/-!
# Abandoned attempts

An attempt that the owner has abandoned by closing the link may still end in its own time, and
in any way. It opens no socket, it leaves the lifecycle to whatever came after it, and all who
wait for it get an error (`abandoned_attempt_inert`). This rests on the numbers of attempts: the
lifecycle names only the newest one, so one that was displaced is never named again
(`Displaced`).
-/

namespace RemoteAgent.Client

/-- The link has given up the attempt of a number, which has opened no socket. -/
structure Displaced (client : Client) (number : Nat) : Prop where
  past : number ≤ client.link.dials
  unnamed : client.link.lifecycle ≠ .connecting number
  unopened : ∀ generation, .opened generation number ∉ client.trace

/-- A caller waits for the attempt of a number, which ends by a deadline at the latest, and whose
handshake may be known to have ended. -/
def Awaits (client : Client) (caller number deadline : Nat) (ended : Prop) : Prop :=
  ∃ attempt ∈ client.link.attempts, attempt.number = number ∧ attempt.deadline = deadline ∧
    caller ∈ attempt.callers ∧ (ended → attempt.handshake.isSome = true)

/-- A client goes on from another one with the same link as far as sockets are concerned, having
told no more than that an attempt was let go and that there is no connection. -/
structure Inert (client after : Client) (number : Nat) : Prop where
  lifecycle : after.link.lifecycle = client.link.lifecycle
  sockets : after.link.sockets = client.link.sockets
  generations : after.link.generations = client.link.generations
  requests : after.requests = client.requests
  trace : ∃ events, after.trace = events ++ client.trace ∧ ∀ event ∈ events,
    event = .forsook number ∨ ∃ caller failure, event = .connected caller (.error failure) ∧
      failure.isConnectionError = true

/-- A caller has learnt that there is no connection. -/
def Refused (client : Client) (caller : Nat) : Prop :=
  ∃ failure, .connected caller (.error failure) ∈ client.trace ∧ failure.isConnectionError = true

variable {client after : Client} {action : Action}

/-! ## Displaced attempts -/

/-- An attempt that the link has given up stays so. -/
theorem Move.displaced (moves : Move action client after) (sound : client.Sound) {number : Nat}
    (displaced : client.Displaced number) : after.Displaced number where
  past := Nat.le_trans displaced.past moves.counts.2
  unnamed := moves.unnamed displaced.past displaced.unnamed
  unopened := by
    intro generation member
    rcases moves.explains sound member with old | ⟨_, own, _⟩
    · exact displaced.unopened generation old
    · exact displaced.unnamed own

/-- Somebody holds a client that is connecting, and can close it. -/
theorem step_close (sound : client.Sound) {number : Nat}
    (connecting : client.link.lifecycle = .connecting number) :
    client.step .close = client.close := by
  have held : client.isHeld = true := by
    refine Bool.not_eq_false _ |>.mp fun unheld => ?_
    exact absurd ((sound.released unheld).1.symm.trans connecting) (by simp)
  simp [step, held, perform]

/-- To close the link displaces the attempt under way. -/
theorem displaced_of_close (sound : client.Sound) (history : client.History) {number : Nat}
    (connecting : client.link.lifecycle = .connecting number) :
    (client.step .close).Displaced number := by
  have closed := step_close sound connecting
  have lifecycle : client.close.link.lifecycle = .closed := by
    simp [close, sweep, noteAll_eq]
  have dials : client.close.link.dials = client.link.dials := by
    simp only [close, sweep, noteAll_eq, Link.sweep, Link.close]
    split <;> rfl
  refine ⟨?_, ?_, ?_⟩
  · rw [closed, dials]
    exact Nat.le_of_eq (sound.link.connecting connecting)
  · rw [closed, lifecycle]
    simp
  · intro generation member
    rw [closed, close, sweep, noteAll_eq, List.mem_append] at member
    rcases member with forsaken | old
    · simp at forsaken
    · exact (history.opened old).2.2 connecting

/-! ## Those who wait -/

/-- A move leaves a caller waiting, unless the caller gives up or is refused. -/
theorem Move.awaits (moves : Move action client after) (sound : client.Sound)
    {caller number deadline : Nat} {ended : Prop} (displaced : client.Displaced number)
    (stays : action ≠ .cancel caller) (held : action ≠ .release)
    (awaits : client.Refused caller ∨ client.Awaits caller number deadline ended) :
    after.Refused caller ∨ after.Awaits caller number deadline ended := by
  rcases awaits with ⟨failure, refused, blamed⟩ | ⟨attempt, member, rfl, rfl, waits, settled⟩
  · exact .inl ⟨failure, moves.remembers sound refused, blamed⟩
  rcases moves.attempt_after sound member with ⟨next, memberNext, goesOn⟩ |
    ⟨_, ⟨outcome, told, own | ⟨failure, rfl, blamed⟩⟩ | ⟨released, _⟩⟩
  · exact .inr ⟨next, memberNext, goesOn.number, goesOn.deadline, goesOn.stays caller waits stays,
      fun ends => goesOn.settled (settled ends)⟩
  · exact absurd own displaced.unnamed
  · exact .inl ⟨failure, told caller waits, blamed⟩
  · exact absurd released held

theorem Awaits.imp {caller number deadline : Nat} {ended other : Prop}
    (awaits : client.Awaits caller number deadline ended) (implies : other → ended) :
    client.Awaits caller number deadline other := by
  obtain ⟨attempt, member, same, due, waits, settled⟩ := awaits
  exact ⟨attempt, member, same, due, waits, fun holds => settled (implies holds)⟩

/-- To close the link leaves callers waiting. -/
theorem awaits_of_close {attempt : Attempt} (member : attempt ∈ client.link.attempts)
    {caller : Nat} (waits : caller ∈ attempt.callers) :
    client.close.Awaits caller attempt.number attempt.deadline
      (attempt.handshake.isSome = true) := by
  refine ⟨attempt, ?_, rfl, rfl, waits, id⟩
  have occupied : attempt.callers ≠ [] := List.ne_nil_of_mem waits
  simp [close, sweep, noteAll_eq, Link.sweep, Link.isForsaken, member, occupied]

/-- The handshake of an attempt that somebody waits for ends. -/
theorem Awaits.settle {caller number deadline : Nat} {ended : Prop}
    (awaits : client.Awaits caller number deadline ended) (handshake : Handshake) :
    (client.step (.settle number handshake)).Awaits caller number deadline True := by
  obtain ⟨attempt, member, rfl, rfl, waits, _⟩ := awaits
  exact ⟨attempt.settle handshake,
    Link.mem_changeAttempt.mpr ⟨attempt, member, .inl ⟨rfl, rfl⟩⟩,
    attempt.number_settle handshake, attempt.deadline_settle handshake,
    (attempt.callers_settle handshake).symm ▸ waits,
    fun _ => attempt.isSome_handshake_settle handshake⟩

/-- Over a run, a displaced attempt stays displaced, and who waits for it waits on or is
refused. -/
theorem run_awaits (sound : client.Sound) {caller number deadline : Nat} {ended : Prop}
    (displaced : client.Displaced number) {actions : List Action}
    (stays : .cancel caller ∉ actions) (held : .release ∉ actions)
    (awaits : client.Awaits caller number deadline ended) :
    (client.run actions).Sound ∧ (client.run actions).Displaced number ∧
      ((client.run actions).Refused caller ∨
        (client.run actions).Awaits caller number deadline ended) := by
  refine @run_keeps client (fun client => client.Displaced number ∧
    (client.Refused caller ∨ client.Awaits caller number deadline ended)) sound actions ?_
    ⟨displaced, .inr awaits⟩
  intro action member middle next soundMiddle moves ⟨displacedMiddle, awaitsMiddle⟩
  refine ⟨moves.displaced soundMiddle displacedMiddle,
    moves.awaits soundMiddle displacedMiddle ?_ ?_ awaitsMiddle⟩
  · rintro rfl
    exact stays member
  · rintro rfl
    exact held member

/-- After a run, who waited for a displaced attempt waits on or has been refused, and the attempt
remembers that its handshake has ended. -/
theorem awaits_of_run (sound : client.Sound) {caller number deadline : Nat} {ended : Prop}
    (displaced : client.Displaced number) {actions : List Action}
    (stays : .cancel caller ∉ actions) (held : .release ∉ actions)
    (awaits : client.Awaits caller number deadline ended) :
    (client.run actions).Refused caller ∨ (client.run actions).Awaits caller number deadline
      (ended ∨ ∃ handshake, .settle number handshake ∈ actions) := by
  induction actions generalizing client ended with
  | nil => exact .inr (awaits.imp (by simp))
  | cons action later inductionHypothesis =>
    simp only [List.mem_cons, not_or] at stays held
    obtain ⟨soundStep, displacedStep, awaitsStep⟩ := run_awaits sound displaced
      (fun member => stays.1 (List.mem_singleton.mp member))
      (fun member => held.1 (List.mem_singleton.mp member)) awaits
    rcases awaitsStep with ⟨failure, refused, blamed⟩ | awaitsStep
    · exact .inl ⟨failure, run_remembers soundStep later refused, blamed⟩
    · have settled : (client.step action).Awaits caller number deadline
          (ended ∨ ∃ handshake, action = .settle number handshake) := by
        by_cases settles : ∃ handshake, action = .settle number handshake
        · obtain ⟨handshake, rfl⟩ := settles
          exact (awaits.settle handshake).imp fun _ => trivial
        · exact awaitsStep.imp fun ends => ends.resolve_right settles
      apply (inductionHypothesis soundStep displacedStep stays.2 held.2 settled).imp_right
      refine fun finished => finished.imp ?_
      rintro (before | ⟨handshake, member⟩)
      · exact .inl (.inl before)
      · rcases List.mem_cons.mp member with same | after
        · exact .inl (.inr ⟨handshake, same.symm⟩)
        · exact .inr ⟨handshake, after⟩

/-! ## Inert attempts -/

namespace Inert

theorem refl (client : Client) (number : Nat) : client.Inert client number where
  lifecycle := rfl
  sockets := rfl
  generations := rfl
  requests := rfl
  trace := ⟨[], rfl, by simp⟩

theorem trans {middle : Client} {number : Nat} (first : client.Inert middle number)
    (second : middle.Inert after number) : client.Inert after number := by
  obtain ⟨earlier, extendedFirst, toldFirst⟩ := first.trace
  obtain ⟨later, extendedSecond, toldSecond⟩ := second.trace
  refine ⟨second.lifecycle.trans first.lifecycle, second.sockets.trans first.sockets,
    second.generations.trans first.generations, second.requests.trans first.requests,
    later ++ earlier, ?_, ?_⟩
  · rw [extendedSecond, extendedFirst, List.append_assoc]
  · intro event member
    rcases List.mem_append.mp member with told | told
    · exact toldSecond event told
    · exact toldFirst event told

theorem forsook (client : Client) (number : Nat) :
    client.Inert (client.note (.forsook number)) number where
  lifecycle := rfl
  sockets := rfl
  generations := rfl
  requests := rfl
  trace := ⟨[.forsook number], rfl, by simp⟩

/-- Those who wait for an attempt that the link does not name are refused, and nothing else. -/
theorem refuse {attempt : Attempt} (failure : Failure) (link : Link)
    (blamed : failure.isConnectionError = true)
    (lifecycle : link.lifecycle = client.link.lifecycle)
    (sockets : link.sockets = client.link.sockets)
    (generations : link.generations = client.link.generations) :
    client.Inert ({ client with link }.tellCallers attempt (.error failure)) attempt.number := by
  rw [tellCallers, noteAll_eq]
  refine ⟨lifecycle, sockets, generations, rfl, _, rfl, ?_⟩
  intro event member
  obtain ⟨caller, _, rfl⟩ := List.mem_map.mp (List.mem_reverse.mp member)
  exact .inr ⟨caller, failure, rfl, blamed⟩

end Inert

/-- An attempt that the link has given up fails for its callers only. -/
theorem inert_of_failAttempt {attempt : Attempt} {failure : Failure}
    (unnamed : client.link.lifecycle ≠ .connecting attempt.number)
    (blamed : failure.isConnectionError = true) :
    client.Inert (client.failAttempt attempt failure) attempt.number :=
  .refuse failure (client.link.fail attempt.number) blamed (Link.fail_lifecycle_of_ne unnamed)
    rfl rfl

/-- Everybody who waits for an attempt is told how it has ended. -/
theorem mem_tellCallers {attempt : Attempt} {caller : Nat} (waits : caller ∈ attempt.callers)
    (outcome : Except Failure Unit) :
    .connected caller outcome ∈ (client.tellCallers attempt outcome).trace := by
  rw [tellCallers, noteAll_eq]
  exact List.mem_append_left _ (List.mem_reverse.mpr (List.mem_map_of_mem waits))

/-- An attempt that the link does not name ends without a trace but for its callers, who are
refused. -/
theorem resolve_unnamed {number : Nat} (unnamed : client.link.lifecycle ≠ .connecting number) :
    client.Inert (client.resolve number) number ∧
      ∀ attempt, client.link.attempt? number = some attempt →
        attempt.isDue client.clock = true → ∀ caller ∈ attempt.callers,
          (client.resolve number).Refused caller := by
  unfold resolve
  cases found : client.link.attempt? number with
  | none => exact ⟨.refl client number, by simp⟩
  | some attempt =>
    have named : attempt.number = number := by simpa using List.find?_some found
    subst named
    simp only [Option.some.injEq]
    by_cases due : attempt.isDue client.clock = true
    · rw [if_pos due]
      cases handshake : attempt.handshake with
      | none =>
        refine ⟨(inert_of_failAttempt unnamed rfl).trans (.forsook _ _), ?_⟩
        rintro _ rfl _ caller waits
        exact ⟨_, List.mem_cons_of_mem _ (mem_tellCallers waits _), rfl⟩
      | some ending =>
        cases ending with
        | accepted =>
          simp only [openSocket, if_neg unnamed]
          refine ⟨(Inert.forsook client attempt.number).trans
            (.refuse (.connection .abandoned) (client.link.forget attempt.number) rfl rfl rfl rfl),
            ?_⟩
          rintro _ rfl _ caller waits
          exact ⟨_, mem_tellCallers waits _, rfl⟩
        | failed fault =>
          refine ⟨inert_of_failAttempt unnamed rfl, ?_⟩
          rintro _ rfl _ caller waits
          exact ⟨_, mem_tellCallers waits _, rfl⟩
    · rw [if_neg due]
      refine ⟨.refl client _, ?_⟩
      rintro _ rfl isDue
      exact absurd isDue due

/-- The end of a handshake is seen by its attempt only. -/
theorem settle_inert (number : Nat) (handshake : Handshake) :
    client.Inert (client.settle number handshake) number where
  lifecycle := rfl
  sockets := rfl
  generations := rfl
  requests := rfl
  trace := ⟨[], rfl, by simp⟩

/-- An attempt that the owner has abandoned by closing the link never opens a socket, whatever
happens afterwards. When its handshake ends and when it goes on, nothing changes for the
lifecycle, the sockets and the requests, and nothing is told but that there is no connection. Its
callers never learn anything else, and those who neither give up nor let go of the client learn it
when the attempt goes on once its handshake has ended or its deadline has passed. -/
theorem abandoned_attempt_inert {config : Config} {client : Client} {number : Nat}
    (reachable : Reachable config client)
    (connecting : client.link.lifecycle = .connecting number) (actions : List Action) :
    let after := (client.step .close).run actions
    (∀ generation, .opened generation number ∉ after.trace) ∧
    (∀ generation socket, after.link.socket? generation = some socket →
      socket.attempt ≠ number) ∧
    after.link.lifecycle ≠ .connecting number ∧
    after.Inert (after.step (.resolve number)) number ∧
    (∀ handshake, after.Inert (after.step (.settle number handshake)) number) ∧
    (∀ caller outcome, .joined caller number ∈ after.trace →
      .connected caller outcome ∈ after.trace →
        ∃ failure, outcome = .error failure ∧ failure.isConnectionError = true) ∧
    (∀ attempt ∈ client.link.attempts, attempt.number = number → ∀ caller ∈ attempt.callers,
      .cancel caller ∉ actions → .release ∉ actions →
      attempt.deadline ≤ after.clock ∨ attempt.handshake.isSome = true ∨
        (∃ handshake, .settle number handshake ∈ actions) →
      (after.step (.resolve number)).Refused caller) := by
  intro after
  have displacedAtOnce := displaced_of_close reachable.sound reachable.history connecting
  have reachableClosed := reachable.step .close
  have reachableAfter : Reachable config after := reachableClosed.run actions
  have displaced : after.Displaced number :=
    (@run_keeps _ (fun client => client.Displaced number) reachableClosed.sound actions
      (fun _ _ _ _ sound moves => moves.displaced sound) displacedAtOnce).2
  have resolved : after.step (.resolve number) = after.resolve number := rfl
  obtain ⟨inert, refuses⟩ := resolve_unnamed displaced.unnamed
  refine ⟨displaced.unopened, ?_, displaced.unnamed, inert, ?_, ?_, ?_⟩
  · rintro generation socket found rfl
    exact displaced.unopened generation (reachableAfter.history.socket found)
  · exact fun handshake => settle_inert number handshake
  · intro caller outcome joined connected
    apply (reachableAfter.callers.outcome joined connected).resolve_left
    rintro ⟨generation, opened⟩
    exact displaced.unopened generation opened
  · rintro attempt member rfl caller waits stays held ends
    have awaits := awaits_of_close member waits
    rw [← step_close reachable.sound connecting] at awaits
    rcases awaits_of_run reachableClosed.sound displacedAtOnce stays held awaits with
      ⟨failure, refused, blamed⟩ | ⟨last, memberLast, same, deadline, waitsLast, settled⟩
    · exact ⟨failure, run_remembers reachableAfter.sound [.resolve attempt.number] refused, blamed⟩
    · have found := reachableAfter.sound.link.attempt?_of_mem memberLast
      rw [same] at found
      refine refuses last found ?_ caller waitsLast
      have occupied : last.callers ≠ [] := List.ne_nil_of_mem waitsLast
      have due : last.handshake.isSome = true ∨ last.deadline ≤ after.clock := by
        rcases ends with late | before
        · exact .inr (deadline ▸ late)
        · exact .inl (settled before)
      simpa [Attempt.isDue, occupied] using due

/-- An attempt whose handshake succeeds after the owner has closed the link and called for an open
one again, and whose caller learns that there is no connection. -/
theorem abandoned_attempt_inert_of_reconnect :
    let client := (Client.initial .loopback).run [.connect]
    let after := (client.step .close).run [.connect, .settle 1 .accepted, .settle 2 .accepted]
    client.link.lifecycle = .connecting 1 ∧ after.link.lifecycle = .connecting 2 ∧
      (after.step (.resolve 1)).link.lifecycle = .connecting 2 ∧
      (after.step (.resolve 1)).Refused 0 := by
  have reachable : Reachable .loopback ((Client.initial .loopback).run [.connect]) :=
    Reachable.initial.run _
  have connecting : ((Client.initial .loopback).run [.connect]).link.lifecycle = .connecting 1 := by
    decide
  obtain ⟨_, _, _, inert, _, _, refuses⟩ := abandoned_attempt_inert reachable connecting
    [.connect, .settle 1 .accepted, .settle 2 .accepted]
  refine ⟨connecting, by decide, inert.lifecycle.trans (by decide), ?_⟩
  refine refuses ⟨1, 1000000000, none, [0]⟩ (by decide) rfl 0 (by decide) (by decide) (by decide) ?_
  exact .inr (.inr ⟨.accepted, by decide⟩)

end RemoteAgent.Client
