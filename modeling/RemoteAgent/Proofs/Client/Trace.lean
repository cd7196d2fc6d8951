import RemoteAgent.Proofs.Client.Sockets

/-!
# The trace of a client

The trace only grows, and a move adds no event without a cause in the state that it starts from:
`Event.Explained` names the cause of every kind of event, and `Move.adds` says that each move
has it for all that it adds. What the trace tells of sockets and requests is drawn from the
causes (`Reachable.history`).
-/

namespace RemoteAgent

/-- The cause for which a move adds an event. Remarks need none. -/
def Event.Explained (action : Action) (client after : Client) : Event → Prop
  | .joined call attempt => call = client.called ∧ after.called = client.called + 1 ∧
      (client.link.lifecycle = .connecting attempt ∧
          after.link = client.link.changeAttempt attempt (·.join call) ∨
        attempt = client.link.dials + 1 ∧
          ∃ deadline, after.link = client.link.dial call deadline)
  | .dialed attempt => action = .connect ∧ attempt = client.link.dials + 1 ∧
      after.link.dials = attempt
  | .opened generation attempt => generation = client.link.generations + 1 ∧
      client.link.lifecycle = .connecting attempt ∧ after.link = client.link.attach attempt
  | .accepted generation frame => client.link.lifecycle = .opened generation ∧
      (action.runsRequests = true ∨ action = .send frame)
  | .transmitted generation _ => ∃ socket, client.link.socket? generation = some socket
  | .told .fileService generation => ∃ socket later,
      client.link.socket? generation = some socket ∧
        socket.stage = .reporting (.fileService :: later) ∧
        after.link = client.link.toldAllBut generation later ∧
        after.requests = client.requests.disconnect generation
  | .issued number key => action.runsRequests = true ∧ number = client.requests.issued ∧
      after.requests.issued = number + 1 ∧
      ∃ request, after.requests.find? number = some request ∧ request.key = key
  | .sent number generation => action.runsRequests = true ∧
      client.link.lifecycle = .opened generation ∧
      ∃ request, client.requests.find? number = some request ∧ request.standing = .granted ∧
        after.requests = client.requests.enter request generation client.clock
  | .answered number outcome => action.runsRequests = true ∧
      ∃ request, client.requests.find? number = some request ∧ client.Ends request outcome ∧
        after.requests = client.requests.release request
  | .connected call outcome =>
      (call = client.called ∧ after.called = client.called + 1 ∧
        ∃ generation, after.link.lifecycle = .opened generation) ∨
      ∃ attempt, action = .resolve attempt.number ∧
        client.link.attempt? attempt.number = some attempt ∧ call ∈ attempt.callers ∧
        (client.link.lifecycle = .connecting attempt.number ∧ outcome = .ok () ∧
            after.link = client.link.attach attempt.number ∨
          (∃ failure, outcome = .error failure ∧ failure.isConnectionError = true) ∧
            after.link = client.link.fail attempt.number)
  | _ => True

namespace Client

variable {client after : Client} {action : Action}

theorem explained_of_isRemark {event : Event} (remark : event.isRemark = true) :
    event.Explained action client after := by
  cases event <;> trivial

theorem RequestMove.adds (moves : RequestMove action client after) (sound : client.Sound) :
    ∃ events, after.trace = events ++ client.trace ∧
      ∀ event ∈ events, event.Explained action client after := by
  cases moves with
  | @issues call want runs asked wanted =>
    have found := find?_of_issue sound.requests call want
    have number : (client.issue call want).2.number = client.requests.issued :=
      Requests.issue_number ..
    have counted : (client.issue call want).1.requests.issued = client.requests.issued + 1 :=
      Requests.issue_issued ..
    refine ⟨[.issued (client.issue call want).2.number (client.issue call want).2.key], rfl, ?_⟩
    intro event member
    rw [List.mem_singleton.mp member]
    exact ⟨runs, number, counted.trans (by rw [number]), _, found, rfl⟩
  | @sends request generation runs found turn opened =>
    refine ⟨[.sent request.number generation, .accepted generation request.frame], rfl, ?_⟩
    intro event member
    rcases List.mem_cons.mp member with rfl | accepted
    · exact ⟨runs, opened, request, found, turn, rfl⟩
    · rw [List.mem_singleton.mp accepted]
      exact ⟨opened, .inl runs⟩
  | @ends request outcome runs found ending =>
    refine ⟨[.answered request.number outcome], rfl, ?_⟩
    intro event member
    rw [List.mem_singleton.mp member]
    exact ⟨runs, request, found, ending, rfl⟩
  | rests => exact ⟨[], rfl, by simp⟩
  | drops => exact ⟨[], rfl, by simp⟩
  | delivers => exact ⟨[], rfl, by simp⟩

theorem LinkMove.adds (moves : LinkMove action client after) :
    ∃ events, after.trace = events ++ client.trace ∧
      ∀ event ∈ events, event.Explained action client after := by
  cases moves with
  | finds calling opened =>
    refine ⟨[.connected client.called (.ok ())], rfl, ?_⟩
    intro event member
    rw [List.mem_singleton.mp member]
    exact .inl ⟨rfl, rfl, _, opened⟩
  | @joins number calling connecting =>
    refine ⟨[.joined client.called number], rfl, ?_⟩
    intro event member
    rw [List.mem_singleton.mp member]
    exact ⟨rfl, rfl, .inl ⟨connecting, rfl⟩⟩
  | dials deadline calling =>
    refine ⟨[.dialed (client.link.dials + 1), .joined client.called (client.link.dials + 1)], rfl,
      ?_⟩
    intro event member
    rcases List.mem_cons.mp member with rfl | joined
    · exact ⟨calling, rfl, rfl⟩
    · rw [List.mem_singleton.mp joined]
      exact ⟨rfl, rfl, .inr ⟨rfl, deadline, rfl⟩⟩
  | parts => exact ⟨[], rfl, by simp⟩
  | sweeps => exact ⟨[], rfl, by simp⟩
  | closes => exact ⟨[], rfl, by simp⟩
  | settles => exact ⟨[], rfl, by simp⟩
  | @opens attempt remarks resolving found own quiet =>
    refine ⟨(attempt.callers.map fun caller => Event.connected caller (.ok ())).reverse ++
      (remarks ++ [.opened (client.link.generations + 1) attempt.number]), by simp, ?_⟩
    intro event member
    simp only [List.mem_append, List.mem_reverse, List.mem_map, List.mem_singleton] at member
    rcases member with ⟨caller, joined, rfl⟩ | remark | rfl
    · exact .inr ⟨attempt, resolving, found, joined, .inl ⟨own, rfl, rfl⟩⟩
    · exact explained_of_isRemark (quiet event remark)
    · exact ⟨rfl, own, rfl⟩
  | @fails attempt failure resolving found blamed =>
    refine ⟨_, rfl, ?_⟩
    intro event member
    obtain ⟨caller, joined, rfl⟩ := List.mem_map.mp (List.mem_reverse.mp member)
    exact .inr ⟨attempt, resolving, found, joined, .inr ⟨⟨failure, rfl, blamed⟩, rfl⟩⟩
  | @accepts generation frame sending opened =>
    refine ⟨[.accepted generation frame], rfl, ?_⟩
    intro event member
    rw [List.mem_singleton.mp member]
    exact ⟨opened, .inr sending⟩
  | @writes generation socket frame _ _ found =>
    refine ⟨[.transmitted generation frame], rfl, ?_⟩
    intro event member
    rw [List.mem_singleton.mp member]
    exact ⟨socket, found⟩
  | breaks => exact ⟨[], rfl, by simp⟩
  | announces => exact ⟨[], rfl, by simp⟩
  | retires => exact ⟨[], rfl, by simp⟩
  | @tells generation _ name claims hears =>
    refine ⟨[.told (.custom name claims hears) generation], rfl, ?_⟩
    intro event member
    rw [List.mem_singleton.mp member]
    trivial

/-- A move adds to the trace, and every event that it adds has its cause. -/
theorem Move.adds (moves : Move action client after) (sound : client.Sound) :
    ∃ events, after.trace = events ++ client.trace ∧
      ∀ event ∈ events, event.Explained action client after := by
  cases moves with
  | remarks remarks =>
    obtain ⟨told, quiet, extended⟩ := remarks.trace
    exact ⟨told, extended, fun event member => explained_of_isRemark (quiet event member)⟩
  | registers => exact ⟨[], rfl, by simp⟩
  | waits => exact ⟨[], rfl, by simp⟩
  | request moves => exact moves.adds sound
  | link moves => exact moves.adds
  | @loses generation socket later _ found reporting =>
    refine ⟨[.told .fileService generation], rfl, ?_⟩
    intro event member
    rw [List.mem_singleton.mp member]
    exact ⟨socket, later, found, reporting, rfl, rfl⟩
  | releases => exact ⟨[], rfl, by simp⟩

/-- What is drawn from the trace stays the same in a move that adds nothing to it. -/
theorem Move.view {α : Type} (moves : Move action client after) (sound : client.Sound)
    {view : Event → Option α}
    (hidden : ∀ event : Event, event.Explained action client after → view event = none) :
    after.trace.reverse.filterMap view = client.trace.reverse.filterMap view := by
  obtain ⟨events, extended, explained⟩ := moves.adds sound
  have none : events.reverse.filterMap view = [] :=
    List.filterMap_eq_nil_iff.mpr fun event member =>
      hidden event (explained event (List.mem_reverse.mp member))
  rw [extended, List.reverse_append, List.filterMap_append, none, List.append_nil]

/-- An event after a move was there before it, or has its cause in it. -/
theorem Move.explains (moves : Move action client after) (sound : client.Sound) {event : Event}
    (member : event ∈ after.trace) :
    event ∈ client.trace ∨ event.Explained action client after := by
  obtain ⟨events, extended, explained⟩ := moves.adds sound
  rw [extended] at member
  exact (List.mem_append.mp member).symm.imp_right (explained event)

/-- No move takes back what was told. -/
theorem Move.remembers (moves : Move action client after) (sound : client.Sound) {event : Event}
    (member : event ∈ client.trace) : event ∈ after.trace := by
  obtain ⟨events, extended, _⟩ := moves.adds sound
  exact extended ▸ List.mem_append_right events member

/-- No course of moves takes back what was told. -/
theorem Course.remembers (course : Course action client after) (sound : client.Sound)
    {event : Event} (member : event ∈ client.trace) : event ∈ after.trace :=
  (@Course.induct _ _ _ (fun client => client.Sound ∧ event ∈ client.trace) course sound.requests
    (fun _ _ _ moves ⟨soundMiddle, told⟩ =>
      ⟨moves.keepsSound soundMiddle, moves.remembers soundMiddle told⟩) ⟨sound, member⟩).2.2

/-- No run takes back what was told. -/
theorem run_remembers (sound : client.Sound) (actions : List Action) {event : Event}
    (member : event ∈ client.trace) : event ∈ (client.run actions).trace :=
  (@run_keeps client (fun client => event ∈ client.trace) sound actions
    (fun _ _ _ _ soundMiddle moves => moves.remembers soundMiddle) member).2

end Client

end RemoteAgent
