import RemoteAgent.Proofs.Client.Sound

/-!
# The course of a socket

What a move can do to one socket, together with the traffic on it that the move adds to the
trace. `Move.follows` says that a socket after a move was there before it or has just been
opened, and `Move.owes` that a socket that owes the file service the report of its end stays until
it has made it.
-/

namespace RemoteAgent

/-- The event is traffic on the socket of a generation. -/
def Event.isTraffic (generation : Nat) : Event → Bool
  | .accepted other _ | .transmitted other _ => other == generation
  | _ => false

/-- How a socket changes in one move, which may change the lifecycle, with the traffic that this
adds. -/
inductive Socket.Follows (former latter : Lifecycle) (generation : Nat) (before : Socket) :
    List Event → Socket → Prop where
  | same : Follows former latter generation before [] before
  /-- A frame is accepted for the open socket. -/
  | accepts (frame : Bytes) (opened : former = .opened generation) :
      Follows former latter generation before [.accepted generation frame]
        (before.push (.frame frame))
  /-- The order to close is queued for the open socket. -/
  | closes (opened : former = .opened generation) (closed : latter = .closed) :
      Follows former latter generation before [] (before.push .shutdown)
  /-- The frame at the front of the queue is written. -/
  | writes {frame : Bytes} {rest : List Command} (running : before.stage = .running)
      (queued : before.queue = .frame frame :: rest) :
      Follows former latter generation before [.transmitted generation frame]
        { before with queue := rest }
  /-- The socket ends. -/
  | ends (running : before.stage = .running) :
      Follows former latter generation before [] { before with stage := .broken }
  /-- The link takes notice of the end. -/
  | announces (broken : before.stage = .broken) (later : List Handler) :
      Follows former latter generation before []
        { before with stage := .reporting (.fileService :: later) }
  /-- A handler is told of the end. -/
  | tells {handler : Handler} {later : List Handler}
      (reporting : before.stage = .reporting (handler :: later)) :
      Follows former latter generation before [] { before with stage := .reporting later }

namespace Socket.Follows

variable {former latter : Lifecycle} {generation : Nat} {before after : Socket}
  {traffic : List Event}

/-- The socket stays that of its attempt. -/
theorem attempt (follows : before.Follows former latter generation traffic after) :
    after.attempt = before.attempt := by
  cases follows <;> rfl

/-- A socket that has made its report to the file service does not owe it again. -/
theorem owes (follows : before.Follows former latter generation traffic after) (owes : after.owes = true) :
    before.owes = true ∨ ∃ handler later, before.stage = .reporting (handler :: later) ∧
      Handler.fileService ∈ later := by
  cases follows with
  | same => exact .inl owes
  | accepts => exact .inl owes
  | closes => exact .inl owes
  | writes => exact .inl owes
  | ends running => exact .inl (by rw [Socket.owes, running])
  | announces broken => exact .inl (by rw [Socket.owes, broken])
  | @tells handler later reporting =>
    refine .inr ⟨handler, later, reporting, ?_⟩
    have first : later.head? = some .fileService := by simpa [Socket.owes] using owes
    exact List.mem_of_head? first

end Socket.Follows

namespace Client

/-- The traffic on the socket of a generation, the last first. -/
def traffic (client : Client) (generation : Nat) : List Event :=
  client.trace.filter (·.isTraffic generation)

/-- The socket of a generation follows from the one before, and the trace grows by its traffic. -/
def Succeeds (client after : Client) (generation : Nat) (socket : Socket) : Prop :=
  ∃ before traffic, client.link.socket? generation = some before ∧
    before.Follows client.link.lifecycle after.link.lifecycle generation traffic socket ∧
    after.traffic generation = traffic ++ client.traffic generation

/-- The socket of a generation has just been opened. -/
def Opens (client after : Client) (generation : Nat) (socket : Socket) : Prop :=
  generation = client.link.generations + 1 ∧
    client.link.lifecycle = .connecting socket.attempt ∧ socket.stage = .running ∧
    socket.queue = [] ∧ .opened generation socket.attempt ∈ after.trace ∧
    after.traffic generation = client.traffic generation

variable {client after : Client} {action : Action}

/-- Events that are no traffic leave the traffic as it is. -/
theorem traffic_of_append (events : List Event) (extended : after.trace = events ++ client.trace)
    {generation : Nat} (quiet : ∀ event ∈ events, event.isTraffic generation = false) :
    after.traffic generation = client.traffic generation := by
  have none : events.filter (·.isTraffic generation) = [] :=
    List.filter_eq_nil_iff.mpr fun event member => by simp [quiet event member]
  rw [traffic, extended, List.filter_append, none]
  rfl

theorem isTraffic_of_isRemark {event : Event} (remark : event.isRemark = true) (generation : Nat) :
    event.isTraffic generation = false := by
  cases event <;> first | rfl | cases remark

/-- There is no traffic in the opening of a socket. -/
theorem quiet_of_opens {attempt : Attempt} {remarks : List Event}
    (quiet : ∀ event ∈ remarks, event.isRemark = true) (opened generation : Nat) :
    ∀ event ∈ (attempt.callers.map fun caller => Event.connected caller (.ok ())).reverse ++
      (remarks ++ [.opened opened attempt.number]), event.isTraffic generation = false := by
  intro event member
  simp only [List.mem_append, List.mem_reverse, List.mem_map, List.mem_singleton] at member
  rcases member with ⟨caller, _, rfl⟩ | remark | rfl
  · rfl
  · exact isTraffic_of_isRemark (quiet event remark) generation
  · rfl

/-- There is no traffic in what callers learn. -/
theorem quiet_of_fails (callers : List Nat) (outcome : Except Failure Unit) (generation : Nat) :
    ∀ event ∈ (callers.map fun caller => Event.connected caller outcome).reverse,
      event.isTraffic generation = false := by
  intro event member
  obtain ⟨caller, _, rfl⟩ := List.mem_map.mp (List.mem_reverse.mp member)
  rfl

/-- A request that is sent is traffic on one socket only. -/
theorem quiet_of_sends (number opened : Nat) (frame : Bytes) :
    ∀ event ∈ [Event.sent number opened, .accepted opened frame],
      ∀ generation, generation ≠ opened → event.isTraffic generation = false := by
  intro event member generation different
  rcases List.mem_cons.mp member with rfl | accepted
  · rfl
  · rw [List.mem_singleton.mp accepted]
    simpa [Event.isTraffic] using different.symm

/-- A socket of a link that is as it was succeeds itself. -/
theorem succeeds_same (events : List Event) (extended : after.trace = events ++ client.trace)
    {generation : Nat} (quiet : ∀ event ∈ events, event.isTraffic generation = false)
    {socket : Socket} (found : client.link.socket? generation = some socket) :
    client.Succeeds after generation socket :=
  ⟨socket, [], found, .same, traffic_of_append events extended quiet⟩

/-- A socket of a link in which one socket has changed, with one event of traffic on it. -/
theorem succeeds_of_changeSocket (changed : Nat) (change : Socket → Socket) (events : List Event)
    (link : after.link.sockets = (client.link.changeSocket changed change).sockets)
    (keeps : ∀ socket, (change socket).generation = socket.generation)
    (extended : after.trace = events ++ client.trace)
    (follows : ∀ before, client.link.socket? changed = some before →
      before.Follows client.link.lifecycle after.link.lifecycle changed
        (events.filter (·.isTraffic changed)) (change before))
    (quiet : ∀ event ∈ events, ∀ generation, generation ≠ changed →
      event.isTraffic generation = false)
    {generation : Nat} {socket : Socket} (found : after.link.socket? generation = some socket) :
    client.Succeeds after generation socket := by
  have foundChanged : (client.link.changeSocket changed change).socket? generation =
      some socket := by
    rw [← found, Link.socket?, Link.socket?, link]
  obtain ⟨before, foundBefore, ⟨rfl, rfl⟩ | ⟨different, rfl⟩⟩ :=
    Link.found_of_changeSocket keeps foundChanged
  · refine ⟨before, _, foundBefore, follows before foundBefore, ?_⟩
    rw [traffic, extended, List.filter_append]
    rfl
  · exact succeeds_same events extended
      (fun event member => quiet event member generation different) foundBefore

/-- A socket of a link in which one socket has told a handler of its end. -/
theorem succeeds_of_toldAllBut {teller : Nat} {reporter : Socket} {handler : Handler}
    {later : List Handler} (events : List Event)
    (link : after.link = client.link.toldAllBut teller later)
    (extended : after.trace = events ++ client.trace)
    (foundReporter : client.link.socket? teller = some reporter)
    (reporting : reporter.stage = .reporting (handler :: later))
    (quiet : ∀ event ∈ events, ∀ generation, event.isTraffic generation = false)
    {generation : Nat} {socket : Socket} (found : after.link.socket? generation = some socket) :
    client.Succeeds after generation socket := by
  have same := traffic_of_append events extended fun event member => quiet event member generation
  rw [link, Link.socket?_toldAllBut] at found
  split at found
  · next own =>
    subst own
    split at found
    · cases found
    · rw [foundReporter] at found
      cases found
      exact ⟨reporter, [], foundReporter, .tells reporting, same⟩
  · exact ⟨socket, [], found, .same, same⟩

theorem RequestMove.follows (moves : RequestMove action client after) {generation : Nat}
    {socket : Socket} (found : after.link.socket? generation = some socket) :
    client.Succeeds after generation socket := by
  cases moves with
  | issues => exact succeeds_same [.issued _ _] rfl (by simp [Event.isTraffic]) found
  | @sends request opened _ _ _ open_ =>
    refine succeeds_of_changeSocket opened (·.push (.frame request.frame))
      [.sent request.number opened, .accepted opened request.frame] rfl (fun _ => rfl) rfl
      ?_ (quiet_of_sends _ _ _) found
    intro before _
    simpa [Event.isTraffic] using Socket.Follows.accepts request.frame open_
  | ends => exact succeeds_same [.answered _ _] rfl (by simp [Event.isTraffic]) found
  | rests => exact succeeds_same [] rfl (by simp) found
  | drops => exact succeeds_same [] rfl (by simp) found
  | delivers => exact succeeds_same [] rfl (by simp) found

/-- To close a link queues the order to close for the open socket. -/
theorem succeeds_of_close {generation : Nat} {socket : Socket}
    (link : after.link.sockets = client.link.close.sockets)
    (closed : after.link.lifecycle = .closed) (trace : after.trace = client.trace)
    (found : after.link.socket? generation = some socket) :
    client.Succeeds after generation socket := by
  have foundClosed : client.link.close.socket? generation = some socket := by
    rw [← found, Link.socket?, Link.socket?, link]
  have same : after.traffic generation = client.traffic generation :=
    traffic_of_append [] trace (by simp)
  rw [Link.socket?_close] at foundClosed
  split at foundClosed
  · next opened =>
    obtain ⟨before, foundBefore, rfl⟩ := Option.map_eq_some_iff.mp foundClosed
    exact ⟨before, [], foundBefore, .closes opened closed, same⟩
  · exact ⟨socket, [], foundClosed, .same, same⟩

theorem LinkMove.follows (moves : LinkMove action client after) (sound : client.Sound)
    {generation : Nat} {socket : Socket}
    (found : after.link.socket? generation = some socket) :
    client.Succeeds after generation socket ∨ client.Opens after generation socket := by
  cases moves with
  | finds => exact .inl (succeeds_same [.connected _ _] rfl (by simp [Event.isTraffic]) found)
  | joins => exact .inl (succeeds_same [.joined _ _] rfl (by simp [Event.isTraffic]) found)
  | dials =>
    exact .inl (succeeds_same [.dialed _, .joined _ _] rfl (by simp [Event.isTraffic]) found)
  | parts => exact .inl (succeeds_same [] rfl (by simp) found)
  | sweeps => exact .inl (succeeds_same [] rfl (by simp) found)
  | closes => exact .inl (succeeds_of_close rfl (Link.close_lifecycle _) rfl found)
  | settles => exact .inl (succeeds_same [] rfl (by simp) found)
  | @opens attempt remarks _ _ own quiet =>
    have noTraffic := @quiet_of_opens attempt remarks quiet (client.link.generations + 1) generation
    rw [Link.socket?_attach, Option.or_eq_some_iff] at found
    rcases found with old | ⟨_, new⟩
    · exact .inl (succeeds_same _ (by simp) noTraffic old)
    · split at new
      · next same =>
        cases new
        subst same
        exact .inr ⟨rfl, own, rfl, rfl, by simp,
          traffic_of_append _ (by simp) noTraffic⟩
      · cases new
  | fails => exact .inl (succeeds_same _ rfl (quiet_of_fails _ _ generation) found)
  | @accepts opened frame _ open_ =>
    left
    refine succeeds_of_changeSocket opened (·.push (.frame frame))
      [.accepted opened frame] rfl (fun _ => rfl) rfl ?_ ?_ found
    · intro before _
      simpa [Event.isTraffic] using Socket.Follows.accepts frame open_
    · intro event member other different
      rw [List.mem_singleton.mp member]
      simpa [Event.isTraffic] using different.symm
  | @writes writer _ frame rest _ foundWriter running queued =>
    left
    refine succeeds_of_changeSocket writer (fun socket => { socket with queue := rest })
      [.transmitted writer frame] rfl (fun _ => rfl) rfl ?_ ?_ found
    · intro before foundBefore
      rw [foundWriter] at foundBefore
      cases foundBefore
      simpa [Event.isTraffic] using Socket.Follows.writes running queued
    · intro event member other different
      rw [List.mem_singleton.mp member]
      simpa [Event.isTraffic] using different.symm
  | @breaks broken _ foundRunning running =>
    left
    refine succeeds_of_changeSocket broken Socket.ended [] ?_ Socket.generation_ended ?_ ?_
      (by simp) found
    · rfl
    · rfl
    intro before foundBefore
    rw [foundRunning] at foundBefore
    cases foundBefore
    simpa [Socket.ended, running] using Socket.Follows.ends running
  | @announces broken _ foundBroken isBroken =>
    obtain ⟨later, handlers, _⟩ := sound.handlers
    left
    refine succeeds_of_changeSocket broken
      (fun socket => { socket with stage := .reporting client.handlers }) [] ?_ (fun _ => rfl) ?_ ?_
      (by simp) found
    · rfl
    · rfl
    intro before foundBefore
    rw [foundBroken] at foundBefore
    cases foundBefore
    simpa [handlers] using Socket.Follows.announces isBroken later
  | retires =>
    rw [Link.socket?_retire] at found
    split at found
    · cases found
    · exact .inl (succeeds_same [] rfl (by simp) found)
  | @tells teller _ name claims hears later foundTeller reporting =>
    left
    exact succeeds_of_toldAllBut [.told (.custom name claims hears) teller] rfl rfl foundTeller
      reporting (by simp [Event.isTraffic]) found

/-- After a move, a socket was there before it or has just been opened. -/
theorem Move.follows (moves : Move action client after) (sound : client.Sound)
    {generation : Nat} {socket : Socket}
    (found : after.link.socket? generation = some socket) :
    client.Succeeds after generation socket ∨ client.Opens after generation socket := by
  cases moves with
  | remarks remarks =>
    obtain ⟨told, quiet, extended⟩ := remarks.trace
    rw [remarks.link] at found
    exact .inl (succeeds_same told extended
      (fun event member => isTraffic_of_isRemark (quiet event member) generation) found)
  | registers => exact .inl (succeeds_same [] rfl (by simp) found)
  | waits => exact .inl (succeeds_same [] rfl (by simp) found)
  | request moves => exact .inl (moves.follows found)
  | link moves => exact moves.follows sound found
  | loses _ foundReporter reporting =>
    left
    exact succeeds_of_toldAllBut [.told .fileService _] rfl rfl foundReporter reporting
      (by simp [Event.isTraffic]) found
  | releases => exact .inl (succeeds_of_close rfl (Link.close_lifecycle _) rfl found)

/-! ## Debts -/

/-- The link lets no socket go that owes its report, as long as somebody holds the client. -/
theorem LinkMove.owes (moves : LinkMove action client after) (sound : client.Sound)
    {generation : Nat} (owing : client.link.Owes generation) :
    after.link.Owes generation ∨ client.isHeld = false := by
  have foundOwing := owing
  obtain ⟨socket, found, socketOwes⟩ := foundOwing
  cases moves with
  | finds => exact .inl owing
  | joins => exact .inl owing
  | dials => exact .inl owing
  | parts => exact .inl owing
  | sweeps => exact .inl owing
  | closes =>
    refine .inl ?_
    have closed := client.link.socket?_close generation
    rw [found] at closed
    split at closed
    · exact ⟨_, closed, socketOwes⟩
    · exact ⟨_, closed, socketOwes⟩
  | settles => exact .inl owing
  | opens =>
    refine .inl ⟨socket, ?_, socketOwes⟩
    rw [Link.socket?_attach, found]
    rfl
  | fails => exact .inl owing
  | accepts => exact .inl (owing.changeSocket (fun _ => rfl) fun _ _ owes => owes)
  | writes => exact .inl (owing.changeSocket (fun _ => rfl) fun _ _ owes => owes)
  | breaks =>
    refine .inl (owing.changeSocket Socket.generation_ended fun socket _ owes => ?_)
    unfold Socket.ended
    split
    · rfl
    · exact owes
  | announces =>
    obtain ⟨later, handlers, _⟩ := sound.handlers
    exact .inl (owing.changeSocket (fun _ => rfl) fun _ _ _ => by simp [Socket.owes, handlers])
  | @retires retired _ foundRetired done =>
    by_cases own : generation = retired
    · subst own
      rw [foundRetired] at found
      cases found
      rcases done with reported | ⟨_, unheld⟩
      · simp [Socket.owes, reported] at socketOwes
      · exact .inr unheld
    · refine .inl ⟨socket, ?_, socketOwes⟩
      rw [Link.socket?_retire, if_neg own, found]
  | @tells teller _ _ _ _ _ foundTeller reporting =>
    by_cases own : generation = teller
    · subst own
      rw [foundTeller] at found
      cases found
      simp [Socket.owes, reporting] at socketOwes
    · refine .inl ⟨socket, ?_, socketOwes⟩
      rw [note_link, Link.socket?_toldAllBut, if_neg own, found]

/-- A debt stays until the report is made, at which the requests of the generation are lost. -/
theorem Move.owes (moves : Move action client after) (sound : client.Sound) {generation : Nat}
    (owing : client.link.Owes generation) :
    after.link.Owes generation ∨ client.isHeld = false ∨ after.isHeld = false ∨
      after.requests = client.requests.disconnect generation := by
  cases moves with
  | remarks remarks => exact .inl (remarks.link ▸ owing)
  | registers => exact .inl owing
  | waits => exact .inl owing
  | request moves =>
    rcases moves.link with same | ⟨opened, frame, _, pushed⟩
    · exact .inl (same ▸ owing)
    · exact .inl (pushed ▸ owing.changeSocket (fun _ => rfl) fun _ _ owes => owes)
  | link moves => exact (moves.owes sound owing).imp_right .inl
  | @loses teller _ _ _ foundTeller reporting =>
    by_cases own : generation = teller
    · subst own
      exact .inr (.inr (.inr rfl))
    · obtain ⟨socket, found, socketOwes⟩ := owing
      refine .inl ⟨socket, ?_, socketOwes⟩
      rw [Link.socket?_toldAllBut, if_neg own, found]
  | releases => exact .inr (.inr (.inl rfl))

end Client

end RemoteAgent
