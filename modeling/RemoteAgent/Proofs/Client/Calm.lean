import RemoteAgent.Proofs.Client.Sound

/-!
# What is calm

The opening of a socket, what goes to the terminal, and what handlers are told are notices. What is
calm gives no notice, and lets every socket stay as far as it has come (`Calm`). Most of what a
client does is calm: attempts come and go, requests run, frames are queued and offered to handlers.
-/

namespace RemoteAgent

/-- The event tells of a socket, or it is a write to the terminal. -/
def Event.isNotice : Event → Bool
  | .opened _ _ | .wrote _ _ | .told _ _ => true
  | _ => false

namespace Link

/-- How far the socket of a generation has come, while it is there. -/
def stage? (link : Link) (generation : Nat) : Option Socket.Stage :=
  (link.socket? generation).map (·.stage)

variable (link : Link)

/-- A change to the socket of one generation moves no other socket. -/
theorem stage?_changeSocket (generation other : Nat) {change : Socket → Socket}
    (keeps : ∀ socket, (change socket).generation = socket.generation) :
    (link.changeSocket generation change).stage? other =
      if other = generation then (link.socket? other).map fun socket => (change socket).stage
      else link.stage? other := by
  rw [stage?, link.socket?_changeSocket generation other keeps]
  split
  · rw [Option.map_map]
    rfl
  · rfl

/-- To queue something for a socket does not bring it further. -/
theorem stage?_push (generation other : Nat) (command : Command) :
    (link.changeSocket generation (·.push command)).stage? other = link.stage? other := by
  rw [@stage?_changeSocket link generation other (·.push command) fun _ => rfl]
  split <;> rfl

/-- To close the link only queues the closing, so that every socket stays as far as it has come. -/
theorem stage?_close (other : Nat) : link.close.stage? other = link.stage? other := by
  unfold close
  split
  · exact link.stage?_push _ other .shutdown
  · rfl

/-- To sever a socket breaks it while it runs, and does nothing to it later. -/
theorem stage?_sever (generation other : Nat) :
    (link.sever generation).stage? other =
      if other = generation ∧ link.stage? generation = some .running then some .broken
      else link.stage? other := by
  rw [sever, link.stage?_changeSocket generation other Socket.generation_ended]
  by_cases same : other = generation
  · subst same
    rw [if_pos rfl, stage?]
    cases link.socket? other with
    | none => simp
    | some socket =>
      cases stage : socket.stage <;> simp [Socket.ended, stage]
  · simp [same]

/-- With the announcement of its end, a socket begins to report to the handlers. -/
theorem stage?_announce (generation other : Nat) (handlers : List Handler) :
    (link.announce generation handlers).stage? other =
      if other = generation then (link.socket? other).map fun _ => .reporting handlers
      else link.stage? other :=
  link.stage?_changeSocket generation other fun _ => rfl

/-- A retired socket is gone. -/
theorem stage?_retire (generation other : Nat) :
    (link.retire generation).stage? other =
      if other = generation then none else link.stage? other := by
  rw [stage?, socket?_retire]
  split <;> rfl

/-- A socket reports to the handlers that remain, and is gone once there are none. -/
theorem stage?_toldAllBut (generation other : Nat) (remaining : List Handler) :
    (link.toldAllBut generation remaining).stage? other =
      if other = generation then
        if remaining = [] then none else (link.socket? other).map fun _ => .reporting remaining
      else link.stage? other := by
  cases remaining with
  | nil => exact link.stage?_retire generation other
  | cons handler later => exact link.stage?_changeSocket generation other fun _ => rfl

/-- A socket that is attached runs under the next generation. -/
theorem stage?_attach (number other : Nat) :
    (link.attach number).stage? other = (link.stage? other).or
      (if other = link.generations + 1 then some .running else none) := by
  rw [stage?, socket?_attach, stage?]
  cases link.socket? other with
  | some socket => rfl
  | none =>
    simp only [Option.none_or, Option.map_none]
    split <;> rfl

end Link

namespace Client

/-- What the terminal and the handlers were told, and which sockets opened, the last first. -/
def notices (client : Client) : List Event := client.trace.filter Event.isNotice

/-- Octets for the terminal, if one is attached. -/
def lines (client : Client) (data : Bytes) : List Event :=
  (client.terminal.map fun terminal => Event.wrote terminal data).toList

variable {client after : Client} {action : Action}

/-! ## What adds to the notices -/

/-- One more event is one more notice, if it is one. -/
@[simp] theorem notices_note (client : Client) (event : Event) :
    (client.note event).notices = ([event].filter Event.isNotice) ++ client.notices := by
  rw [notices, notices, note, ← List.filter_append]
  rfl

/-- Of more events, the notices among them are added. -/
theorem notices_noteAll (client : Client) (events : List Event) :
    (client.noteAll events).notices =
      (events.filter Event.isNotice).reverse ++ client.notices := by
  rw [noteAll_eq, notices, notices, List.filter_append, List.filter_reverse]

/-- To write to the terminal is to record the lines that it gets. -/
theorem write_eq (client : Client) (data : Bytes) :
    client.write data = client.noteAll (client.lines data) := by
  unfold write lines
  cases client.terminal <;> rfl

/-- Lines for the terminal are notices. -/
theorem isNotice_of_mem_lines {data : Bytes} {event : Event} (member : event ∈ client.lines data) :
    event.isNotice = true := by
  unfold lines at member
  cases attached : client.terminal with
  | none => simp [attached] at member
  | some terminal =>
    rw [attached, Option.map_some, Option.toList_some, List.mem_singleton] at member
    rw [member]
    rfl

/-- All that is written to the terminal is added to the notices. -/
theorem notices_write (client : Client) (data : Bytes) :
    (client.write data).notices = (client.lines data).reverse ++ client.notices := by
  rw [write_eq, notices_noteAll, List.filter_eq_self.mpr fun event => isNotice_of_mem_lines]

/-- Writing to the terminal leaves the handlers alone. -/
@[simp] theorem write_handlers (client : Client) (data : Bytes) :
    (client.write data).handlers = client.handlers := by
  rw [write_eq, noteAll_eq]

/-- Writing to the terminal does not let go of the client. -/
@[simp] theorem write_isHeld (client : Client) (data : Bytes) :
    (client.write data).isHeld = client.isHeld := by
  rw [write_eq, noteAll_eq]

/-! ## What is calm -/

/-- Nothing is told of sockets, and every socket stays as it is. -/
structure Calm (client after : Client) : Prop where
  stage : ∀ generation, after.link.stage? generation = client.link.stage? generation
  generations : after.link.generations = client.link.generations
  notices : after.notices = client.notices
  handlers : after.handlers = client.handlers
  /-- Nobody takes hold of a client that was let go. -/
  held : after.isHeld = true → client.isHeld = true

namespace Calm

/-- To do nothing is calm. -/
theorem refl (client : Client) : client.Calm client := ⟨fun _ => rfl, rfl, rfl, rfl, id⟩

/-- What is calm may be followed by what is calm. -/
theorem trans {first middle last : Client} (before : first.Calm middle)
    (afterwards : middle.Calm last) : first.Calm last where
  stage generation := (afterwards.stage generation).trans (before.stage generation)
  generations := afterwards.generations.trans before.generations
  notices := afterwards.notices.trans before.notices
  handlers := afterwards.handlers.trans before.handlers
  held := before.held ∘ afterwards.held

/-- To record what is no notice is calm. -/
theorem note (client : Client) {event : Event} (aside : event.isNotice = false) :
    client.Calm (client.note event) :=
  { refl client with notices := by simp [aside] }

/-- To record any number of events that are no notices is calm. -/
theorem noteAll (client : Client) {events : List Event}
    (aside : ∀ event ∈ events, event.isNotice = false) : client.Calm (client.noteAll events) := by
  have none : events.filter Event.isNotice = [] :=
    List.filter_eq_nil_iff.mpr fun event member => by simp [aside event member]
  refine ⟨fun _ => ?_, ?_, ?_, ?_, ?_⟩
  · rw [noteAll_eq]
  · rw [noteAll_eq]
  · rw [notices_noteAll, none]
    rfl
  · rw [noteAll_eq]
  · rw [noteAll_eq]
    exact id

/-- To queue a frame is calm. -/
theorem push (client : Client) (generation : Nat) (command : Command) (requests : Requests) :
    client.Calm
      { client with link := client.link.changeSocket generation (·.push command), requests } :=
  { refl client with stage := fun other => client.link.stage?_push generation other command }

/-- Attempts come and go in calm. -/
theorem within (client : Client) (link : Link) (sockets : link.sockets = client.link.sockets)
    (generations : link.generations = client.link.generations) :
    client.Calm { client with link } := by
  refine { refl client with stage := fun generation => ?_, generations }
  simp only [Link.stage?, Link.socket?, sockets]

/-- Attempts that nobody can wait for any more are swept away in calm. -/
theorem sweep (client : Client) : client.Calm client.sweep := by
  refine (within client client.link.sweep rfl rfl).trans (noteAll _ ?_)
  intro event member
  obtain ⟨number, _, rfl⟩ := List.mem_map.mp member
  rfl

/-- Callers learn in calm how their attempt ended. -/
theorem tellCallers (client : Client) (attempt : Attempt) (outcome : Except Failure Unit) :
    client.Calm (client.tellCallers attempt outcome) := by
  refine noteAll client ?_
  intro event member
  obtain ⟨caller, _, rfl⟩ := List.mem_map.mp member
  rfl

/-- An attempt fails in calm: the terminal and the handlers hear nothing of it. -/
theorem failAttempt (client : Client) (attempt : Attempt) (failure : Failure) :
    client.Calm (client.failAttempt attempt failure) :=
  (within client (client.link.fail attempt.number) rfl rfl).trans (tellCallers _ _ _)

/-- A call for an open link is calm, whether it dials, joins an attempt, or finds the link open. -/
theorem connect (client : Client) : client.Calm client.connect := by
  have counted : ∀ link : Link, link.sockets = client.link.sockets →
      link.generations = client.link.generations →
      client.Calm { client with link, called := client.called + 1 } :=
    fun link sockets generations => { within client link sockets generations with }
  let caller := client.called
  let deadline := client.clock + client.config.connectTimeout.nanoseconds
  simp only [Client.connect, Link.join]
  cases client.link.lifecycle with
  | opened generation => exact (counted _ rfl rfl).trans (note _ rfl)
  | connecting number =>
    exact (counted (client.link.changeAttempt number (·.join caller)) rfl rfl).trans (note _ rfl)
  | idle =>
    exact ((counted (client.link.dial caller deadline) rfl rfl).trans (note _ rfl)).trans
      (note _ rfl)
  | closed =>
    exact ((counted (client.link.dial caller deadline) rfl rfl).trans (note _ rfl)).trans
      (note _ rfl)

/-- To close the link is calm: its socket ends only when it writes the closing. -/
theorem close (client : Client) : client.Calm client.close := by
  have closed : client.Calm { client with link := client.link.close } := by
    refine ⟨fun other => client.link.stage?_close other, ?_, rfl, rfl, id⟩
    simp only [Link.close]
    split <;> rfl
  exact closed.trans (sweep _)

/-- To let go of a client is calm, as long as somebody holds it. -/
theorem release (client : Client) (held : client.isHeld = true) :
    client.Calm client.release := by
  have idle : client.Calm { client with
      link := { client.link.close with attempts := [] }
      requests := { issued := client.requests.issued }
      calls := []
      isHeld := false } := by
    refine ⟨fun other => client.link.stage?_close other, ?_, rfl, rfl, fun _ => held⟩
    simp only [Link.close]
    split <;> rfl
  refine idle.trans (noteAll _ ?_)
  intro event member
  obtain ⟨attempt, _, rfl⟩ := List.mem_map.mp member
  rfl

/-- To send a frame is calm, whether it is accepted or not. -/
theorem send (client : Client) (frame : Bytes) : client.Calm (client.send frame) := by
  unfold Client.send
  split
  · exact refl client
  · next link generation accepted =>
    obtain ⟨_, rfl⟩ := Link.accept_eq_some_iff.mp accepted
    exact (push client generation (.frame frame) client.requests).trans (note _ rfl)

/-- To offer a frame to one handler is calm. -/
theorem handle (client : Client) (frame : Inbound) (handler : Handler) :
    client.Calm (client.handle frame handler) := by
  have offered := note client
    (show (Event.offered handler frame (handler.claims frame)).isNotice = false from rfl)
  unfold Client.handle
  split
  · exact { offered with }
  · exact offered

/-- To offer a frame to handlers in turn is calm. -/
theorem offer (client : Client) (frame : Inbound) (handlers : List Handler) :
    client.Calm (client.offer frame handlers) := by
  induction handlers generalizing client with
  | nil => exact refl client
  | cons handler later inductionHypothesis =>
    unfold Client.offer
    split
    · exact handle _ _ _
    · exact (handle _ _ _).trans (inductionHypothesis _)

/-! ## Requests that run -/

/-- A call ends in calm. -/
theorem finish (client : Client) (call : Call) (outcome : Except Failure Delivery) :
    client.Calm (client.finish call outcome) :=
  { note client (show (Event.finished call.number call.progress outcome).isNotice = false from rfl)
    with }

/-- A request fails in calm, and so does the call that waits for it. -/
theorem failRequest (client : Client) (number : Nat) (failure : Failure) :
    client.Calm (client.failRequest number failure) := by
  have told := note client
    (show (Event.answered number (.error failure)).isNotice = false from rfl)
  dsimp only [Client.failRequest]
  split
  · exact told
  · exact told.trans (finish _ _ _)

/-- At its turn, a request is sent or fails in calm. -/
theorem sendRequest (client : Client) (request : Request) :
    client.Calm (client.sendRequest request) := by
  unfold Client.sendRequest
  split
  · next link generation accepted =>
    obtain ⟨_, rfl⟩ := Link.accept_eq_some_iff.mp accepted
    exact ((push client generation (.frame request.frame) _).trans (note _ rfl)).trans (note _ rfl)
  · exact { failRequest { client with requests := client.requests.release request } request.number
      .notConnected with }

/-- To issue a request is calm, and so is to send it if it has its turn. -/
theorem ask (client : Client) (call : Call) (want : Want) : client.Calm (client.ask call want) := by
  have issued : client.Calm (client.issue call want).1 :=
    { note client (show (Event.issued (client.requests.issue want call.limit).2.number
        (client.requests.issue want call.limit).2.key).isNotice = false from rfl) with }
  unfold Client.ask
  dsimp only
  split
  · exact issued.trans (sendRequest _ _)
  · exact issued

/-- A call goes on in calm. -/
theorem proceed (client : Client) (call : Call) (turn : Transfer.Turn) :
    client.Calm (client.proceed call turn) := by
  unfold Client.proceed
  split
  · exact finish _ _ _
  · split
    · exact ask _ _ _
    · exact finish _ _ _

/-- A call begins in calm. -/
theorem start (client : Client) (operation : Operation) (limit : Option Duration) :
    client.Calm (client.start operation limit) := by
  have counted : client.Calm ({ client with called := client.called + 1 }.note
      (.started client.called operation)) :=
    { note client (show (Event.started client.called operation).isNotice = false from rfl) with }
  dsimp only [Client.start]
  split
  · exact counted.trans (note _ rfl)
  · exact counted.trans (proceed _ _ _)

/-- A request ends with its reply in calm, and its call goes on. -/
theorem answerRequest (client : Client) (number : Nat) (reply : Reply) :
    client.Calm (client.answerRequest number reply) := by
  have told := note client (show (Event.answered number (.ok reply)).isNotice = false from rfl)
  dsimp only [Client.answerRequest]
  split
  · exact told
  · exact told.trans (proceed _ _ _)

/-- A request runs in calm, whatever it finds. -/
theorem poll (client : Client) (number : Nat) : client.Calm (client.poll number) := by
  have rested : client.Calm { client with requests := client.requests.rest number } :=
    { refl client with }
  have released : ∀ request, client.Calm
      { client with requests := client.requests.release request } := fun _ => { refl client with }
  unfold Client.poll
  dsimp only
  split
  · exact rested
  · split
    · exact rested
    · exact sendRequest _ _
    · split
      · split
        · exact (released _).trans (failRequest _ _ _)
        · exact rested
      · exact rested
    · exact (released _).trans (answerRequest _ _ _)
    · exact (released _).trans (failRequest _ _ _)

/-- To give up a call is calm. -/
theorem cancel (client : Client) (number : Nat) : client.Calm (client.cancel number) := by
  have abandoned : client.Calm (client.abandon number) := by
    unfold abandon
    split
    · exact refl client
    · dsimp only
      split <;> exact { refl client with }
  exact abandoned.trans
    ((within _ ((client.abandon number).link.leave number) rfl rfl).trans (sweep _))

end Calm

end Client

end RemoteAgent
