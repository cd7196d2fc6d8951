import RemoteAgent.Proofs.Client.Attribution
import RemoteAgent.Proofs.Client.Chains

/-!
# Clients behind a veil

A veil hides something of a client: it shows another URL, and it may hide all that concerns the
terminal and the log, in the queues of sockets as in the trace. What is behind a veil does not matter
for what is in front of it: an action that is not hidden itself does the same to the client in front
of the veil as to the client behind it (`step_veiled`). The lemmas before it say so of each function
of a client, from the link and its sockets upwards.
-/

namespace RemoteAgent

/-! ## What concerns the terminal -/

/-- Frames of this kind are for the terminal of the agent. -/
def OutboundKind.isTerminal : OutboundKind → Bool
  | terminalInput | openTerminal | closeTerminal | resizeTerminal => true
  | writeChunk | queryFile | readChunk => false

/-- The octets begin with the tag of a frame for the terminal of the agent. -/
def isForTerminal (octets : Bytes) : Bool :=
  (octets.head?.bind OutboundKind.ofTag?).any OutboundKind.isTerminal

/-- A command that concerns the terminal. -/
def Command.isAside : Command → Bool
  | .frame octets => isForTerminal octets
  | .shutdown => false

/-- An event that concerns the terminal or the log, or a frame that is no reply. -/
def Event.isAside : Event → Bool
  | .wrote _ _ | .logged _ _ | .malformed _ _ => true
  | .accepted _ frame | .transmitted _ frame => isForTerminal frame
  | .offered _ frame _ => frame.reply?.isNone
  | _ => false

/-- Whether octets are for the terminal is told by the kind of the frame. -/
theorem isForTerminal_encode (frame : Outbound) :
    isForTerminal frame.encode = frame.kind.isTerminal := by
  have known : OutboundKind.ofTag? frame.kind.tag = some frame.kind :=
    OutboundKind.ofTag?_eq_some_iff.mpr rfl
  simp [isForTerminal, Outbound.encode, known]

/-- A frame that asks for a file is not for the terminal. -/
theorem isForTerminal_of_key {frame : Outbound} {key : RequestKey}
    (asks : frame.key? = some key) : isForTerminal frame.encode = false := by
  rw [isForTerminal_encode]
  cases frame <;> first | rfl | cases asks

/-- An action that concerns the terminal or the log: a terminal is attached, a frame for it is sent,
or a message comes in that is no reply. -/
def Action.concernsTerminal : Action → Bool
  | .attachTerminal _ => true
  | .send frame => isForTerminal frame
  | .receive generation (.binary octets) =>
    (Action.receive generation (.binary octets)).reply?.isNone
  | _ => false

/-- The action concerns the terminal or the log, and nothing else. A socket that writes does so
if what is next in its queue does. While nobody holds the client, a message on a running socket ends
that socket, so that it does more. -/
def Client.isAside (client : Client) : Action → Bool
  | .transmit generation => (client.link.dequeue generation).all fun taken => taken.2.isAside
  | .receive generation message =>
    (Action.receive generation message).concernsTerminal &&
      (client.isHeld || client.link.stage? generation != some .running)
  | action => action.concernsTerminal

/-! ## Veils -/

/-- What is hidden of a client. -/
structure Veil where
  /-- The URL that is shown for each one. -/
  url : Url → Url
  /-- All that concerns the terminal is hidden, too. -/
  hidesTerminal : Bool

/-- The veil shows a command. -/
def Veil.showsCommand (veil : Veil) (command : Command) : Bool :=
  !command.isAside || !veil.hidesTerminal

/-- The veil shows an event. -/
def Veil.showsEvent (veil : Veil) (event : Event) : Bool := !event.isAside || !veil.hidesTerminal

/-- A socket behind a veil. -/
def Socket.veiled (veil : Veil) (socket : Socket) : Socket :=
  { socket with queue := socket.queue.filter veil.showsCommand }

/-- A link behind a veil. -/
def Link.veiled (veil : Veil) (link : Link) : Link :=
  { link with sockets := link.sockets.map (·.veiled veil) }

/-- A client behind a veil. -/
def Client.veiled (veil : Veil) (client : Client) : Client :=
  { client with
    config := { client.config with url := veil.url client.config.url }
    terminal := if veil.hidesTerminal then none else client.terminal
    link := client.link.veiled veil
    trace := client.trace.filter veil.showsEvent }

/-! ## Links behind a veil -/

namespace Link

variable (veil : Veil) (link : Link)

/-- A socket is found in front of the veil as it is behind it. -/
theorem socket?_veiled (generation : Nat) :
    (link.veiled veil).socket? generation = (link.socket? generation).map (·.veiled veil) :=
  List.find?_map ..

/-- A change that a socket shows through the veil is made to the link in front of it. -/
theorem veiled_changeSocket (generation : Nat) (change other : Socket → Socket)
    (same : ∀ socket, (change socket).veiled veil = other (socket.veiled veil)) :
    (link.changeSocket generation change).veiled veil =
      (link.veiled veil).changeSocket generation other := by
  simp only [veiled, changeSocket, List.map_map]
  congr 1
  refine List.map_congr_left fun socket _ => ?_
  simp only [Function.comp, show (socket.veiled veil).generation = socket.generation from rfl]
  split
  · exact same socket
  · rfl

/-- A shown command is queued in front of the veil, too. -/
theorem veiled_push {command : Command} (shown : veil.showsCommand command = true)
    (generation : Nat) : (link.changeSocket generation (·.push command)).veiled veil =
      (link.veiled veil).changeSocket generation (·.push command) :=
  veiled_changeSocket veil link generation _ _ fun socket => by
    simp [Socket.veiled, Socket.push, shown]

/-- A hidden command leaves no trace in front of the veil. -/
theorem veiled_push_hidden {command : Command} (hidden : veil.showsCommand command = false)
    (generation : Nat) : (link.changeSocket generation (·.push command)).veiled veil =
      link.veiled veil := by
  refine (veiled_changeSocket veil link generation _ id fun socket => ?_).trans ?_
  · simp [Socket.veiled, Socket.push, hidden]
  · simp [changeSocket]

/-- To sever a socket shows through the veil. -/
theorem veiled_sever (generation : Nat) :
    (link.sever generation).veiled veil = (link.veiled veil).sever generation :=
  veiled_changeSocket veil link generation _ _ fun socket => by
    simp only [Socket.ended, show (socket.veiled veil).stage = socket.stage from rfl]
    split <;> rfl

/-- To retire a socket shows through the veil. -/
theorem veiled_retire (generation : Nat) :
    (link.retire generation).veiled veil = (link.veiled veil).retire generation := by
  simp only [veiled, retire, List.filter_map]
  rfl

/-- The announcement that a socket has ended shows through the veil. -/
theorem veiled_announce (generation : Nat) (handlers : List Handler) :
    (link.announce generation handlers).veiled veil =
      (link.veiled veil).announce generation handlers :=
  congrArg (fun changed : Link =>
      { changed with lifecycle := link.lifecycle.afterSocket generation })
    (veiled_changeSocket veil link generation
      (fun socket => { socket with stage := .reporting handlers })
      (fun socket => { socket with stage := .reporting handlers }) fun _ => rfl)

/-- How far a socket has reported shows through the veil. -/
theorem veiled_toldAllBut (generation : Nat) (remaining : List Handler) :
    (link.toldAllBut generation remaining).veiled veil =
      (link.veiled veil).toldAllBut generation remaining := by
  cases remaining with
  | nil => exact veiled_retire veil link generation
  | cons handler later =>
    exact veiled_changeSocket veil link generation
      (fun socket => { socket with stage := .reporting (handler :: later) })
      (fun socket => { socket with stage := .reporting (handler :: later) }) fun _ => rfl

/-- To close the link shows through the veil: the closing is no frame for the terminal. -/
theorem veiled_close : link.close.veiled veil = (link.veiled veil).close := by
  simp only [close, show (link.veiled veil).lifecycle = link.lifecycle from rfl]
  split
  · next generation _ =>
    exact congrArg (fun changed : Link => { changed with lifecycle := .closed })
      (veiled_push veil link (show veil.showsCommand .shutdown = true from rfl) generation)
  · rfl

/-- A new socket has an empty queue, and nothing to hide. -/
theorem veiled_attach (number : Nat) :
    (link.attach number).veiled veil = (link.veiled veil).attach number := by
  simp only [attach, veiled, List.map_append, List.map_cons, List.map_nil]
  rfl

/-- Attempts show through the veil as they are. -/
theorem veiled_join (caller deadline : Nat) :
    (link.veiled veil).join caller deadline =
      ((link.join caller deadline).1.veiled veil, (link.join caller deadline).2) := by
  simp only [join, show (link.veiled veil).lifecycle = link.lifecycle from rfl]
  cases link.lifecycle <;> rfl

/-- A shown frame is accepted in front of the veil as it is behind it. -/
theorem veiled_accept {frame : Bytes} (shown : veil.showsCommand (.frame frame) = true) :
    (link.veiled veil).accept frame =
      (link.accept frame).map fun accepted => (accepted.1.veiled veil, accepted.2) := by
  simp only [accept, show (link.veiled veil).lifecycle = link.lifecycle from rfl]
  cases link.lifecycle with
  | opened generation => simp [veiled_push veil link shown generation]
  | _ => rfl

/-- With nothing to write behind the veil, there is nothing to write in front of it. -/
theorem veiled_dequeue_of_none {generation : Nat} (idle : link.dequeue generation = none) :
    (link.veiled veil).dequeue generation = none := by
  unfold dequeue at idle ⊢
  rw [socket?_veiled]
  cases found : link.socket? generation with
  | none => rfl
  | some socket =>
    obtain ⟨number, attempt, queue, stage⟩ := socket
    rw [found] at idle
    simp only [Option.map_some, Socket.veiled]
    cases stage with
    | running =>
      cases queue with
      | nil => rfl
      | cons command rest => cases idle
    | _ => cases queue.filter veil.showsCommand <;> rfl

/-- What is taken from a queue behind the veil is taken in front of it, if it is shown. -/
theorem veiled_dequeue {generation : Nat} {after : Link} {command : Command}
    (taken : link.dequeue generation = some (after, command))
    (shown : veil.showsCommand command = true) :
    (link.veiled veil).dequeue generation = some (after.veiled veil, command) := by
  obtain ⟨⟨number, attempt, queue, stage⟩, rest, found, rfl, rfl, rfl⟩ := dequeue_eq_some taken
  have next : (link.veiled veil).socket? generation =
      some ⟨number, attempt, command :: rest.filter veil.showsCommand, .running⟩ := by
    rw [socket?_veiled, found, Option.map_some, Socket.veiled, List.filter_cons_of_pos shown]
  have taken := veiled_changeSocket veil link generation
    (fun socket => { socket with queue := rest })
    (fun socket => { socket with queue := rest.filter veil.showsCommand }) fun _ => rfl
  simp only [dequeue, next, taken]

/-- What is hidden is taken from a queue without a trace. -/
theorem veiled_dequeue_hidden (distinct : (link.sockets.map (·.generation)).Nodup)
    {generation : Nat} {after : Link} {command : Command}
    (taken : link.dequeue generation = some (after, command))
    (hidden : veil.showsCommand command = false) : after.veiled veil = link.veiled veil := by
  obtain ⟨socket, rest, found, _, queued, rfl⟩ := dequeue_eq_some taken
  simp only [veiled, changeSocket, List.map_map]
  congr 1
  refine List.map_congr_left fun other member => ?_
  simp only [Function.comp]
  split
  · next same =>
    obtain rfl : other = socket := by
      have own : link.socket? other.generation = some other := find?_of_nodup distinct member
      rw [same, found] at own
      exact (Option.some.inj own).symm
    simp [Socket.veiled, queued, hidden]
  · rfl

end Link

/-! ## Clients behind a veil -/

namespace Client

variable (veil : Veil) (client : Client)

/-- Events that the veil shows are recorded in front of it as they are behind it. -/
theorem veiled_noteAll {events : List Event} (shown : ∀ event ∈ events, veil.showsEvent event = true) :
    (client.noteAll events).veiled veil = (client.veiled veil).noteAll events := by
  have kept : events.reverse.filter veil.showsEvent = events.reverse :=
    List.filter_eq_self.mpr fun event member => shown event (List.mem_reverse.mp member)
  simp only [noteAll_eq, veiled, List.filter_append, kept]

/-- A hidden event leaves no trace in front of the veil. -/
theorem veiled_note_hidden {event : Event} (hidden : veil.showsEvent event = false) :
    (client.note event).veiled veil = client.veiled veil := by
  simp [veiled, note, hidden]

/-- Writing to the terminal is shown with the terminal or hidden with it. -/
theorem veiled_write (data : Bytes) :
    (client.write data).veiled veil = (client.veiled veil).write data := by
  obtain ⟨url, hidesTerminal⟩ := veil
  obtain ⟨config, clock, link, handlers, terminal, requests, calls, called, isHeld, trace⟩ := client
  cases hidesTerminal <;> cases terminal <;> rfl

/-- A notice goes to the terminal in front of the veil, too, if there is one. -/
theorem veiled_announce (line : StatusLine) :
    (client.announce line).veiled veil = (client.veiled veil).announce line :=
  veiled_write veil client _

/-! ### Connecting and closing -/

/-- What callers learn of an attempt is shown. -/
theorem veiled_tellCallers (attempt : Attempt) (outcome : Except Failure Unit) :
    (client.tellCallers attempt outcome).veiled veil =
      (client.veiled veil).tellCallers attempt outcome := by
  refine veiled_noteAll veil client fun event member => ?_
  obtain ⟨caller, _, rfl⟩ := List.mem_map.mp member
  rfl

/-- That attempts are swept away is shown. -/
theorem veiled_sweep : client.sweep.veiled veil = (client.veiled veil).sweep := by
  refine veiled_noteAll veil { client with link := client.link.sweep } fun event member => ?_
  obtain ⟨attempt, _, rfl⟩ := List.mem_map.mp member
  rfl

/-- A call for an open link does the same in front of the veil. -/
theorem veiled_connect : client.connect.veiled veil = (client.veiled veil).connect := by
  unfold connect
  have joined := Link.veiled_join veil client.link client.called
    (client.clock + client.config.connectTimeout.nanoseconds)
  simp only [show (client.veiled veil).link = client.link.veiled veil from rfl,
    show (client.veiled veil).called = client.called from rfl,
    show (client.veiled veil).clock = client.clock from rfl,
    show (client.veiled veil).config.connectTimeout = client.config.connectTimeout from rfl, joined]
  split <;> rfl

/-- A caller leaves an attempt in front of the veil, too. -/
theorem veiled_leave (caller : Nat) :
    (client.leave caller).veiled veil = (client.veiled veil).leave caller :=
  veiled_sweep veil { client with link := client.link.leave caller }

/-- The link is closed in front of the veil, too. -/
theorem veiled_close : client.close.veiled veil = (client.veiled veil).close := by
  refine (veiled_sweep veil { client with link := client.link.close }).trans ?_
  simp only [close, veiled, Link.veiled_close]

/-- To let go of the client does the same in front of the veil. -/
theorem veiled_release : client.release.veiled veil = (client.veiled veil).release := by
  refine (veiled_noteAll veil { client with
      link := { client.link.close with attempts := [] }
      requests := { issued := client.requests.issued }
      calls := []
      isHeld := false } fun event member => ?_).trans ?_
  · obtain ⟨attempt, _, rfl⟩ := List.mem_map.mp member
    rfl
  · have closed : { client.link.close with attempts := [] }.veiled veil =
        { (client.link.veiled veil).close with attempts := [] } :=
      congrArg (fun link : Link => { link with attempts := [] })
        (Link.veiled_close veil client.link)
    simp only [release, veiled, closed]
    rfl

/-- An attempt fails in front of the veil, too. -/
theorem veiled_failAttempt (attempt : Attempt) (failure : Failure) :
    (client.failAttempt attempt failure).veiled veil =
      (client.veiled veil).failAttempt attempt failure :=
  veiled_tellCallers veil { client with link := client.link.fail attempt.number } attempt _

/-- A socket opens in front of the veil, too. Only the notice for the terminal may be hidden. -/
theorem veiled_openSocket (attempt : Attempt) :
    (client.openSocket attempt).veiled veil = (client.veiled veil).openSocket attempt := by
  unfold openSocket
  simp only [show (client.veiled veil).link = client.link.veiled veil from rfl,
    show (client.link.veiled veil).lifecycle = client.link.lifecycle from rfl]
  split
  · rw [veiled_tellCallers, veiled_announce, ← Link.veiled_attach]
    rfl
  · rw [veiled_tellCallers]
    rfl

/-- An attempt goes on in front of the veil as it does behind it. -/
theorem veiled_resolve (number : Nat) :
    (client.resolve number).veiled veil = (client.veiled veil).resolve number := by
  unfold resolve
  simp only [show (client.veiled veil).link = client.link.veiled veil from rfl,
    show (client.link.veiled veil).attempt? number = client.link.attempt? number from rfl,
    show (client.veiled veil).clock = client.clock from rfl, ← veiled_openSocket,
    ← veiled_failAttempt]
  split
  · rfl
  · split
    · split <;> rfl
    · rfl

/-! ### Traffic -/

/-- A shown frame is sent in front of the veil, too. -/
theorem veiled_send {frame : Bytes} (shown : veil.showsCommand (.frame frame) = true) :
    (client.send frame).veiled veil = (client.veiled veil).send frame := by
  have noted : ∀ generation, veil.showsEvent (.accepted generation frame) = true := fun _ => shown
  simp only [send, show (client.veiled veil).link = client.link.veiled veil from rfl,
    Link.veiled_accept veil client.link shown]
  cases client.link.accept frame with
  | none => rfl
  | some accepted =>
    simp only [Option.map_some, veiled, note, List.filter_cons_of_pos (noted _)]

/-- A socket whose next command is shown writes in front of the veil, too. -/
theorem veiled_transmit {generation : Nat}
    (shown : ∀ link command, client.link.dequeue generation = some (link, command) →
      veil.showsCommand command = true) :
    (client.transmit generation).veiled veil = (client.veiled veil).transmit generation := by
  simp only [transmit, show (client.veiled veil).link = client.link.veiled veil from rfl]
  cases taken : client.link.dequeue generation with
  | none => rw [Link.veiled_dequeue_of_none veil client.link taken]
  | some next =>
    obtain ⟨link, command⟩ := next
    have shows := shown link command taken
    rw [Link.veiled_dequeue veil client.link taken shows]
    cases command with
    | frame octets =>
      have noted : veil.showsEvent (.transmitted generation octets) = true := shows
      simp only [veiled, note, List.filter_cons_of_pos noted]
    | shutdown =>
      simp only [veiled, note, Link.veiled_sever]
      rfl

/-- A frame that the handlers may be seen to get. -/
theorem veiled_offer {frame : Inbound}
    (shown : veil.hidesTerminal = true → frame.reply?.isSome = true) (handlers : List Handler) :
    (client.offer frame handlers).veiled veil = (client.veiled veil).offer frame handlers := by
  have noted : ∀ handler claimed, veil.showsEvent (.offered handler frame claimed) = true := by
    intro handler claimed
    cases hides : veil.hidesTerminal with
    | false => simp [Veil.showsEvent, hides]
    | true =>
      have replies := shown hides
      cases none : frame.reply? with
      | none => rw [none] at replies; cases replies
      | some answer => simp [Veil.showsEvent, Event.isAside, none]
  have handled : ∀ (client : Client) handler,
      (client.handle frame handler).veiled veil = (client.veiled veil).handle frame handler := by
    intro client handler
    unfold handle
    cases handler <;> cases frame.reply? <;>
      simp only [veiled, note, List.filter_cons_of_pos (noted _ _)]
  induction handlers generalizing client with
  | nil => rfl
  | cons handler later inductionHypothesis =>
    unfold offer
    split
    · exact handled client handler
    · rw [inductionHypothesis, handled]

/-- Octets come to where they belong in front of the veil, too, if they may be seen. -/
theorem veiled_dispatch {octets : Bytes}
    (shown : veil.hidesTerminal = true → ∃ frame, Inbound.decode octets = .ok frame ∧
      frame.reply?.isSome = true) :
    (client.dispatch octets).veiled veil = (client.veiled veil).dispatch octets := by
  unfold dispatch
  cases decoded : Inbound.decode octets with
  | error failure =>
    have hides : veil.hidesTerminal = false := by
      rw [← Bool.not_eq_true]
      intro hides
      obtain ⟨frame, decodedToo, _⟩ := shown hides
      cases decoded.symm.trans decodedToo
    simp [veiled, note, Veil.showsEvent, hides]
  | ok frame =>
    have replies : veil.hidesTerminal = true → frame.reply?.isSome = true := by
      intro hides
      obtain ⟨same, decodedToo, isReply⟩ := shown hides
      rwa [Except.ok.inj (decoded.symm.trans decodedToo)]
    cases frame with
    | terminalOutput data => exact veiled_write veil client data
    | terminalOpened => exact veiled_announce veil client _
    | terminalClosed => exact veiled_announce veil client _
    | log text =>
      have hides : veil.hidesTerminal = false := by
        rw [← Bool.not_eq_true]
        exact fun hides => by cases replies hides
      simp [route, veiled, note, Veil.showsEvent, hides]
    | _ => exact veiled_offer veil client replies _

/-- A message that may be seen does the same in front of the veil. -/
theorem veiled_receive {generation : Nat} {message : Message}
    (shown : veil.hidesTerminal = true → client.isAside (.receive generation message) = false) :
    (client.receive generation message).veiled veil =
      (client.veiled veil).receive generation message := by
  simp only [receive, show (client.veiled veil).link = client.link.veiled veil from rfl,
    show (client.veiled veil).isHeld = client.isHeld from rfl, Link.socket?_veiled]
  cases found : client.link.socket? generation with
  | none => rfl
  | some socket =>
    obtain ⟨number, attempt, queue, stage⟩ := socket
    simp only [Option.map_some, Socket.veiled]
    cases stage with
    | running =>
      cases message with
      | binary octets =>
        cases held : client.isHeld with
        | false => simp only [Bool.false_eq_true, if_false, veiled, note, Link.veiled_sever]; rfl
        | true =>
          refine veiled_dispatch veil client fun hides => ?_
          have isReply := shown hides
          simp only [isAside, held, Bool.true_or, Bool.and_true, Action.concernsTerminal,
            Action.reply?] at isReply
          cases decoded : Inbound.decode octets with
          | error failure => simp [decoded] at isReply
          | ok frame =>
            refine ⟨frame, rfl, ?_⟩
            cases replies : frame.reply? with
            | none => simp [decoded, replies] at isReply
            | some answer => rfl
      | ending => simp only [veiled, Link.veiled_sever]
      | _ => rfl
    | _ => rfl

/-- A socket that has ended tells of it in front of the veil, too. -/
theorem veiled_report (generation : Nat) :
    (client.report generation).veiled veil = (client.veiled veil).report generation := by
  simp only [report, show (client.veiled veil).link = client.link.veiled veil from rfl,
    show (client.veiled veil).isHeld = client.isHeld from rfl,
    show (client.veiled veil).handlers = client.handlers from rfl, Link.socket?_veiled]
  cases found : client.link.socket? generation with
  | none => rfl
  | some socket =>
    obtain ⟨number, attempt, queue, stage⟩ := socket
    simp only [Option.map_some, Socket.veiled]
    cases stage with
    | running => rfl
    | broken =>
      cases client.isHeld with
      | false => simp only [Bool.false_eq_true, if_false, veiled, Link.veiled_retire]
      | true =>
        simp only [if_true, veiled_announce]
        simp only [veiled, Link.veiled_announce]
    | reporting remaining =>
      cases remaining with
      | nil => simp only [veiled, Link.veiled_retire]
      | cons handler later =>
        cases handler <;> simp only [tell, veiled, note, Link.veiled_toldAllBut] <;> rfl

/-! ### Calls for files -/

/-- A request fails in front of the veil, too. -/
theorem veiled_failRequest (number : Nat) (failure : Failure) :
    (client.failRequest number failure).veiled veil =
      (client.veiled veil).failRequest number failure := by
  simp only [failRequest, note, veiled]
  split <;> rfl

/-- A request is no frame for the terminal, and is sent in front of the veil, too. -/
theorem veiled_sendRequest {request : Request}
    (shown : isForTerminal request.frame = false) :
    (client.sendRequest request).veiled veil = (client.veiled veil).sendRequest request := by
  have shows : veil.showsCommand (.frame request.frame) = true := by
    simp [Veil.showsCommand, Command.isAside, shown]
  have noted : ∀ generation, veil.showsEvent (.accepted generation request.frame) = true :=
    fun _ => shows
  simp only [sendRequest, show (client.veiled veil).link = client.link.veiled veil from rfl,
    Link.veiled_accept veil client.link shows]
  cases client.link.accept request.frame with
  | none =>
    exact veiled_failRequest veil { client with requests := client.requests.release request } _ _
  | some accepted =>
    have sent : veil.showsEvent (.sent request.number accepted.2) = true := rfl
    simp only [Option.map_some, veiled, note, List.filter_cons_of_pos sent,
      List.filter_cons_of_pos (noted _)]

/-- A request for a file is issued in front of the veil, too. -/
theorem veiled_ask (call : Call) {want : Want} (asks : want.frame.key? = some want.key) :
    (client.ask call want).veiled veil = (client.veiled veil).ask call want := by
  have issued : (client.veiled veil).issue call want =
      ((client.issue call want).1.veiled veil, (client.issue call want).2) := rfl
  have frame : (client.issue call want).2.frame = want.frame.encode := by
    obtain ⟨standing, _, made⟩ := client.requests.issue_request want call.limit
    exact congrArg Request.frame made
  simp only [ask, issued]
  split
  · exact veiled_sendRequest veil (client.issue call want).1 (by rw [frame, isForTerminal_of_key asks])
  · rfl

/-- A call goes on in front of the veil: it looks at the size of the pieces only. -/
theorem veiled_proceed (call : Call) (turn : Transfer.Turn) :
    (client.proceed call turn).veiled veil = (client.veiled veil).proceed call turn := by
  cases turn with
  | stop result => rfl
  | go transfer =>
    simp only [proceed, show (client.veiled veil).config.chunkSize = client.config.chunkSize from rfl]
    cases wanted : transfer.wants client.config.chunkSize with
    | error failure => rfl
    | ok want => exact veiled_ask veil client _ (Transfer.key_of_wants wanted)

/-- A call begins in front of the veil, too. -/
theorem veiled_start (operation : Operation) (limit : Option Duration) :
    (client.start operation limit).veiled veil = (client.veiled veil).start operation limit := by
  simp only [start]
  cases Transfer.begin operation with
  | stop result => rfl
  | go transfer =>
    exact veiled_proceed veil
      ({ client with called := client.called + 1 }.note (.started client.called operation)) _ _

/-- A request ends with its reply in front of the veil, too. -/
theorem veiled_answerRequest (number : Nat) (reply : Reply) :
    (client.answerRequest number reply).veiled veil =
      (client.veiled veil).answerRequest number reply := by
  simp only [answerRequest,
    show ((client.veiled veil).note (.answered number (.ok reply))).calls = client.calls from rfl,
    show (client.note (.answered number (.ok reply))).calls = client.calls from rfl]
  cases client.calls.find? (·.request == number) with
  | none => rfl
  | some call => exact veiled_proceed veil (client.note (.answered number (.ok reply))) _ _

/-- A request runs in front of the veil as it does behind it. -/
theorem veiled_poll (frames : ∀ {number request}, client.requests.find? number = some request →
    isForTerminal request.frame = false) (number : Nat) :
    (client.poll number).veiled veil = (client.veiled veil).poll number := by
  simp only [poll, show (client.veiled veil).requests = client.requests from rfl,
    show (client.veiled veil).clock = client.clock from rfl]
  cases found : client.requests.find? number with
  | none => rfl
  | some request =>
    have shown := frames found
    obtain ⟨own, key, frame, awaits, limit, standing⟩ := request
    let released := { client with
      requests := client.requests.release ⟨own, key, frame, awaits, limit, standing⟩ }
    cases standing with
    | queued => rfl
    | granted => exact veiled_sendRequest veil client shown
    | waiting generation sentAt =>
      cases limit with
      | none => rfl
      | some limit =>
        simp only
        split
        · exact veiled_failRequest veil released _ _
        · rfl
    | answered reply => exact veiled_answerRequest veil released _ _
    | disconnected => exact veiled_failRequest veil released _ _

/-- A call is given up in front of the veil, too. -/
theorem veiled_abandon (number : Nat) :
    (client.abandon number).veiled veil = (client.veiled veil).abandon number := by
  simp only [abandon, veiled]
  split
  · rfl
  · split <;> rfl

/-! ### Steps -/

/-- No request that has not ended is for the terminal. -/
def AsksForFiles (client : Client) : Prop :=
  ∀ {number request}, client.requests.find? number = some request →
    isForTerminal request.frame = false

/-- All requests of a client ask for files. -/
theorem Reachable.asksForFiles {config : Config} {client : Client}
    (reachable : Reachable config client) : client.AsksForFiles := by
  intro number request found
  obtain ⟨frame, asks, same⟩ := reachable.places.framed found
  rw [same, isForTerminal_of_key asks]

/-- What is done behind a veil is done in front of it, unless it is hidden itself. -/
theorem step_veiled (asks : client.AsksForFiles) {action : Action}
    (shown : veil.hidesTerminal = true → client.isAside action = false) :
    (client.step action).veiled veil = (client.veiled veil).step action := by
  have shows : ∀ {command : Command}, (veil.hidesTerminal = true → command.isAside = false) →
      veil.showsCommand command = true := by
    intro command aside
    cases hides : veil.hidesTerminal with
    | false => simp [Veil.showsCommand, hides]
    | true => simp [Veil.showsCommand, aside hides]
  unfold step
  rw [show (client.veiled veil).isHeld = client.isHeld from rfl]
  split
  · rfl
  · cases action with
    | connect => exact veiled_connect veil client
    | start operation limit => exact veiled_start veil client operation limit
    | cancel call =>
      simp only [perform, cancel, veiled_leave, veiled_abandon]
    | send frame => exact veiled_send veil client (shows shown)
    | attachTerminal terminal =>
      cases hides : veil.hidesTerminal with
      | false => simp [perform, attachTerminal, veiled, hides]
      | true => cases shown hides
    | close => exact veiled_close veil client
    | release => exact veiled_release veil client
    | receive generation message => exact veiled_receive veil client shown
    | resolve attempt => exact veiled_resolve veil client attempt
    | poll request => exact veiled_poll veil client asks request
    | transmit generation =>
      refine veiled_transmit veil client fun link next taken => shows fun hides => ?_
      simpa [isAside, taken] using shown hides
    | report generation => exact veiled_report veil client generation
    | _ => rfl

end Client

end RemoteAgent
