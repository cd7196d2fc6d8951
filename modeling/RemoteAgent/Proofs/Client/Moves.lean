import RemoteAgent.Client.Action
import RemoteAgent.Proofs.Requests.Turns
import Mathlib.Logic.Relation

/-!
# Moves of a client

An action of a client falls into moves, each of which changes one thing: a request, an attempt,
a socket, or what is only told. This module lists the moves with the states that they lead to.
`Course` is any number of moves of one action, and later modules show that every step is one, so
that an invariant has to be shown for moves only. A request moves on only when it runs
(`Action.runsRequests`), when its call is given up, when its reply comes in, or when its socket is
gone.
-/

namespace RemoteAgent

/-- The action lets requests run. -/
def Action.runsRequests : Action → Bool
  | .start _ _ | .poll _ => true
  | _ => false

/-- The event tells nothing of requests, of sockets, or of attempts and those who call for them. -/
def Event.isRemark : Event → Bool
  | .started _ _ | .forsook _ | .hungUp _ | .left _ | .wrote _ _ | .offered _ _ _
  | .logged _ _ | .malformed _ _ | .finished _ _ _ => true
  | _ => false

namespace Client

/-- How a request that runs can end. -/
inductive Ends (client : Client) (request : Request) : Except Failure Reply → Prop where
  /-- At its turn, for want of an open link. -/
  | unsent (turn : request.standing = .granted)
      (shut : ∀ generation, client.link.lifecycle ≠ .opened generation) :
      Ends client request (.error .notConnected)
  /-- With its deadline. -/
  | overdue {generation sentAt : Nat} {limit : Duration}
      (waits : request.standing = .waiting generation sentAt) (limited : request.limit = some limit)
      (late : sentAt + limit.nanoseconds ≤ client.clock) :
      Ends client request (.error (.requestTimeout request.key limit.milliseconds))
  /-- With its reply. -/
  | answered {reply : Reply} (came : request.standing = .answered reply) :
      Ends client request (.ok reply)
  /-- With its socket. -/
  | lost (gone : request.standing = .disconnected) :
      Ends client request (.error .connectionClosed)

/-- A client after remarks: the calls may be fewer, and the rest is as it was. -/
structure Remarks (client after : Client) : Prop where
  config : after.config = client.config
  clock : after.clock = client.clock
  link : after.link = client.link
  handlers : after.handlers = client.handlers
  requests : after.requests = client.requests
  calls : after.calls.Sublist client.calls
  called : client.called ≤ after.called
  isHeld : after.isHeld = client.isHeld
  trace : ∃ remarks : List Event, (∀ event ∈ remarks, event.isRemark = true) ∧
    after.trace = remarks ++ client.trace

/-- A move of one request. -/
inductive RequestMove (action : Action) : Client → Client → Prop where
  /-- A call makes the request that it wants. -/
  | issues {client : Client} {call : Call} {want : Want} (runs : action.runsRequests = true)
      (asked : client.isHeld = true ∨ client.calls ≠ [])
      (wanted : call.transfer.wants client.config.chunkSize = .ok want) :
      RequestMove action client (client.issue call want).1
  /-- At its turn, a request is sent on the open socket. -/
  | sends {client : Client} {request : Request} {generation : Nat}
      (runs : action.runsRequests = true)
      (found : client.requests.find? request.number = some request)
      (turn : request.standing = .granted) (opened : client.link.lifecycle = .opened generation) :
      RequestMove action client
        (({ client with
            link := client.link.changeSocket generation (·.push (.frame request.frame))
            requests := client.requests.enter request generation client.clock }.note
          (.accepted generation request.frame)).note (.sent request.number generation))
  /-- A request ends. -/
  | ends {client : Client} {request : Request} {outcome : Except Failure Reply}
      (runs : action.runsRequests = true)
      (found : client.requests.find? request.number = some request)
      (ending : client.Ends request outcome) :
      RequestMove action client
        ({ client with requests := client.requests.release request }.note
          (.answered request.number outcome))
  /-- A request that has nothing to do runs. -/
  | rests {client : Client} {number : Nat} (runs : action.runsRequests = true)
      (idle : ∀ request, client.requests.find? number = some request →
        request.standing.isEager = false) :
      RequestMove action client { client with requests := client.requests.rest number }
  /-- A request is dropped with its call. -/
  | drops {client : Client} {call : Call} {request : Request}
      (cancels : action = .cancel call.number)
      (waits : client.calls.find? (·.number == call.number) = some call)
      (found : client.requests.find? call.request = some request) :
      RequestMove action client
        { client with
          calls := client.calls.filter (·.number != call.number)
          requests := client.requests.drop request }
  /-- A reply comes in on a running socket. -/
  | delivers {client : Client} {generation : Nat} {octets : Bytes} {socket : Socket}
      {frame : Inbound} {key : RequestKey} {reply : Reply}
      (receives : action = .receive generation (.binary octets))
      (found : client.link.socket? generation = some socket) (running : socket.stage = .running)
      (decoded : Inbound.decode octets = .ok frame) (answers : frame.reply? = some (key, reply)) :
      RequestMove action client { client with requests := client.requests.deliver key reply }

/-- A move of the link. -/
inductive LinkMove (action : Action) : Client → Client → Prop where
  /-- A caller finds the link open. -/
  | finds {client : Client} {generation : Nat} (calling : action = .connect)
      (opened : client.link.lifecycle = .opened generation) :
      LinkMove action client
        ({ client with called := client.called + 1 }.note (.connected client.called (.ok ())))
  /-- A caller joins the attempt under way. -/
  | joins {client : Client} {number : Nat} (calling : action = .connect)
      (connecting : client.link.lifecycle = .connecting number) :
      LinkMove action client
        ({ client with
            link := client.link.changeAttempt number (·.join client.called)
            called := client.called + 1 }.note (.joined client.called number))
  /-- A caller starts an attempt. -/
  | dials {client : Client} (deadline : Nat) (calling : action = .connect)
      (held : client.isHeld = true)
      (unopened : ∀ generation, client.link.lifecycle ≠ .opened generation)
      (idle : ∀ number, client.link.lifecycle ≠ .connecting number) :
      LinkMove action client
        (({ client with
            link := client.link.dial client.called deadline
            called := client.called + 1 }.note (.joined client.called (client.link.dials + 1))).note
          (.dialed (client.link.dials + 1)))
  /-- A caller gives up. -/
  | parts {client : Client} {caller : Nat} (cancels : action = .cancel caller) :
      LinkMove action client { client with link := client.link.leave caller }
  /-- Attempts that nobody cares for are let go. -/
  | sweeps {client : Client} : LinkMove action client { client with link := client.link.sweep }
  /-- The owner closes the link. -/
  | closes {client : Client} (closing : action = .close) :
      LinkMove action client { client with link := client.link.close }
  /-- The handshake of an attempt ends. -/
  | settles {client : Client} (number : Nat) (handshake : Handshake)
      (settling : action = .settle number handshake) :
      LinkMove action client { client with link := client.link.settle number handshake }
  /-- The attempt of the link opens its socket. -/
  | opens {client : Client} {attempt : Attempt} {remarks : List Event}
      (resolving : action = .resolve attempt.number)
      (found : client.link.attempt? attempt.number = some attempt)
      (own : client.link.lifecycle = .connecting attempt.number)
      (quiet : ∀ event ∈ remarks, event.isRemark = true) :
      LinkMove action client
        { client with
          link := client.link.attach attempt.number
          trace := (attempt.callers.map fun caller => Event.connected caller (.ok ())).reverse ++
            (remarks ++ .opened (client.link.generations + 1) attempt.number :: client.trace) }
  /-- An attempt ends without a socket. -/
  | fails {client : Client} {attempt : Attempt} {failure : Failure}
      (resolving : action = .resolve attempt.number)
      (found : client.link.attempt? attempt.number = some attempt)
      (blamed : failure.isConnectionError = true) :
      LinkMove action client
        { client with
          link := client.link.fail attempt.number
          trace := (attempt.callers.map fun caller => Event.connected caller
            (.error failure)).reverse ++ client.trace }
  /-- A frame of the owner's is accepted. -/
  | accepts {client : Client} {generation : Nat} (frame : Bytes) (sending : action = .send frame)
      (opened : client.link.lifecycle = .opened generation) :
      LinkMove action client
        ({ client with
            link := client.link.changeSocket generation (·.push (.frame frame)) }.note
          (.accepted generation frame))
  /-- A running socket writes a frame. -/
  | writes {client : Client} {generation : Nat} {socket : Socket} {frame : Bytes}
      {rest : List Command} (transmits : action = .transmit generation)
      (found : client.link.socket? generation = some socket) (running : socket.stage = .running)
      (queued : socket.queue = .frame frame :: rest) :
      LinkMove action client
        ({ client with
            link := client.link.changeSocket generation fun socket =>
              { socket with queue := rest } }.note (.transmitted generation frame))
  /-- A running socket ends. -/
  | breaks {client : Client} {generation : Nat} {socket : Socket}
      (found : client.link.socket? generation = some socket) (running : socket.stage = .running) :
      LinkMove action client { client with link := client.link.sever generation }
  /-- The link takes notice of the end of a socket. -/
  | announces {client : Client} {generation : Nat} {socket : Socket}
      (found : client.link.socket? generation = some socket) (broken : socket.stage = .broken) :
      LinkMove action client
        { client with link := client.link.announce generation client.handlers }
  /-- A socket is forgotten that nobody is to be told of. -/
  | retires {client : Client} {generation : Nat} {socket : Socket}
      (found : client.link.socket? generation = some socket)
      (done : socket.stage = .reporting [] ∨ socket.stage = .broken ∧ client.isHeld = false) :
      LinkMove action client { client with link := client.link.retire generation }
  /-- A handler of the owner's is told of the end of a socket. -/
  | tells {client : Client} {generation : Nat} {socket : Socket} {name : String} {claims : Claims}
      {hears : Bool} {later : List Handler}
      (found : client.link.socket? generation = some socket)
      (reporting : socket.stage = .reporting (.custom name claims hears :: later)) :
      LinkMove action client
        ({ client with link := client.link.toldAllBut generation later }.note
          (.told (.custom name claims hears) generation))

/-- A move of a client. -/
inductive Move (action : Action) : Client → Client → Prop where
  | remarks {client after : Client} (remarks : client.Remarks after) : Move action client after
  | registers {client : Client} (name : String) (claims : Claims) (hears : Bool) :
      Move action client (client.register (.custom name claims hears))
  | waits {client : Client} {time : Duration} (waiting : action = .wait time) :
      Move action client (client.wait time)
  | request {client after : Client} (moves : RequestMove action client after) :
      Move action client after
  | link {client after : Client} (moves : LinkMove action client after)
      (aside : action.runsRequests = false) : Move action client after
  /-- The file service is told of the end of a socket, and its requests are lost. -/
  | loses {client : Client} {generation : Nat} {socket : Socket} {later : List Handler}
      (reports : action = .report generation)
      (found : client.link.socket? generation = some socket)
      (reporting : socket.stage = .reporting (.fileService :: later)) :
      Move action client
        { client.note (.told .fileService generation) with
          link := client.link.toldAllBut generation later
          requests := client.requests.disconnect generation }
  /-- The owner lets go of the client. -/
  | releases {client : Client} (releasing : action = .release) (held : client.isHeld = true) :
      Move action client
        { client with
          link := { client.link.close with attempts := [] }
          requests := { issued := client.requests.issued }
          calls := []
          isHeld := false }

/-- Any number of moves of one action. -/
abbrev Course (action : Action) : Client → Client → Prop := Relation.ReflTransGen (Move action)

end Client

end RemoteAgent
