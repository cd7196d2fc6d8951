import RemoteAgent.Client.State

/-!
# Traffic on a socket

Frames that were accepted are written in order. Frames that come in are dealt with one at
a time: what concerns the terminal goes there, the agent's text goes to the log, and
everything else is offered to the handlers. The end of a socket first leaves the lifecycle
of the link, and is then told to each handler in turn.
-/

namespace RemoteAgent

/-- What comes in on a socket. -/
inductive Message where
  /-- A frame. -/
  | binary (octets : Bytes)
  /-- Text, which means nothing here. -/
  | text
  /-- A ping, which the socket answers by itself. -/
  | ping
  /-- The end of the socket. -/
  | ending
  deriving DecidableEq, Repr

namespace Client

/-- Accepts a frame if the link is open, and drops it otherwise. -/
def send (client : Client) (frame : Bytes) : Client :=
  match client.link.accept frame with
  | none => client
  | some (link, generation) => { client with link }.note (.accepted generation frame)

/-- A running socket does what is next in its queue. -/
def transmit (client : Client) (generation : Nat) : Client :=
  match client.link.dequeue generation with
  | none => client
  | some (link, .frame frame) => { client with link }.note (.transmitted generation frame)
  | some (_, .shutdown) =>
    { client with link := client.link.sever generation }.note (.hungUp generation)

/-- A handler gets a frame. The file service looks for the request that the frame answers. -/
def handle (client : Client) (frame : Inbound) (handler : Handler) : Client :=
  let called := client.note (.offered handler frame (handler.claims frame))
  match handler, frame.reply? with
  | .fileService, some (key, reply) =>
    { called with requests := called.requests.deliver key reply }
  | _, _ => called

/-- Offers a frame to handlers in turn until one of them claims it. -/
def offer (client : Client) (frame : Inbound) : List Handler → Client
  | [] => client
  | handler :: later =>
    if handler.claims frame then client.handle frame handler
    else (client.handle frame handler).offer frame later

/-- Brings a frame to where it belongs. -/
def route (client : Client) : Inbound → Client
  | .terminalOutput data => client.write data
  | .terminalOpened => client.announce .terminalOpened
  | .terminalClosed => client.announce .terminalClosed
  | .log text => client.note (.logged agentLogTarget text)
  | frame => client.offer frame client.handlers

/-- Deals with the octets of a frame. -/
def dispatch (client : Client) (octets : Bytes) : Client :=
  match Inbound.decode octets with
  | .ok frame => client.route frame
  | .error failure => client.note (.malformed failure octets.length)

/-- A running socket gets a message. Once nobody holds the client, the next frame ends the
socket instead. -/
def receive (client : Client) (generation : Nat) (message : Message) : Client :=
  match client.link.socket? generation, message with
  | some { stage := .running, .. }, .binary octets =>
    if client.isHeld then client.dispatch octets
    else { client with link := client.link.sever generation }.note (.left generation)
  | some { stage := .running, .. }, .ending =>
    { client with link := client.link.sever generation }
  | _, _ => client

/-- A handler learns that a socket is gone. The file service gives up the requests that were
in flight on it. -/
def tell (client : Client) (generation : Nat) (handler : Handler) : Client :=
  let told := client.note (.told handler generation)
  match handler with
  | .fileService => { told with requests := told.requests.disconnect generation }
  | .custom _ _ _ => told

/-- The next step in the end of a socket: first the link takes notice, then one handler after
the other. -/
def report (client : Client) (generation : Nat) : Client :=
  match client.link.socket? generation with
  | some { stage := .broken, .. } =>
    if client.isHeld then
      { client with link := client.link.announce generation client.handlers }.announce
        .connectionClosed
    else { client with link := client.link.retire generation }
  | some { stage := .reporting (handler :: later), .. } =>
    { client with link := client.link.toldAllBut generation later }.tell generation handler
  | some { stage := .reporting [], .. } =>
    { client with link := client.link.retire generation }
  | _ => client

end Client

end RemoteAgent
