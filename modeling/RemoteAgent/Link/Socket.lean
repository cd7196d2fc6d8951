import RemoteAgent.Link.Handler

/-!
# Sockets

Every socket that opens has a generation, counted from one. Frames for the agent wait in
the queue of the socket that was open when they were accepted. A socket that has ended
tells the handlers in turn before it is forgotten.
-/

namespace RemoteAgent

/-- What waits in the queue of a socket. -/
inductive Command where
  /-- A frame to write. -/
  | frame (octets : Bytes)
  /-- The order to close the socket. -/
  | shutdown
  deriving DecidableEq, Repr

/-- How far the life of a socket has come. -/
inductive Socket.Stage where
  /-- It reads and writes. -/
  | running
  /-- It has ended, and nobody has been told. -/
  | broken
  /-- It has ended, and these handlers are still to be told. -/
  | reporting (remaining : List Handler)
  deriving DecidableEq, Repr

/-- A socket. -/
structure Socket where
  generation : Nat
  /-- The attempt that opened it. -/
  attempt : Nat
  queue : List Command := []
  stage : Socket.Stage := .running
  deriving DecidableEq, Repr

namespace Socket

/-- Adds to the queue. -/
def push (socket : Socket) (command : Command) : Socket :=
  { socket with queue := socket.queue ++ [command] }

/-- The socket ends. What waits in its queue is lost. -/
def ended (socket : Socket) : Socket :=
  match socket.stage with
  | .running => { socket with stage := .broken }
  | _ => socket

end Socket

end RemoteAgent
