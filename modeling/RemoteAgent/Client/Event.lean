import RemoteAgent.Link.Handler
import RemoteAgent.Transfer.Basic

/-!
# Events

What a client does that can be seen from outside: by the agent, by the terminal, by
handlers, in the log, and by callers.
-/

namespace RemoteAgent

/-- Something that a client has done. -/
inductive Event where
  /-- A call for a file operation came in. -/
  | started (call : Nat) (operation : Operation)
  /-- A call for an open link waits for an attempt. -/
  | joined (call attempt : Nat)
  /-- An attempt reaches for the agent. -/
  | dialed (attempt : Nat)
  /-- The client lets go of what an attempt has of a connection. -/
  | forsook (attempt : Nat)
  /-- The connection of an attempt became a socket. -/
  | opened (generation attempt : Nat)
  /-- A frame was accepted for a socket. -/
  | accepted (generation : Nat) (frame : Bytes)
  /-- A frame was written to a socket. -/
  | transmitted (generation : Nat) (frame : Bytes)
  /-- A socket was closed with a close frame. -/
  | hungUp (generation : Nat)
  /-- A socket was left without a close frame. -/
  | left (generation : Nat)
  /-- Octets went to a terminal. -/
  | wrote (terminal : String) (data : Bytes)
  /-- A frame was offered to a handler. -/
  | offered (handler : Handler) (frame : Inbound) (claimed : Bool)
  /-- A handler was told that a socket is gone. -/
  | told (handler : Handler) (generation : Nat)
  /-- The agent's text went to the log under a name. -/
  | logged (target text : String)
  /-- A frame of some length was dropped. -/
  | malformed (failure : Failure) (length : Nat)
  /-- A request took its place in the lane of its key. -/
  | issued (request : Nat) (key : RequestKey)
  /-- The frame of a request was accepted for a socket. -/
  | sent (request generation : Nat)
  /-- A request ended. -/
  | answered (request : Nat) (outcome : Except Failure Reply)
  /-- A call to connect ended. -/
  | connected (call : Nat) (outcome : Except Failure Unit)
  /-- A file operation ended, with the progress it had reported. -/
  | finished (call : Nat) (progress : List Progress) (outcome : Except Failure Delivery)

end RemoteAgent
