import RemoteAgent.Agent.Scripted
import RemoteAgent.Client.Action

/-!
# Steps of a rehearsal

A rehearsal plays a client against a scripted agent. Each of its steps is something that
the owner of the client does, something that the agent does, or the passing of time.
-/

namespace RemoteAgent

/-- One step of a rehearsal. -/
inductive Rehearsal.Step where
  /-- The owner calls for an open link, under a name. -/
  | connect (name : String)
  /-- The owner calls for a file operation, under a name. -/
  | start (name : String) (operation : Operation) (limit : Option Duration)
  /-- The owner gives up the call of a name. -/
  | cancel (name : String)
  /-- The owner sends a frame. -/
  | send (frame : Bytes)
  /-- The owner attaches a terminal or detaches it. -/
  | attachTerminal (terminal : Option String)
  /-- The owner registers a handler. -/
  | register (name : String) (claims : Claims) (hearsDisconnects : Bool)
  /-- The owner closes the link. -/
  | close
  /-- The owner looks at the client. -/
  | inspect
  /-- The owner lets go of the client. -/
  | release
  /-- The agent sends messages. -/
  | agentSends (messages : List Message)
  /-- The agent follows another script. -/
  | agentFollows (script : List (List Bytes))
  /-- The agent serves other files. -/
  | agentServes (files : Files)
  /-- The agent neither follows a script nor serves files. -/
  | agentFallsSilent
  /-- The owner looks at the files of the agent. -/
  | listFiles
  /-- The agent treats new connections in another manner. -/
  | agentTreats (manner : Manner)
  /-- The agent takes a connection that it has kept waiting. -/
  | agentReleases (dial : Nat)
  /-- The agent takes no new connections any more. -/
  | agentStops
  /-- Time passes. -/
  | wait (time : Duration)
  deriving DecidableEq, Repr

end RemoteAgent
