import RemoteAgent.Agent.Files
import RemoteAgent.Link.Attempt

/-!
# A scripted agent

An agent that does what it is told: it takes connections, holds them back or refuses them,
and it answers frames from a script, or else from the files it serves.
-/

namespace RemoteAgent

/-- What an agent does with a connection that comes in. -/
inductive Manner where
  /-- It takes it. -/
  | accept
  /-- It keeps it waiting. -/
  | hold
  /-- It answers the handshake with an HTTP status. -/
  | reject (status : Nat)
  /-- It cuts it after the handshake was asked for. -/
  | cut
  deriving DecidableEq, Repr

/-- A connection that came in. -/
structure Dial where
  /-- The client's attempt. -/
  attempt : Nat
  /-- It is kept waiting. -/
  isHeld : Bool
  /-- The client has let go of it. -/
  isForsaken : Bool := false
  deriving DecidableEq, Repr

/-- How a client leaves a connection. -/
inductive Farewell where
  /-- With a close frame. -/
  | closed
  /-- Without one. -/
  | lost
  deriving DecidableEq, Repr

/-- A scripted agent. -/
structure ScriptedAgent where
  /-- New connections can come in. -/
  isListening : Bool := true
  manner : Manner := .accept
  /-- Every connection that came in, oldest first. -/
  dials : List Dial := []
  /-- The attempts whose connections are open, oldest first. -/
  connections : List Nat := []
  /-- The answers to the next frames. -/
  script : List (List Bytes) := []
  /-- The files that it serves, if it does. -/
  files : Option Files := none
  deriving DecidableEq, Repr

namespace ScriptedAgent

/-- The answers to a frame, and the agent after it. -/
def answer (agent : ScriptedAgent) (frame : Bytes) : ScriptedAgent × List Bytes :=
  match agent.script with
  | answers :: later => ({ agent with script := later }, answers)
  | [] =>
    match agent.files, Outbound.decode frame with
    | some files, .ok request =>
      let (files, reply) := files.serve request
      ({ agent with files := some files }, reply.toList.map Inbound.encode)
    | _, _ => (agent, [])

/-- A connection comes in. Tells whether a handshake was read, and how it ends if it does at
once. -/
def greet (agent : ScriptedAgent) (attempt : Nat) : ScriptedAgent × Bool × Option Handshake :=
  let seen (isHeld : Bool) : ScriptedAgent :=
    { agent with dials := agent.dials ++ [{ attempt, isHeld }] }
  match agent.manner with
  | .accept =>
    ({ seen false with connections := agent.connections ++ [attempt] }, true, some .accepted)
  | .hold => (seen true, false, none)
  | .reject status => (seen false, true, some (.failed (.refused status)))
  | .cut => (seen false, false, some (.failed .unfinished))

/-- A connection is over. -/
def part (agent : ScriptedAgent) (attempt : Nat) : ScriptedAgent :=
  { agent with connections := agent.connections.filter (· != attempt) }

/-- The client lets go of what an attempt has of a connection. Tells whether the agent notices
at once. -/
def desert (agent : ScriptedAgent) (attempt : Nat) : ScriptedAgent × Bool :=
  ({ agent.part attempt with dials := agent.dials.map fun dial =>
      if dial.attempt = attempt then { dial with isForsaken := true } else dial },
    agent.connections.contains attempt)

end ScriptedAgent

end RemoteAgent
