import RemoteAgent.Client.Call
import RemoteAgent.Client.Connect
import RemoteAgent.Client.Socket

/-!
# Actions

An action is one step of a client: something its owner does, something that happens to it,
or something that it does by itself when nothing hinders it. Actions may come in any order,
and one that is not possible changes nothing. What is reachable by actions is what the
client can ever be, and `Reachable.invariant` is the way to show something of all of it.
-/

namespace RemoteAgent

/-- One step of a client. -/
inductive Action where
  /-- The owner calls for an open link. -/
  | connect
  /-- The owner calls for a file operation, whose requests may each wait for so long. -/
  | start (operation : Operation) (limit : Option Duration)
  /-- The owner gives up a call. -/
  | cancel (call : Nat)
  /-- The owner sends a frame. -/
  | send (frame : Bytes)
  /-- The owner attaches a terminal or detaches it. -/
  | attachTerminal (terminal : Option String)
  /-- The owner registers a handler. -/
  | register (name : String) (claims : Claims) (hearsDisconnects : Bool)
  /-- The owner closes the link. -/
  | close
  /-- The owner lets go of the client. -/
  | release
  /-- The handshake of an attempt ends. -/
  | settle (attempt : Nat) (handshake : Handshake)
  /-- A message comes in on a socket. -/
  | receive (generation : Nat) (message : Message)
  /-- Time passes. -/
  | wait (time : Duration)
  /-- An attempt goes on. -/
  | resolve (attempt : Nat)
  /-- A request runs. -/
  | poll (request : Nat)
  /-- A socket writes. -/
  | transmit (generation : Nat)
  /-- A socket that has ended tells of it. -/
  | report (generation : Nat)
  deriving DecidableEq, Repr

/-- The action needs an owner. -/
def Action.isOwners : Action → Bool
  | connect | start _ _ | cancel _ | send _ | attachTerminal _ | register _ _ _ | close
  | release => true
  | _ => false

namespace Client

/-- Gives up a call of either kind. -/
def cancel (client : Client) (call : Nat) : Client := (client.abandon call).leave call

/-- The effect of an action that is possible. -/
def perform (client : Client) : Action → Client
  | .connect => client.connect
  | .start operation limit => client.start operation limit
  | .cancel call => client.cancel call
  | .send frame => client.send frame
  | .attachTerminal terminal => client.attachTerminal terminal
  | .register name claims hears => client.register (.custom name claims hears)
  | .close => client.close
  | .release => client.release
  | .settle attempt handshake => client.settle attempt handshake
  | .receive generation message => client.receive generation message
  | .wait time => client.wait time
  | .resolve attempt => client.resolve attempt
  | .poll request => client.poll request
  | .transmit generation => client.transmit generation
  | .report generation => client.report generation

/-- One step. What only an owner can do has no effect without one. -/
def step (client : Client) (action : Action) : Client :=
  if action.isOwners && !client.isHeld then client else client.perform action

/-- Several steps. -/
def run (client : Client) (actions : List Action) : Client := actions.foldl step client

/-- A client that has done nothing yet. -/
def initial (config : Config) : Client := { config }

/-- What a client of a configuration can ever be. -/
inductive Reachable (config : Config) : Client → Prop where
  | initial : Reachable config (initial config)
  | step {client : Client} (action : Action) (before : Reachable config client) :
      Reachable config (client.step action)

/-- A property that holds at the beginning and is kept by every step holds always. -/
theorem Reachable.invariant {config : Config} {property : Client → Prop}
    (holds : property (Client.initial config))
    (kept : ∀ client action, property client → property (client.step action))
    {client : Client} (reachable : Reachable config client) : property client := by
  induction reachable with
  | initial => exact holds
  | step action _ inductionHypothesis => exact kept _ action inductionHypothesis

theorem run_append (client : Client) (first later : List Action) :
    client.run (first ++ later) = (client.run first).run later := List.foldl_append

theorem run_concat (client : Client) (earlier : List Action) (action : Action) :
    client.run (earlier ++ [action]) = (client.run earlier).step action := run_append ..

/-- What a run leads to is reachable. -/
theorem Reachable.run {config : Config} {client : Client} (before : Reachable config client)
    (actions : List Action) : Reachable config (client.run actions) := by
  induction actions generalizing client with
  | nil => exact before
  | cons action later inductionHypothesis => exact inductionHypothesis (before.step action)

end Client

end RemoteAgent
