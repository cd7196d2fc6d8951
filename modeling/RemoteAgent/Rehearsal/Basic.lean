import RemoteAgent.Client.Description
import RemoteAgent.Rehearsal.Step

/-!
# Rehearsals

After each step of a rehearsal both sides go on until neither can do anything without
another step. Time stands still meanwhile. What happens first when several things can is
settled here: sockets that have ended tell of it, attempts end, messages come in, requests
run in the order in which they were woken, deadlines strike, and sockets write.
-/

namespace RemoteAgent

/-- Whether the client's network leads to the agent. -/
inductive Network where
  | reachable
  | unreachable
  deriving DecidableEq, Repr

/-- How a call ends. -/
inductive Ending where
  /-- A call for an open link. -/
  | connected (outcome : Except Failure Unit)
  /-- A file operation, with the progress that it reported. -/
  | finished (operation : Operation) (progress : List Progress)
      (outcome : Except Failure Delivery)

/-- A client and an agent that play together. -/
structure Rehearsal where
  client : Client
  agent : ScriptedAgent := {}
  network : Network := .reachable
  /-- The number of connections that have set out for a listening agent. -/
  departed : Nat := 0
  /-- Messages on their way to the client, with the attempts of their connections. -/
  arriving : List (Nat × Message) := []
  /-- The names of the calls so far, with their operations. -/
  names : List (String × Option Operation) := []
  /-- What the client has done in this step, the last thing first. -/
  shown : List Event := []
  /-- The number of handshakes that the agent has read in this step. -/
  greeted : Nat := 0
  /-- How the client has left connections in this step, the last one first. -/
  farewells : List Farewell := []

namespace Rehearsal

/-- The beginning of a rehearsal. -/
def begin (config : Config) (network : Network) : Rehearsal :=
  { client := .initial config, network }

/-- The handshake of an attempt ends. -/
def settle (rehearsal : Rehearsal) (attempt : Nat) (handshake : Handshake) : Rehearsal :=
  { rehearsal with client := rehearsal.client.step (.settle attempt handshake) }

/-- The agent notices that the client has left a connection. -/
def leave (rehearsal : Rehearsal) (attempt : Nat) (farewell : Farewell) : Rehearsal :=
  { rehearsal with
    agent := rehearsal.agent.part attempt
    farewells := farewell :: rehearsal.farewells }

/-- The attempt behind the socket of a generation. -/
def attemptOf (rehearsal : Rehearsal) (generation : Nat) : Nat :=
  match rehearsal.client.link.socket? generation with
  | some socket => socket.attempt
  | none => 0

/-- An attempt reaches for the agent. -/
def dial (rehearsal : Rehearsal) (attempt : Nat) : Rehearsal :=
  let departed := if rehearsal.agent.isListening then rehearsal.departed + 1
    else rehearsal.departed
  let rehearsal := { rehearsal with departed }
  match rehearsal.network, rehearsal.agent.isListening with
  | .unreachable, _ => rehearsal.settle attempt (.failed (.system .networkUnreachable))
  | .reachable, false => rehearsal.settle attempt (.failed (.system .connectionRefused))
  | .reachable, true =>
    let (agent, isRead, handshake) := rehearsal.agent.greet attempt
    let greeted := if isRead then rehearsal.greeted + 1 else rehearsal.greeted
    let met := { rehearsal with agent, greeted }
    match handshake with
    | some handshake => met.settle attempt handshake
    | none => met

/-- The agent's side of what the client has done. -/
def react (rehearsal : Rehearsal) : Event → Rehearsal
  | .dialed attempt => rehearsal.dial attempt
  | .forsook attempt =>
    let (agent, isNoticed) := rehearsal.agent.desert attempt
    let deserted := { rehearsal with agent }
    if isNoticed then { deserted with farewells := .lost :: deserted.farewells } else deserted
  | .transmitted generation frame =>
    let (agent, answers) := rehearsal.agent.answer frame
    let attempt := rehearsal.attemptOf generation
    { rehearsal with
      agent
      arriving := rehearsal.arriving ++ answers.map fun octets => (attempt, .binary octets) }
  | .hungUp generation => rehearsal.leave (rehearsal.attemptOf generation) .closed
  | .left generation => rehearsal.leave (rehearsal.attemptOf generation) .lost
  | _ => rehearsal

/-- The client does something, and the agent reacts. -/
def act (rehearsal : Rehearsal) (action : Action) : Rehearsal :=
  let client := rehearsal.client.step action
  let acted := { rehearsal with
    client := { client with trace := [] }
    shown := client.trace ++ rehearsal.shown }
  client.trace.reverse.foldl react acted

/-! ## Going on -/

/-- The socket that a connection has become. -/
def socketOf (rehearsal : Rehearsal) (attempt : Nat) : Option Socket :=
  rehearsal.client.link.sockets.find? fun socket =>
    socket.attempt == attempt && socket.stage == .running

/-- The next message that a socket of the client can take, and what stays on its way. -/
def nextMessage (rehearsal : Rehearsal) : Option (Action × List (Nat × Message)) :=
  match rehearsal.arriving.find? fun arrival => (rehearsal.socketOf arrival.1).isSome with
  | none => none
  | some arrival =>
    (rehearsal.socketOf arrival.1).map fun socket =>
      (.receive socket.generation arrival.2, rehearsal.arriving.erase arrival)

/-- When the reply to a request is overdue. -/
def deadline (request : Request) : Nat :=
  match request.standing, request.limit with
  | .waiting _ sentAt, some limit => sentAt + limit.nanoseconds
  | _, _ => 0

/-- The request that has been overdue for the longest time. -/
def nextOverdue (client : Client) : Option Request :=
  (client.requests.live.filter (·.isOverdue client.clock)).foldl
    (fun earliest request => match earliest with
      | none => some request
      | some found => if deadline request < deadline found then some request else some found)
    none

/-- What the client does next by itself. -/
def nextAction (client : Client) : Option Action :=
  match client.link.sockets.find? (·.stage != .running) with
  | some socket => some (.report socket.generation)
  | none => (client.link.attempts.find? (·.isDue client.clock)).map fun attempt =>
      .resolve attempt.number

/-- What the client does when no message comes in. -/
def nextWork (client : Client) : Option Action :=
  match client.requests.ready with
  | request :: _ => some (.poll request)
  | [] =>
    match nextOverdue client with
    | some request => some (.poll request.number)
    | none =>
      (client.link.sockets.find? fun socket =>
        socket.stage == .running && !socket.queue.isEmpty).map fun socket =>
          .transmit socket.generation

/-- The next thing that happens without another step, if anything does. -/
def next? (rehearsal : Rehearsal) : Option Rehearsal :=
  match nextAction rehearsal.client with
  | some action => some (rehearsal.act action)
  | none =>
    match rehearsal.nextMessage with
    | some (action, arriving) => some ({ rehearsal with arriving }.act action)
    | none => (nextWork rehearsal.client).map rehearsal.act

/-- Both sides go on, for so many things at most. -/
def goOn : Nat → Rehearsal → Rehearsal
  | 0, rehearsal => rehearsal
  | patience + 1, rehearsal =>
    match rehearsal.next? with
    | none => rehearsal
    | some later => goOn patience later

/-- More than either side can do without another step. -/
def patience : Nat := 1000000000000000

/-! ## Steps -/

/-- Why a step makes no sense. -/
inductive Fault where
  /-- No connection of that number has come in. -/
  | noSuchDial
  deriving DecidableEq, Repr

/-- The wording of a step that makes no sense. -/
def Fault.message : Fault → String
  | noSuchDial => "no such dial"

/-- The number of the call that took a name last. -/
def callOf (rehearsal : Rehearsal) (name : String) : Option Nat :=
  (rehearsal.names.zipIdx.reverse.find? (·.1.1 == name)).map (·.2)

/-- The owner makes a call. -/
def call (rehearsal : Rehearsal) (name : String) (operation : Option Operation)
    (action : Action) : Rehearsal :=
  if rehearsal.client.isHeld then
    { rehearsal with names := rehearsal.names ++ [(name, operation)] }.act action
  else rehearsal

/-- The agent sends messages on its latest connection. -/
def sendAll (rehearsal : Rehearsal) (messages : List Message) : Rehearsal :=
  match rehearsal.agent.connections.getLast? with
  | none => rehearsal
  | some attempt =>
    let agent := if messages.contains .ending then rehearsal.agent.part attempt
      else rehearsal.agent
    { rehearsal with
      agent, arriving := rehearsal.arriving ++ messages.map fun message => (attempt, message) }

/-- The agent takes a connection that it has kept waiting. -/
def takeHeld (rehearsal : Rehearsal) (number : Nat) : Except Fault Rehearsal :=
  match rehearsal.agent.dials[number]? with
  | none => .error .noSuchDial
  | some dial =>
    if dial.isHeld then
      let dials := rehearsal.agent.dials.set number { dial with isHeld := false }
      let taken := { rehearsal with
        agent := { rehearsal.agent with dials }
        greeted := rehearsal.greeted + 1 }
      if dial.isForsaken then .ok { taken with farewells := .lost :: taken.farewells }
      else
        .ok ({ taken with agent := { taken.agent with
          connections := taken.agent.connections ++ [dial.attempt] } }.settle dial.attempt
            .accepted)
    else .ok rehearsal

/-- Changes the agent. -/
def changeAgent (rehearsal : Rehearsal) (agent : ScriptedAgent) : Rehearsal :=
  { rehearsal with agent }

/-- Begins a step. -/
def take (rehearsal : Rehearsal) : Step → Except Fault Rehearsal
  | .connect name => .ok (rehearsal.call name none .connect)
  | .start name operation limit =>
    .ok (rehearsal.call name (some operation) (.start operation limit))
  | .cancel name =>
    match rehearsal.callOf name with
    | some number => .ok (rehearsal.act (.cancel number))
    | none => .ok rehearsal
  | .send frame => .ok (rehearsal.act (.send frame))
  | .attachTerminal terminal => .ok (rehearsal.act (.attachTerminal terminal))
  | .register name claims hears => .ok (rehearsal.act (.register name claims hears))
  | .close => .ok (rehearsal.act .close)
  | .inspect | .listFiles => .ok rehearsal
  | .release => .ok (rehearsal.act .release)
  | .agentSends messages => .ok (rehearsal.sendAll messages)
  | .agentFollows script => .ok (rehearsal.changeAgent { rehearsal.agent with script })
  | .agentServes files =>
    .ok (rehearsal.changeAgent { rehearsal.agent with files := some files })
  | .agentFallsSilent =>
    .ok (rehearsal.changeAgent { rehearsal.agent with script := [], files := none })
  | .agentTreats manner => .ok (rehearsal.changeAgent { rehearsal.agent with manner })
  | .agentReleases dial => rehearsal.takeHeld dial
  | .agentStops => .ok (rehearsal.changeAgent { rehearsal.agent with isListening := false })
  | .wait time => .ok (rehearsal.act (.wait time))

/-- Takes a step and lets both sides go on. -/
def play (rehearsal : Rehearsal) (step : Step) : Except Fault Rehearsal := do
  let begun ← { rehearsal with shown := [], greeted := 0, farewells := [] }.take step
  return goOn patience begun

end Rehearsal

end RemoteAgent
