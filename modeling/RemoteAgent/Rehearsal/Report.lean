import RemoteAgent.Rehearsal.Basic

/-!
# Reports

What can be seen after a step of a rehearsal: where the client stands, what it has done,
what the agent has got, and which calls have ended.
-/

namespace RemoteAgent.Rehearsal

/-- What can be seen after a step. -/
structure Report where
  /-- The phase of the link, while the client is held. -/
  phase : Option Phase
  /-- The number of requests in flight. -/
  pending : Nat
  /-- A connection has set out for a listening agent and not come in. -/
  isUnsettled : Bool
  /-- What the client has done, in order. -/
  events : List Event
  /-- The frames that the agent got, in order. -/
  sent : List Bytes
  /-- The targets of the handshakes that the agent has read, in order. -/
  targets : List String
  /-- How the client has left connections, in order. -/
  farewells : List Farewell
  /-- The calls that have ended, ordered by name. -/
  endings : List (String × Ending)

/-- The frame that the agent got through an event. -/
def frame? : Event → Option Bytes
  | .transmitted _ frame => some frame
  | _ => none

/-- The call that ended through an event. -/
def ending? (rehearsal : Rehearsal) : Event → Option (String × Ending)
  | .connected call outcome =>
    (rehearsal.names[call]?).map fun named => (named.1, .connected outcome)
  | .finished call progress outcome =>
    match rehearsal.names[call]? with
    | some (name, some operation) => some (name, .finished operation progress outcome)
    | _ => none
  | _ => none

/-- What can be seen now. -/
def report (rehearsal : Rehearsal) : Report :=
  let client := rehearsal.client
  let events := rehearsal.shown.reverse
  { phase := if client.isHeld then some client.phase else none
    pending := client.requests.pending
    isUnsettled := rehearsal.agent.isListening &&
      decide (rehearsal.agent.dials.length < rehearsal.departed)
    events
    sent := events.filterMap frame?
    targets := List.replicate rehearsal.greeted client.config.url.target
    farewells := rehearsal.farewells.reverse
    endings := (events.filterMap rehearsal.ending?).mergeSort fun first later =>
      decide (first.1 ≤ later.1) }

end RemoteAgent.Rehearsal
