import RemoteAgent.Client.State

/-!
# Connecting and closing

Callers that find the link idle or closed start an attempt, callers that find it
connecting join the attempt, and all of them learn how it ends. Only the attempt that the
link still names may open its socket; one that was abandoned lets its connection go.
-/

namespace RemoteAgent.Client

/-- The callers of an attempt learn how it has ended. -/
def tellCallers (client : Client) (attempt : Attempt) (outcome : Except Failure Unit) : Client :=
  client.noteAll (attempt.callers.map fun caller => .connected caller outcome)

/-- Lets go of the attempts that are neither waited for nor the link's own. -/
def sweep (client : Client) : Client :=
  { client with link := client.link.sweep }.noteAll (client.link.forsaken.map .forsook)

/-- Calls for an open link. -/
def connect (client : Client) : Client :=
  let caller := client.called
  let deadline := client.clock + client.config.connectTimeout.nanoseconds
  let (link, joining) := client.link.join caller deadline
  let counted := { client with link, called := caller + 1 }
  match joining with
  | .alreadyOpen => counted.note (.connected caller (.ok ()))
  | .joined attempt => counted.note (.joined caller attempt)
  | .dialed attempt => (counted.note (.joined caller attempt)).note (.dialed attempt)

/-- A call for an open link is given up. -/
def leave (client : Client) (caller : Nat) : Client :=
  { client with link := client.link.leave caller }.sweep

/-- The handshake of an attempt ends. -/
def settle (client : Client) (attempt : Nat) (handshake : Handshake) : Client :=
  { client with link := client.link.settle attempt handshake }

/-- An attempt fails for its callers. -/
def failAttempt (client : Client) (attempt : Attempt) (failure : Failure) : Client :=
  { client with link := client.link.fail attempt.number }.tellCallers attempt (.error failure)

/-- The connection of an attempt is there: it becomes the socket of the link, or is let go. -/
def openSocket (client : Client) (attempt : Attempt) : Client :=
  if client.link.lifecycle = .connecting attempt.number then
    let link := client.link.attach attempt.number
    ({ client with link }.note (.opened link.generations attempt.number)).announce .connected
      |>.tellCallers attempt (.ok ())
  else
    ({ client with link := client.link.forget attempt.number }.note (.forsook attempt.number))
      |>.tellCallers attempt (.error (.connection .abandoned))

/-- An attempt that somebody waits for goes on: it ends with its handshake, or else with its
deadline. -/
def resolve (client : Client) (number : Nat) : Client :=
  match client.link.attempt? number with
  | none => client
  | some attempt =>
    if attempt.isDue client.clock then
      match attempt.handshake with
      | some .accepted => client.openSocket attempt
      | some (.failed fault) => client.failAttempt attempt (.connection fault)
      | none =>
        (client.failAttempt attempt
          (.connectionTimeout client.config.connectTimeout.milliseconds)).note
            (.forsook attempt.number)
    else client

/-- Closes the link. An attempt under way is abandoned. -/
def close (client : Client) : Client := { client with link := client.link.close }.sweep

/-- Nobody holds the client any more: calls are given up, and an open socket is closed. -/
def release (client : Client) : Client :=
  { client with
      link := { client.link.close with attempts := [] }
      requests := { issued := client.requests.issued }
      calls := []
      isHeld := false }.noteAll (client.link.attempts.map fun (attempt : Attempt) => .forsook attempt.number)

end RemoteAgent.Client
