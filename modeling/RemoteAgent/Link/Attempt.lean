import RemoteAgent.Failure

/-!
# Attempts to connect

An attempt belongs to the callers that wait for it. Without one it makes no progress, and
it ends when the handshake is through, when it fails, or when its deadline has passed.
-/

namespace RemoteAgent

/-- How a handshake ends. -/
inductive Handshake where
  /-- The agent takes the connection. -/
  | accepted
  /-- There is no connection. -/
  | failed (fault : ConnectFault)
  deriving DecidableEq, Repr

/-- An attempt that has not ended. -/
structure Attempt where
  number : Nat
  /-- When it has taken too long. -/
  deadline : Nat
  /-- How its handshake has ended, once it has. -/
  handshake : Option Handshake := none
  /-- The calls that wait for it, in the order in which they came. -/
  callers : List Nat
  deriving DecidableEq, Repr

namespace Attempt

/-- A caller joins. -/
def join (attempt : Attempt) (caller : Nat) : Attempt :=
  { attempt with callers := attempt.callers ++ [caller] }

/-- A caller gives up. -/
def leave (attempt : Attempt) (caller : Nat) : Attempt :=
  { attempt with callers := attempt.callers.filter (· != caller) }

/-- The handshake ends; what it ends with first counts. -/
def settle (attempt : Attempt) (handshake : Handshake) : Attempt :=
  match attempt.handshake with
  | none => { attempt with handshake := some handshake }
  | some _ => attempt

/-- The attempt can end at a moment. -/
def isDue (attempt : Attempt) (clock : Nat) : Bool :=
  !attempt.callers.isEmpty && (attempt.handshake.isSome || decide (attempt.deadline ≤ clock))

end Attempt

end RemoteAgent
