import RemoteAgent.Link.Phase

/-!
# Lifecycle of a link

A link is idle, busy with one attempt to connect, open through the socket of one
generation, or closed by its owner.
-/

namespace RemoteAgent

/-- Where a link stands. -/
inductive Lifecycle where
  /-- Nothing is open or opening. -/
  | idle
  /-- The attempt of this number is to open the socket. -/
  | connecting (attempt : Nat)
  /-- The socket of this generation is open. -/
  | opened (generation : Nat)
  /-- The owner has closed the link. -/
  | closed
  deriving DecidableEq, Repr

namespace Lifecycle

/-- What callers see of it. -/
def phase : Lifecycle → Phase
  | idle => .idle
  | connecting _ => .connecting
  | opened _ => .opened
  | closed => .closed

/-- Once an attempt has failed, the link is idle again if the attempt was its own. -/
def afterFailure (lifecycle : Lifecycle) (attempt : Nat) : Lifecycle :=
  if lifecycle = connecting attempt then idle else lifecycle

/-- Once a socket is gone, the link is idle again if the socket was its own. -/
def afterSocket (lifecycle : Lifecycle) (generation : Nat) : Lifecycle :=
  if lifecycle = opened generation then idle else lifecycle

end Lifecycle

end RemoteAgent
