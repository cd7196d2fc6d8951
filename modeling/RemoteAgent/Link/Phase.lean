/-!
# Phases of a link

What callers see of the link to the agent at any moment.
-/

namespace RemoteAgent

/-- The phase a link is in. -/
inductive Phase where
  /-- No socket; connecting opens one. -/
  | idle
  /-- A socket is being opened. -/
  | connecting
  /-- A socket is open. -/
  | opened
  /-- Closed by the caller. -/
  | closed
  deriving DecidableEq, Repr

namespace Phase

/-- The word for a phase. -/
def word : Phase → String
  | idle => "idle"
  | connecting => "connecting"
  | opened => "open"
  | closed => "closed"

/-- The word for a phase as a name. -/
def title : Phase → String
  | idle => "Idle"
  | connecting => "Connecting"
  | opened => "Open"
  | closed => "Closed"

end Phase

end RemoteAgent
