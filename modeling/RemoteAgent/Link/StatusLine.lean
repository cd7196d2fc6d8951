import RemoteAgent.Text.Utf8

/-!
# Status lines

Notices that the connection writes to the attached terminal, each on a line of its own and
behind the name of the agent in colour.
-/

namespace RemoteAgent

/-- A notice for the terminal. -/
inductive StatusLine where
  /-- The socket is open. -/
  | connected
  /-- The socket is gone. -/
  | connectionClosed
  /-- The agent has opened the terminal. -/
  | terminalOpened
  /-- The agent has closed the terminal. -/
  | terminalClosed
  deriving DecidableEq, Repr

namespace StatusLine

/-- The colour of the agent's name: green for what opens, red for what closes. -/
def colour : StatusLine → Nat
  | connected | terminalOpened => 32
  | connectionClosed | terminalClosed => 31

/-- The wording of a notice. -/
def words : StatusLine → String
  | connected => "Connected"
  | connectionClosed => "Connection Closed"
  | terminalOpened => "Pty Opened"
  | terminalClosed => "Pty Closed, connection intact."

/-- The line about an agent, with the control sequences of the terminal. -/
def text (line : StatusLine) (agent : String) : String :=
  "\x1b[1;3;" ++ toString line.colour ++ "m[" ++ agent ++ "]\x1b[0m " ++ line.words ++ "\r\n"

/-- The octets of the line. -/
def octets (line : StatusLine) (agent : String) : Bytes := Utf8.encode (line.text agent)

end StatusLine

end RemoteAgent
