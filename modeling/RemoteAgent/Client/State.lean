import RemoteAgent.Client.Config
import RemoteAgent.Client.Event
import RemoteAgent.Link.Basic
import RemoteAgent.Link.StatusLine
import RemoteAgent.Request.Basic

/-!
# The state of a client

A client joins a link, a chain of handlers, at most one terminal, and the requests and
calls under way. Every change to it is made by one of the small steps of the modules
beside this one, and what can be seen of a step is added to the trace.
-/

namespace RemoteAgent

/-- A file operation under way. -/
structure Call where
  number : Nat
  transfer : Transfer
  /-- How long each of its requests may wait for a reply. -/
  limit : Option Duration
  /-- What it has reported so far. -/
  progress : List Progress
  /-- The request that it waits for. -/
  request : Nat
  deriving DecidableEq, Repr

/-- A client. -/
structure Client where
  config : Config
  /-- Nanoseconds that have passed. -/
  clock : Nat := 0
  link : Link := {}
  /-- The handlers in the order of their registration. -/
  handlers : List Handler := [.fileService]
  /-- The terminal that is attached. -/
  terminal : Option String := none
  requests : Requests := {}
  calls : List Call := []
  /-- The number of calls so far. -/
  called : Nat := 0
  /-- Somebody still holds the client. -/
  isHeld : Bool := true
  /-- What the client has done, the last thing first. -/
  trace : List Event := []

namespace Client

/-- Records what the client has done. -/
def note (client : Client) (event : Event) : Client :=
  { client with trace := event :: client.trace }

/-- Records several things in order. -/
def noteAll (client : Client) (events : List Event) : Client := events.foldl note client

/-- The phase that callers see. -/
def phase (client : Client) : Phase := client.link.lifecycle.phase

/-- Writes to the terminal, if one is attached. -/
def write (client : Client) (data : Bytes) : Client :=
  match client.terminal with
  | none => client
  | some terminal => client.note (.wrote terminal data)

/-- Writes a notice to the terminal. -/
def announce (client : Client) (line : StatusLine) : Client :=
  client.write (line.octets client.config.agent)

/-- Attaches a terminal, or detaches the one that is attached. -/
def attachTerminal (client : Client) (terminal : Option String) : Client :=
  { client with terminal }

/-- Adds a handler to the end of the chain. -/
def register (client : Client) (handler : Handler) : Client :=
  { client with handlers := client.handlers ++ [handler] }

/-- Time passes. -/
def wait (client : Client) (time : Duration) : Client :=
  { client with clock := client.clock + time.nanoseconds }

@[simp] theorem note_requests (client : Client) (event : Event) :
    (client.note event).requests = client.requests := rfl

@[simp] theorem note_link (client : Client) (event : Event) :
    (client.note event).link = client.link := rfl

@[simp] theorem write_requests (client : Client) (data : Bytes) :
    (client.write data).requests = client.requests := by
  unfold write; split <;> rfl

@[simp] theorem write_link (client : Client) (data : Bytes) :
    (client.write data).link = client.link := by
  unfold write; split <;> rfl

end Client

end RemoteAgent
