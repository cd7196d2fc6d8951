import RemoteAgent.Client.Config
import RemoteAgent.Link.Phase
import RemoteAgent.Text.Quoted

/-!
# Descriptions for diagnostics

Drafts, clients and their services describe themselves by their fields. The API key is in
no description: a draft only tells whether one is set, and a connection shows its URL
without the query.
-/

namespace RemoteAgent

namespace Describe

/-- A named value with its fields; `isPartial` when there are more of them. -/
def record (name : String) (fields : List (String × String)) (isPartial : Bool) : String :=
  let shown := fields.map fun field => field.1 ++ ": " ++ field.2
  let listed := if isPartial then shown ++ [".."] else shown
  name ++ " \x7b " ++ ", ".intercalate listed ++ " \x7d"

/-- A value that may be absent. -/
def optional {α : Type} (text : α → String) : Option α → String
  | none => "None"
  | some value => "Some(" ++ text value ++ ")"

/-- An agent number. -/
def agentId (id : AgentId) : String := "AgentId(" ++ id.text ++ ")"

/-- A client in a phase. -/
def client (config : Config) (phase : Phase) : String :=
  record "AgentClient"
    [("agent", Text.quoted config.agent), ("agent_id", optional agentId config.agentId),
      ("state", phase.title)] true

/-- A connection in a phase. -/
def connection (config : Config) (phase : Phase) : String :=
  record "Connection"
    [("endpoint", Text.quoted config.url.redacted), ("agent", Text.quoted config.agent),
      ("state", phase.word)] true

/-- A file service with so many requests in flight. -/
def fileService (config : Config) (pending : Nat) : String :=
  record "FileTransfer"
    [("chunk_size", toString config.chunkSize.toNat),
      ("request_timeout", optional Duration.text config.requestTimeout),
      ("pending", toString pending)] false

/-- A terminal. -/
def terminal (config : Config) : String :=
  record "Pty" [("agent", Text.quoted config.agent)] true

/-- A draft. -/
def draft (value : Draft) : String :=
  record "AgentClientBuilder"
    [("endpoint", optional Text.quoted value.endpoint),
      ("api_key", optional (fun _ => Text.quoted "<redacted>") value.apiKey),
      ("agent", optional Text.quoted value.agent),
      ("agent_id", optional agentId value.agentId),
      ("connect_timeout", value.connectTimeout.text),
      ("request_timeout", optional Duration.text value.requestTimeout),
      ("chunk_size", toString value.chunkSize.toNat)] false

end Describe

end RemoteAgent
