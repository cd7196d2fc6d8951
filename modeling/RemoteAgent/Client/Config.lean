import RemoteAgent.AgentId
import RemoteAgent.Duration
import RemoteAgent.Failure
import RemoteAgent.Url.Basic

/-!
# Configuration

A configuration is put together field by field as a draft, and checked as a whole. The
checks run in a fixed order, and the first one that fails is reported. A checked
configuration holds the URL of the socket: the endpoint, a path that names the agent, and
a query with the credentials.
-/

namespace RemoteAgent

/-- The size of the pieces in which files travel, unless another one is set. -/
def defaultChunkSize : UInt64 := 40960

/-- How long a request may wait for its reply, unless another time is set. -/
def defaultRequestTimeout : Duration := .ofSeconds 30

/-- How long a socket may take to open, unless another time is set. -/
def defaultConnectTimeout : Duration := .ofSeconds 30

/-- The name under which diagnostic texts of the agent are logged. -/
def agentLogTarget : String := "agent_link::agent"

/-- A checked configuration. -/
structure Config where
  /-- The URL of the socket with the credentials. -/
  url : Url
  agent : String
  agentId : Option AgentId
  connectTimeout : Duration
  /-- How long a request may wait for its reply, if not for ever. -/
  requestTimeout : Option Duration
  chunkSize : UInt64
  deriving DecidableEq, Repr

/-- A configuration that is being put together. -/
structure Draft where
  endpoint : Option String := none
  apiKey : Option String := none
  agent : Option String := none
  agentId : Option AgentId := none
  connectTimeout : Duration := defaultConnectTimeout
  requestTimeout : Option Duration := some defaultRequestTimeout
  chunkSize : UInt64 := defaultChunkSize
  deriving DecidableEq, Repr

namespace Draft

/-- The names and values that a socket URL asks with. -/
def credentials (apiKey : String) (agentId : Option AgentId) : List (String × String) :=
  ("api_key", apiKey) :: match agentId with
    | none => []
    | some id => [("agent_id", id.text)]

/-- The path of the socket of an agent, below the path of the endpoint. -/
def socketPath (base : Url.Path) (agent : String) : Url.Path :=
  ["api", "agent", agent, "omni", ""].foldl Url.Path.push base.withoutSlash

/-- The URL of the socket. -/
def socketUrl (draft : Draft) (idna : Url.Idna) (agent : String) : Except Failure Url :=
  match draft.endpoint, draft.apiKey with
  | none, _ => .error (.config .endpointMissing)
  | some _, none => .error (.config .apiKeyMissing)
  | some endpoint, some apiKey =>
    match Url.parse idna endpoint with
    | .error fault => .error (.url fault)
    | .ok (.other scheme) => .error (.config (.schemeRefused scheme))
    | .ok (.web url) =>
      if url.scheme = "ws" || url.scheme = "wss" then
        .ok { url with
          path := socketPath url.path agent
          query := some (Url.Form.encode (credentials apiKey draft.agentId)) }
      else .error (.config (.schemeRefused url.scheme))

/-- The name of the agent. -/
def agentName (draft : Draft) : Except Failure String :=
  match draft.agent with
  | none => .error (.config .agentMissing)
  | some agent => if agent.isEmpty then .error (.config .agentMissing) else .ok agent

/-- Checks a configuration. -/
def check (draft : Draft) (idna : Url.Idna) : Except Failure Config := do
  let agent ← draft.agentName
  let url ← draft.socketUrl idna agent
  if draft.chunkSize = 0 then .error (.config .chunkSizeZero)
  else if draft.connectTimeout.nanoseconds = 0 ||
      draft.requestTimeout.any (·.nanoseconds = 0) then .error (.config .timeoutZero)
  else
    return { url, agent, agentId := draft.agentId, connectTimeout := draft.connectTimeout,
             requestTimeout := draft.requestTimeout, chunkSize := draft.chunkSize }

end Draft

end RemoteAgent
