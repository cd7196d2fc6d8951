import RemoteAgent.MessagePack.Fault
import RemoteAgent.RequestKey
import RemoteAgent.Url.Fault

/-!
# Failures

Every way in which an operation of the client can fail, with its cause, its wording and
the classes that callers ask about.
-/

namespace RemoteAgent

/-- Why a configuration is refused. -/
inductive ConfigFault where
  /-- No agent name, or an empty one. -/
  | agentMissing
  /-- No endpoint. -/
  | endpointMissing
  /-- No API key. -/
  | apiKeyMissing
  /-- The endpoint has another scheme than `ws` or `wss`. -/
  | schemeRefused (scheme : String)
  /-- Chunks of no octets. -/
  | chunkSizeZero
  /-- A timeout of no length. -/
  | timeoutZero
  /-- A cause given in words. -/
  | described (words : String)
  deriving DecidableEq, Repr

/-- The wording of a refused configuration. -/
def ConfigFault.message : ConfigFault → String
  | .agentMissing =>
    "Agent name is required. Use .agent() to set it.\n" ++
      "Example: AgentClient::builder().agent(\"build-box\")"
  | .endpointMissing =>
    "Endpoint is required. Use .endpoint() to set it.\n" ++
      "Example: AgentClient::builder().endpoint(\"wss://control.example.com\")"
  | .apiKeyMissing => "API key is required. Use .api_key() to set it."
  | .schemeRefused scheme => "Endpoint must use ws:// or wss://, got " ++ scheme ++ "://"
  | .chunkSizeZero => "Chunk size must be greater than zero."
  | .timeoutZero =>
    "Timeouts must be greater than zero. Use .request_timeout(None) to wait forever."
  | .described words => words

/-- Why the operating system refuses something. -/
inductive SystemFault where
  /-- Nothing of that name. -/
  | notFound
  /-- Not allowed. -/
  | permissionDenied
  /-- The end came too early. -/
  | unexpectedEnd
  /-- It took too long. -/
  | timedOut
  /-- Anything else. -/
  | other
  /-- The system has no file or directory of that name. -/
  | noSuchFile
  /-- The system has no route to the host. -/
  | networkUnreachable
  /-- Nothing listens at the address. -/
  | connectionRefused
  /-- A cause given in words. -/
  | described (words : String)
  deriving DecidableEq, Repr

/-- The wording of a system fault. -/
def SystemFault.message : SystemFault → String
  | .notFound => "entity not found"
  | .permissionDenied => "permission denied"
  | .unexpectedEnd => "unexpected end of file"
  | .timedOut => "timed out"
  | .other => "other error"
  | .noSuchFile => "No such file or directory (os error 2)"
  | .networkUnreachable => "Network is unreachable (os error 101)"
  | .connectionRefused => "Connection refused (os error 111)"
  | .described words => words

/-- Why a socket does not open. -/
inductive ConnectFault where
  /-- The system refuses the connection. -/
  | system (fault : SystemFault)
  /-- The server answers the handshake with another status. -/
  | refused (status : Nat)
  /-- The server goes away during the handshake. -/
  | unfinished
  /-- The caller closed the connection while it was opening. -/
  | abandoned
  /-- A cause given in words. -/
  | described (words : String)
  deriving DecidableEq, Repr

/-- The phrase that belongs to an HTTP status. -/
def statusPhrase : Nat → String
  | 301 => " Moved Permanently"
  | 400 => " Bad Request"
  | 401 => " Unauthorized"
  | 403 => " Forbidden"
  | 404 => " Not Found"
  | 500 => " Internal Server Error"
  | 503 => " Service Unavailable"
  | _ => ""

/-- The wording of a socket that does not open. -/
def ConnectFault.message : ConnectFault → String
  | .system fault => "IO error: " ++ fault.message
  | .refused status => "HTTP error: " ++ toString status ++ statusPhrase status
  | .unfinished => "WebSocket protocol error: Handshake not finished"
  | .abandoned => "closed while connecting"
  | .described words => words

/-- Why a frame, or a request for one, breaks the layout of frames. -/
inductive ProtocolFault where
  /-- A frame without a tag. -/
  | emptyFrame
  /-- A tag that no frame to the agent has. -/
  | unknownTag (tag : UInt8)
  /-- A frame of a kind with fewer octets behind the tag than its header needs. -/
  | truncated (kind : String) (needed available : Nat)
  /-- A frame of a kind whose data would be longer than what follows its header. -/
  | overlong (kind : String) (length available : Nat)
  /-- An offset that the frame for it cannot hold. -/
  | offsetOutOfRange (offset : UInt64)
  /-- A cause given in words. -/
  | described (words : String)
  deriving DecidableEq, Repr

/-- Two hexadecimal digits for an octet. -/
def hexOctet (octet : UInt8) : String :=
  String.ofList [Text.hexDigit (octet.toNat / 16), Text.hexDigit (octet.toNat % 16)]

/-- The wording of a broken layout. -/
def ProtocolFault.message : ProtocolFault → String
  | .emptyFrame => "empty frame"
  | .unknownTag tag => "unknown send tag 0x" ++ hexOctet tag
  | .truncated kind needed available =>
    kind ++ " frame truncated: need " ++ toString needed ++ " bytes after tag, have " ++
      toString available
  | .overlong kind length available =>
    kind ++ " payload length " ++ toString length ++ " exceeds " ++ toString available ++
      " remaining bytes"
  | .offsetOutOfRange offset => "offset " ++ toString offset.toNat ++ " out of range"
  | .described words => words

/-- Why the contents of a well laid out frame cannot be read. -/
inductive CodecFault where
  /-- The path is not UTF-8. -/
  | badPath (fault : Utf8.Fault)
  /-- A cause given in words. -/
  | described (words : String)
  deriving DecidableEq, Repr

/-- The wording of unreadable contents. -/
def CodecFault.message : CodecFault → String
  | .badPath fault => "path is not valid UTF-8: " ++ fault.message
  | .described words => words

/-- Why an operation fails. -/
inductive Failure where
  /-- The configuration is refused. -/
  | config (fault : ConfigFault)
  /-- The socket does not open. -/
  | connection (fault : ConnectFault)
  /-- The socket does not open in time. -/
  | connectionTimeout (milliseconds : Nat)
  /-- The socket closed while a request was outstanding. -/
  | connectionClosed
  /-- No socket is open. -/
  | notConnected
  /-- A layout is broken. -/
  | protocol (fault : ProtocolFault)
  /-- Contents cannot be read. -/
  | codec (fault : CodecFault)
  /-- No reply came in time. -/
  | requestTimeout (key : RequestKey) (milliseconds : Nat)
  /-- The operating system refuses something. -/
  | system (fault : SystemFault)
  /-- The endpoint is no URL. -/
  | url (fault : Url.Fault)
  /-- A payload is not the expected record. -/
  | payload (fault : MessagePack.Fault)
  deriving DecidableEq, Repr

namespace Failure

/-- The wording of a failure. -/
def message : Failure → String
  | config fault => "Configuration error: " ++ fault.message
  | connection fault => "Connection failed: " ++ fault.message
  | connectionTimeout milliseconds =>
    "Connection timeout after " ++ toString milliseconds ++ "ms"
  | connectionClosed => "Connection closed"
  | notConnected => "Not connected"
  | protocol fault => "Protocol error: " ++ fault.message
  | codec fault => "Codec error: " ++ fault.message
  | requestTimeout key milliseconds =>
    "Request " ++ key.text ++ " timed out after " ++ toString milliseconds ++ "ms"
  | system fault => "IO error: " ++ fault.message
  | url fault => "URL error: " ++ fault.message
  | payload fault => "MessagePack decode error: " ++ fault.message

/-- Something took too long. -/
def isTimeout : Failure → Bool
  | connectionTimeout _ | requestTimeout _ _ => true
  | _ => false

/-- The socket did not open, or is not open any more. -/
def isConnectionError : Failure → Bool
  | connection _ | connectionTimeout _ | connectionClosed | notConnected => true
  | _ => false

/-- Octets could not be understood. -/
def isProtocolError : Failure → Bool
  | protocol _ | codec _ | payload _ => true
  | _ => false

/-- Another attempt, or another connection, may succeed. -/
def isRecoverable : Failure → Bool
  | connectionTimeout _ | requestTimeout _ _ | connectionClosed | notConnected => true
  | _ => false

end Failure

end RemoteAgent
