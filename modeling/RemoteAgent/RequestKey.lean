import RemoteAgent.Bytes

/-!
# Request keys

Replies carry no number. A reply is matched to its request by the operation, the path and
the offset that both of them name, which together are the key of the request.
-/

namespace RemoteAgent

/-- What a file request and its reply agree on. -/
inductive RequestKey where
  /-- The query for the metadata of a file. -/
  | info (path : String)
  /-- The reading of a file at an offset. -/
  | read (path : String) (offset : UInt64)
  /-- The writing of a file at an offset. -/
  | write (path : String) (offset : UInt64)
  deriving DecidableEq, Repr

namespace RequestKey

/-- The path a key names. -/
def path : RequestKey → String
  | info path => path
  | read path _ => path
  | write path _ => path

/-- The form in which diagnostics name a key. -/
def text : RequestKey → String
  | info path => "getFileInfo:" ++ path
  | read path offset => "downloadFileChunk:" ++ path ++ ":" ++ toString offset.toNat
  | write path offset => "uploadFileChunk:" ++ toString offset.toNat ++ ":" ++ path

end RequestKey

end RemoteAgent
