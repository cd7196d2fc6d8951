import RemoteAgent.Frame.Inbound
import RemoteAgent.Frame.Outbound
import RemoteAgent.RequestKey

/-!
# Requests for files and their replies

A request for a file is a frame with the key that its reply will have. Three of the frames
from the agent are replies. `reply?_eq_some_key_kind` says that the key of a reply tells
what the reply holds, `read_eq_ok_awaits` that a read waits for what its key tells, and
`read_eq_ok_key` that its frame names that key.
-/

namespace RemoteAgent

/-- What a reply holds. -/
inductive Reply where
  /-- The metadata of a file. -/
  | info (info : FileInfo)
  /-- A piece of a file. -/
  | chunk (chunk : Chunk)
  /-- Nothing; the write is done. -/
  | written
  deriving DecidableEq, Repr

/-- The kinds of replies. -/
inductive Reply.Kind where
  | info
  | chunk
  | written
  deriving DecidableEq, Repr

/-- The kind of a reply. -/
def Reply.kind : Reply → Reply.Kind
  | .info _ => .info
  | .chunk _ => .chunk
  | .written => .written

/-- The kind of the replies under a key. -/
def RequestKey.replyKind : RequestKey → Reply.Kind
  | .info _ => .info
  | .read _ _ => .chunk
  | .write _ _ => .written

/-- The reply that a frame is, under its key. -/
def Inbound.reply? : Inbound → Option (RequestKey × Reply)
  | .fileInfo info => some (.info info.path, .info info)
  | .fileChunk path chunk => some (.read path chunk.offset, .chunk chunk)
  | .fileWritten path offset => some (.write path offset, .written)
  | _ => none

/-- The key of the replies to a frame, if it is a request for a file. -/
def Outbound.key? : Outbound → Option RequestKey
  | .queryFile path => some (.info path)
  | .readChunk path offset _ => some (.read path offset.toUInt64)
  | .writeChunk path chunk => some (.write path chunk.offset)
  | _ => none

/-- A request that is to be made. -/
structure Want where
  key : RequestKey
  frame : Outbound
  /-- The kind of reply that the caller can use. -/
  awaits : Reply.Kind
  deriving DecidableEq, Repr

namespace Want

/-- Asks for the metadata of a file. -/
def info (path : String) : Want := ⟨.info path, .queryFile path, .info⟩

/-- Asks for at most `size` octets of a file. Offsets have a sign on the wire, so the upper
half of them cannot be asked for. -/
def read (path : String) (offset size : UInt64) : Except Failure Want :=
  if offset.toNat < 0x8000000000000000 then
    .ok ⟨.read path offset, .readChunk path offset.toInt64 size, .chunk⟩
  else .error (.protocol (.offsetOutOfRange offset))

/-- Writes a chunk into a file, or cuts the file at the offset of an empty one. -/
def write (path : String) (chunk : Chunk) : Want :=
  ⟨.write path chunk.offset, .writeChunk path chunk, .written⟩

end Want

theorem Inbound.reply?_eq_some_key_kind {frame : Inbound} {key : RequestKey} {reply : Reply}
    (found : frame.reply? = some (key, reply)) : reply.kind = key.replyKind := by
  cases frame <;> simp only [Inbound.reply?, Option.some.injEq, Prod.mk.injEq, reduceCtorEq]
    at found <;> obtain ⟨rfl, rfl⟩ := found <;> rfl

/-- An offset that can be asked for stands on the wire as it is. -/
theorem Want.toInt_offset {offset : UInt64} (small : offset.toNat < 0x8000000000000000) :
    offset.toInt64.toInt = offset.toNat :=
  BitVec.toInt_eq_toNat_of_lt (by change 2 * offset.toNat < 2 ^ 64; omega)

theorem Want.read_eq_ok_awaits {path : String} {offset size : UInt64} {want : Want}
    (made : Want.read path offset size = .ok want) : want.awaits = want.key.replyKind := by
  unfold Want.read at made
  split at made
  · cases made; rfl
  · cases made

/-- A read names its path and its offset on the wire. -/
theorem Want.read_eq_ok_key {path : String} {offset size : UInt64} {want : Want}
    (made : Want.read path offset size = .ok want) : want.frame.key? = some want.key := by
  unfold Want.read at made
  split at made
  · cases made
    simp [Outbound.key?]
  · cases made

end RemoteAgent
