import RemoteAgent.Frame.Kind
import RemoteAgent.Frame.Layout
import RemoteAgent.Payload

/-!
# Frames from the agent

The frames that the client reads, and how the agent writes them. A tag without a kind is
no fault: such a frame is kept as it is.
-/

namespace RemoteAgent

/-- A frame from the agent. -/
inductive Inbound where
  /-- Output of the terminal. -/
  | terminalOutput (data : Bytes)
  /-- The terminal is open. -/
  | terminalOpened
  /-- The terminal is closed. -/
  | terminalClosed
  /-- The write or the cut at `offset` is done. -/
  | fileWritten (path : String) (offset : UInt64)
  /-- Metadata of a file. -/
  | fileInfo (info : FileInfo)
  /-- Contents of a file; an empty chunk is its end. -/
  | fileChunk (path : String) (chunk : Chunk)
  /-- Diagnostic text. -/
  | log (text : String)
  /-- A frame whose tag has no kind. -/
  | unknown (tag : UInt8) (payload : Bytes)
  deriving DecidableEq, Repr

namespace Inbound

/-- The tag of a frame. -/
def tag : Inbound → UInt8
  | terminalOutput _ => InboundKind.terminalOutput.tag
  | terminalOpened => InboundKind.terminalOpened.tag
  | terminalClosed => InboundKind.terminalClosed.tag
  | fileWritten _ _ => InboundKind.fileWritten.tag
  | fileInfo _ => InboundKind.fileInfo.tag
  | fileChunk _ _ => InboundKind.fileChunk.tag
  | log _ => InboundKind.log.tag
  | unknown tag _ => tag

/-- The octets behind the tag. -/
def payload : Inbound → Bytes
  | terminalOutput data => data
  | terminalOpened => []
  | terminalClosed => []
  | fileWritten path offset => Bytes.littleEndian 8 offset.toNat ++ Utf8.encode path
  | fileInfo info => info.encode
  | fileChunk path chunk =>
    Bytes.littleEndian 8 chunk.offset.toNat ++ Bytes.littleEndian 8 chunk.data.length ++
      Utf8.encode path ++ chunk.data
  | log text => Utf8.encode text
  | unknown _ payload => payload

/-- The octets of a frame. -/
def encode (frame : Inbound) : Bytes := frame.tag :: frame.payload

/-- Reads the payload of a frame of a kind. -/
def ofPayload (payload : Bytes) : InboundKind → Except Failure Inbound
  | .terminalOutput => .ok (terminalOutput payload)
  | .terminalOpened => .ok terminalOpened
  | .terminalClosed => .ok terminalClosed
  | .fileWritten => do
    let (header, path) ← Layout.header InboundKind.fileWritten.name 8 payload
    return fileWritten (← Layout.path path) (UInt64.ofNat (Layout.field header 0 8))
  | .fileInfo => do return fileInfo (← Layout.record (FileInfo.decode payload))
  | .fileChunk => do
    let (header, body) ←
      Layout.header InboundKind.fileChunk.name (Layout.chunkHeaderLength - 1) payload
    let (path, data) ← Layout.trailing InboundKind.fileChunk.name (Layout.field header 8 8) body
    return fileChunk (← Layout.path path) ⟨UInt64.ofNat (Layout.field header 0 8), data⟩
  | .log => .ok (log (Utf8.decodeLossy payload))

/-- Reads a frame. -/
def decode (frame : Bytes) : Except Failure Inbound := do
  let (tag, payload) ← Layout.untag frame
  match InboundKind.ofTag? tag with
  | some kind => ofPayload payload kind
  | none => .ok (unknown tag payload)

theorem encode_head (frame : Inbound) : frame.encode.head? = some frame.tag := rfl

end Inbound

end RemoteAgent
