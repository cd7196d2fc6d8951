import RemoteAgent.Frame.Kind
import RemoteAgent.Frame.Layout
import RemoteAgent.Payload

/-!
# Frames to the agent

The frames that the client writes, their octets, and how the agent reads them.
Numbers in headers have their least significant octet first.
-/

namespace RemoteAgent

/-- A frame to the agent. -/
inductive Outbound where
  /-- Octets for the terminal. -/
  | terminalInput (data : Bytes)
  /-- Opens the terminal. -/
  | openTerminal (options : TerminalOptions)
  /-- Closes the terminal. -/
  | closeTerminal
  /-- Resizes the terminal. -/
  | resizeTerminal (columns rows : UInt16)
  /-- Writes a chunk into a file, or cuts the file at the offset of an empty one. -/
  | writeChunk (path : String) (chunk : Chunk)
  /-- Asks for the metadata of a file. -/
  | queryFile (path : String)
  /-- Reads at most `maxLength` octets of a file. The offset has a sign on the wire. -/
  | readChunk (path : String) (offset : Int64) (maxLength : UInt64)
  deriving DecidableEq, Repr

namespace Outbound

/-- The kind of a frame. -/
def kind : Outbound → OutboundKind
  | terminalInput _ => .terminalInput
  | openTerminal _ => .openTerminal
  | closeTerminal => .closeTerminal
  | resizeTerminal _ _ => .resizeTerminal
  | writeChunk _ _ => .writeChunk
  | queryFile _ => .queryFile
  | readChunk _ _ _ => .readChunk

/-- The octets behind the tag. -/
def payload : Outbound → Bytes
  | terminalInput data => data
  | openTerminal options => options.encode
  | closeTerminal => []
  | resizeTerminal columns rows =>
    Bytes.littleEndian 2 columns.toNat ++ Bytes.littleEndian 2 rows.toNat
  | writeChunk path chunk =>
    Bytes.littleEndian 8 chunk.offset.toNat ++ Bytes.littleEndian 8 chunk.data.length ++
      Utf8.encode path ++ chunk.data
  | queryFile path => Utf8.encode path
  | readChunk path offset maxLength =>
    Bytes.littleEndian 8 offset.toUInt64.toNat ++ Bytes.littleEndian 8 maxLength.toNat ++
      Utf8.encode path

/-- The octets of a frame. -/
def encode (frame : Outbound) : Bytes := frame.kind.tag :: frame.payload

/-- Reads the payload of a frame of a kind. -/
def ofPayload (payload : Bytes) : OutboundKind → Except Failure Outbound
  | .terminalInput => .ok (terminalInput payload)
  | .openTerminal => do
    return openTerminal (← Layout.record (TerminalOptions.decode payload))
  | .closeTerminal => .ok closeTerminal
  | .resizeTerminal => do
    let (header, _) ←
      Layout.header OutboundKind.resizeTerminal.name (Layout.resizeFrameLength - 1) payload
    return resizeTerminal (UInt16.ofNat (Layout.field header 0 2))
      (UInt16.ofNat (Layout.field header 2 2))
  | .writeChunk => do
    let (header, body) ←
      Layout.header OutboundKind.writeChunk.name (Layout.chunkHeaderLength - 1) payload
    let (path, data) ← Layout.trailing OutboundKind.writeChunk.name (Layout.field header 8 8) body
    return writeChunk (← Layout.path path) ⟨UInt64.ofNat (Layout.field header 0 8), data⟩
  | .queryFile => do return queryFile (← Layout.path payload)
  | .readChunk => do
    let (header, path) ← Layout.header OutboundKind.readChunk.name 16 payload
    return readChunk (← Layout.path path) (UInt64.ofNat (Layout.field header 0 8)).toInt64
      (UInt64.ofNat (Layout.field header 8 8))

/-- Reads a frame as the agent does. -/
def decode (frame : Bytes) : Except Failure Outbound := do
  let (tag, payload) ← Layout.untag frame
  match OutboundKind.ofTag? tag with
  | some kind => ofPayload payload kind
  | none => .error (.protocol (.unknownTag tag))

theorem encode_head (frame : Outbound) : frame.encode.head? = some frame.kind.tag := rfl

end Outbound

end RemoteAgent
