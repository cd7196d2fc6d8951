import RemoteAgent.Proofs.MessagePack.Records
import RemoteAgent.Request.Reply

/-!
# Frames for files come back

The agent reads the request for a file as it was written (`Outbound.decode_encode_of_key`), and the
client reads a piece of a file as the agent wrote it (`Inbound.decode_encode_fileChunk`). The
lengths of data have eight octets on the wire, so that this takes data of a length that fits.
-/

namespace RemoteAgent

namespace Layout

theorem header_append (kind : String) {needed : Nat} {first : Bytes} (rest : Bytes)
    (enough : first.length = needed) : header kind needed (first ++ rest) = .ok (first, rest) := by
  simp [header, Bytes.split_append enough]

theorem trailing_append (kind : String) (front data : Bytes) :
    trailing kind data.length (front ++ data) = .ok (front, data) := by
  simp [trailing]

theorem path_encode (text : String) : path (Utf8.encode text) = .ok text := by
  simp [path, Utf8.decode_encode]

/-- A number at the front of a header reads back. -/
theorem field_front {width value : Nat} (rest : Bytes) (fits : value < Bytes.span width) :
    field (Bytes.littleEndian width value ++ rest) 0 width = value := by
  have front : (Bytes.littleEndian width value ++ rest).take width =
      Bytes.littleEndian width value :=
    List.take_left' (Bytes.length_littleEndian width value)
  rw [field, List.drop_zero, front, Bytes.ofLittleEndian_littleEndian fits]

/-- A number behind another one reads back. -/
theorem field_behind {width other value : Nat} (first : Nat) (fits : value < Bytes.span width) :
    field (Bytes.littleEndian other first ++ Bytes.littleEndian width value) other width =
      value := by
  have behind : (Bytes.littleEndian other first ++ Bytes.littleEndian width value).drop other =
      Bytes.littleEndian width value :=
    List.drop_left' (Bytes.length_littleEndian other first)
  have whole := Bytes.length_littleEndian width value
  rw [field, behind, List.take_of_length_le (Nat.le_of_eq whole),
    Bytes.ofLittleEndian_littleEndian fits]

/-- Eight octets hold a word. -/
theorem toNat_lt_span (word : UInt64) : word.toNat < Bytes.span 8 := word.toNat_lt

/-- A chunk of a file reads back, in a frame of either direction. -/
theorem chunk_encode {α : Type} (kind path : String) {chunk : Chunk}
    (fits : chunk.data.length < Bytes.span 8) (frame : String → Chunk → α) :
    (do
      let (header, body) ← Layout.header kind 16
        (Bytes.littleEndian 8 chunk.offset.toNat ++ Bytes.littleEndian 8 chunk.data.length ++
          Utf8.encode path ++ chunk.data)
      let (path, data) ← Layout.trailing kind (Layout.field header 8 8) body
      return frame (← Layout.path path) ⟨UInt64.ofNat (Layout.field header 0 8), data⟩) =
      Except.ok (frame path chunk) := by
  have length : (Bytes.littleEndian 8 chunk.offset.toNat ++
      Bytes.littleEndian 8 chunk.data.length).length = 16 := by simp
  simp only [List.append_assoc _ (Utf8.encode path), header_append kind _ length, bind, Except.bind,
    field_behind _ fits, trailing_append, path_encode, field_front _ (toNat_lt_span _),
    UInt64.ofNat_toNat]
  rfl

end Layout

/-- To read a frame is to read its payload. -/
theorem Outbound.decode_cons (kind : OutboundKind) (payload : Bytes) :
    Outbound.decode (kind.tag :: payload) = Outbound.ofPayload payload kind := by
  have known : OutboundKind.ofTag? kind.tag = some kind := OutboundKind.ofTag?_eq_some_iff.mpr rfl
  simp only [decode, Layout.untag, bind, Except.bind, known]

/-- To read a frame is to read its payload. -/
theorem Inbound.decode_cons (kind : InboundKind) (payload : Bytes) :
    Inbound.decode (kind.tag :: payload) = Inbound.ofPayload payload kind := by
  have known : InboundKind.ofTag? kind.tag = some kind := InboundKind.ofTag?_eq_some_iff.mpr rfl
  simp only [decode, Layout.untag, bind, Except.bind, known]

/-- The agent reads a query for metadata as it was written. -/
theorem Outbound.decode_encode_queryFile (path : String) :
    Outbound.decode (Outbound.queryFile path).encode = .ok (.queryFile path) := by
  rw [encode, decode_cons]
  simp only [payload, kind, ofPayload, Layout.path_encode]
  rfl

/-- The agent reads the request for a piece of a file as it was written. -/
theorem Outbound.decode_encode_readChunk (path : String) (offset : Int64) (size : UInt64) :
    Outbound.decode (Outbound.readChunk path offset size).encode =
      .ok (.readChunk path offset size) := by
  have header := Layout.header_append OutboundKind.readChunk.name (Utf8.encode path)
    (show (Bytes.littleEndian 8 offset.toUInt64.toNat ++
      Bytes.littleEndian 8 size.toNat).length = 16 by simp)
  rw [encode, decode_cons]
  simp only [payload, kind, ofPayload, header]
  change (Layout.path (Utf8.encode path) >>= fun path => _) = _
  rw [Layout.path_encode, Layout.field_front _ (Layout.toNat_lt_span _),
    Layout.field_behind _ (Layout.toNat_lt_span _), UInt64.ofNat_toNat, UInt64.ofNat_toNat,
    Int64.toInt64_toUInt64]
  rfl

/-- The agent reads a write, or a cut, as it was written. -/
theorem Outbound.decode_encode_writeChunk (path : String) {chunk : Chunk}
    (fits : chunk.data.length < Bytes.span 8) :
    Outbound.decode (Outbound.writeChunk path chunk).encode = .ok (.writeChunk path chunk) := by
  rw [encode, kind, decode_cons]
  exact Layout.chunk_encode OutboundKind.writeChunk.name path fits writeChunk

/-- The agent reads the request for a file as it was written. -/
theorem Outbound.decode_encode_of_key {frame : Outbound} {key : RequestKey}
    (named : frame.key? = some key) (fits : frame.encode.length < Bytes.span 8) :
    Outbound.decode frame.encode = .ok frame := by
  cases frame with
  | queryFile path => exact decode_encode_queryFile path
  | readChunk path offset size => exact decode_encode_readChunk path offset size
  | writeChunk path chunk =>
    refine decode_encode_writeChunk path ?_
    simp only [encode, payload, List.length_cons, List.length_append] at fits
    omega
  | _ => cases named

/-- The client reads a piece of a file as the agent wrote it. -/
theorem Inbound.decode_encode_fileChunk (path : String) {chunk : Chunk}
    (fits : chunk.data.length < Bytes.span 8) :
    Inbound.decode (Inbound.fileChunk path chunk).encode = .ok (.fileChunk path chunk) := by
  rw [encode, tag, decode_cons]
  exact Layout.chunk_encode InboundKind.fileChunk.name path fits fileChunk

/-- The client reads an acknowledgement as the agent wrote it. -/
theorem Inbound.decode_encode_fileWritten (path : String) (offset : UInt64) :
    Inbound.decode (Inbound.fileWritten path offset).encode = .ok (.fileWritten path offset) := by
  have header := Layout.header_append InboundKind.fileWritten.name (Utf8.encode path)
    (Bytes.length_littleEndian 8 offset.toNat)
  have field : Layout.field (Bytes.littleEndian 8 offset.toNat) 0 8 = offset.toNat := by
    have front := Layout.field_front [] (Layout.toNat_lt_span offset)
    rwa [List.append_nil] at front
  rw [encode, tag, decode_cons]
  simp only [payload, ofPayload, header]
  change (Layout.path (Utf8.encode path) >>= fun path => _) = _
  rw [Layout.path_encode, field, UInt64.ofNat_toNat]
  rfl

/-- Metadata read as they were written. -/
theorem FileInfo.decode_encode {info : FileInfo}
    (fits : (Utf8.encode info.path).length < Bytes.span 4) : FileInfo.decode info.encode = .ok info := by
  have distinct : (FileInfo.fields.map MessagePack.Field.name).Nodup := by decide
  have named : ∀ field ∈ FileInfo.fields, (Utf8.encode field.name).length < Bytes.span 4 := by decide
  have read := @MessagePack.Shape.decode_encode FileInfo.shape distinct named (by decide)
    (info.path, info.size, info.mode, info.modifiedAt, ()) ⟨fits, trivial, trivial, trivial, trivial⟩
  rw [FileInfo.decode, FileInfo.encode, read]

/-- The client reads metadata as the agent wrote them. -/
theorem Inbound.decode_encode_fileInfo {info : FileInfo}
    (fits : (Utf8.encode info.path).length < Bytes.span 4) :
    Inbound.decode (Inbound.fileInfo info).encode = .ok (.fileInfo info) := by
  rw [encode, tag, decode_cons]
  simp only [payload, ofPayload, FileInfo.decode_encode fits]
  rfl

end RemoteAgent
