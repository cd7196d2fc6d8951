import RemoteAgent.Proofs.Frame.Grammar

/-!
# The grammar of frames from the agent

What octets are, as frames from the agent (`Inbound.Spells`, `Inbound.Misshapen`,
`Inbound.Illegible`, `Inbound.Garbled`), what the client makes of each class, and that every octets
are in one (`Inbound.decides`).
-/

namespace RemoteAgent

/-- How many octets of numbers stand in front of what else is in a payload. -/
def InboundKind.headerLength : InboundKind → Nat
  | fileWritten => 8
  | fileChunk => 16
  | _ => 0

namespace Inbound

/-- Octets spell a frame from the agent. -/
inductive Spells : Bytes → Inbound → Prop
  | terminalOutput (data : Bytes) :
    Spells (InboundKind.terminalOutput.tag :: data) (.terminalOutput data)
  | terminalOpened (ignored : Bytes) :
    Spells (InboundKind.terminalOpened.tag :: ignored) .terminalOpened
  | terminalClosed (ignored : Bytes) :
    Spells (InboundKind.terminalClosed.tag :: ignored) .terminalClosed
  | fileWritten {offset : Bytes} (path : String) (wholeOffset : offset.length = 8) :
    Spells (InboundKind.fileWritten.tag :: (offset ++ Utf8.encode path))
      (.fileWritten path (UInt64.ofNat (Bytes.ofLittleEndian offset)))
  | fileInfo {payload : Bytes} {info : FileInfo} (read : FileInfo.decode payload = .ok info) :
    Spells (InboundKind.fileInfo.tag :: payload) (.fileInfo info)
  | fileChunk {offset length data : Bytes} (path : String) (wholeOffset : offset.length = 8)
    (wholeLength : length.length = 8) (counted : Bytes.ofLittleEndian length = data.length) :
    Spells (InboundKind.fileChunk.tag :: (offset ++ length ++ Utf8.encode path ++ data))
      (.fileChunk path ⟨UInt64.ofNat (Bytes.ofLittleEndian offset), data⟩)
  | log (payload : Bytes) :
    Spells (InboundKind.log.tag :: payload) (.log (Utf8.decodeLossy payload))
  | unknown {tag : UInt8} (payload : Bytes) (noKind : InboundKind.ofTag? tag = none) :
    Spells (tag :: payload) (.unknown tag payload)

/-- The layout of octets from the agent is broken. -/
inductive Misshapen : Bytes → ProtocolFault → Prop
  | empty : Misshapen [] .emptyFrame
  | truncated {kind : InboundKind} {payload : Bytes} (short : payload.length < kind.headerLength) :
    Misshapen (kind.tag :: payload) (.truncated kind.name kind.headerLength payload.length)
  | overlong {offset length body : Bytes} (wholeOffset : offset.length = 8)
    (wholeLength : length.length = 8) (exceeds : body.length < Bytes.ofLittleEndian length) :
    Misshapen (InboundKind.fileChunk.tag :: (offset ++ length ++ body))
      (.overlong InboundKind.fileChunk.name (Bytes.ofLittleEndian length) body.length)

/-- The path of a frame from the agent is no text. -/
inductive Illegible : (frame path : Bytes) → Prop
  | fileWritten {offset path : Bytes} (wholeOffset : offset.length = 8)
    (noText : ¬ Utf8.IsText path) :
    Illegible (InboundKind.fileWritten.tag :: (offset ++ path)) path
  | fileChunk {offset length path data : Bytes} (wholeOffset : offset.length = 8)
    (wholeLength : length.length = 8) (counted : Bytes.ofLittleEndian length = data.length)
    (noText : ¬ Utf8.IsText path) :
    Illegible (InboundKind.fileChunk.tag :: (offset ++ length ++ path ++ data)) path

/-- The metadata in a frame from the agent are refused. -/
inductive Garbled : Bytes → MessagePack.Fault → Prop
  | fileInfo {payload : Bytes} {fault : MessagePack.Fault}
    (refused : FileInfo.decode payload = .error fault) :
    Garbled (InboundKind.fileInfo.tag :: payload) fault

/-- What octets are, as frames from the agent. -/
def grammar : Grammar Inbound := ⟨Spells, Misshapen, Illegible, Garbled⟩

/-- With the whole offset there, reading an acknowledgement comes down to reading the path. -/
theorem decode_fileWritten {offset : Bytes} (wholeOffset : offset.length = 8) (path : Bytes) :
    decode (InboundKind.fileWritten.tag :: (offset ++ path)) =
      (do return fileWritten (← Layout.path path) (UInt64.ofNat (Bytes.ofLittleEndian offset))) := by
  have field := Layout.field_first wholeOffset []
  rw [List.append_nil] at field
  rw [decode_cons, ofPayload, Layout.header_append _ _ wholeOffset]
  simp only [bind, Except.bind, field]

theorem decode_fileChunk (payload : Bytes) :
    decode (InboundKind.fileChunk.tag :: payload) =
      Layout.chunk InboundKind.fileChunk.name fileChunk payload :=
  decode_cons _ _

theorem decode_fileInfo (payload : Bytes) :
    decode (InboundKind.fileInfo.tag :: payload) =
      (do return fileInfo (← Layout.record (FileInfo.decode payload))) :=
  decode_cons _ _

/-- Octets that spell a frame are read as that frame. -/
theorem decode_of_spells {octets : Bytes} {frame : Inbound} (spells : Spells octets frame) :
    decode octets = .ok frame := by
  cases spells with
  | terminalOutput data => exact decode_cons _ _
  | terminalOpened ignored => exact decode_cons _ _
  | terminalClosed ignored => exact decode_cons _ _
  | fileWritten path wholeOffset =>
    rw [decode_fileWritten wholeOffset, Layout.path_encode]
    rfl
  | fileInfo read =>
    rw [decode_fileInfo, read]
    rfl
  | fileChunk path wholeOffset wholeLength counted =>
    rw [decode_fileChunk, Layout.chunk_of_parts _ _ wholeOffset wholeLength counted,
      Layout.path_encode]
    rfl
  | log payload => exact decode_cons _ _
  | unknown payload noKind => simp only [decode, Layout.untag, bind, Except.bind, noKind]

/-- A payload that is too short for its numbers is refused for what it lacks. -/
theorem decode_of_short {kind : InboundKind} {payload : Bytes}
    (short : payload.length < kind.headerLength) :
    decode (kind.tag :: payload) =
      .error (.protocol (.truncated kind.name kind.headerLength payload.length)) := by
  cases kind with
  | fileWritten =>
    have few : payload.length < 8 := short
    rw [decode_cons, ofPayload, Layout.header_of_short _ few]
    rfl
  | fileChunk => exact Layout.chunk_of_short _ _ short
  | _ => cases short

/-- Misshapen octets are refused with their fault. -/
theorem decode_of_misshapen {octets : Bytes} {fault : ProtocolFault}
    (misshapen : Misshapen octets fault) : decode octets = .error (.protocol fault) := by
  cases misshapen with
  | empty => rfl
  | truncated short => exact decode_of_short short
  | overlong wholeOffset wholeLength exceeds =>
    rw [decode_fileChunk, Layout.chunk_of_overlong _ _ wholeOffset wholeLength exceeds]

/-- Octets with an illegible path are refused for that path. -/
theorem decode_of_illegible {octets path : Bytes} (illegible : Illegible octets path) :
    ∃ fault, Utf8.decode path = .error fault ∧
      decode octets = .error (.codec (.badPath fault)) := by
  cases illegible with
  | fileWritten wholeOffset noText =>
    obtain ⟨fault, refused⟩ := Utf8.decode_of_not_isText noText
    refine ⟨fault, refused, ?_⟩
    rw [decode_fileWritten wholeOffset, Layout.path_of_fault refused]
    rfl
  | fileChunk wholeOffset wholeLength counted noText =>
    obtain ⟨fault, refused⟩ := Utf8.decode_of_not_isText noText
    refine ⟨fault, refused, ?_⟩
    rw [decode_fileChunk, Layout.chunk_of_parts _ _ wholeOffset wholeLength counted,
      Layout.path_of_fault refused]
    rfl

/-- Octets with a garbled record are refused with the fault of the record. -/
theorem decode_of_garbled {octets : Bytes} {fault : MessagePack.Fault}
    (garbled : Garbled octets fault) : decode octets = .error (.payload fault) := by
  cases garbled with
  | fileInfo refused =>
    rw [decode_fileInfo, refused]
    rfl

/-- Every payload of a kind is in some class. -/
theorem covers_cons (kind : InboundKind) (payload : Bytes) :
    (∃ frame, Spells (kind.tag :: payload) frame) ∨
      (∃ fault, Misshapen (kind.tag :: payload) fault) ∨
        (∃ path, Illegible (kind.tag :: payload) path) ∨
          ∃ fault, Garbled (kind.tag :: payload) fault := by
  by_cases short : payload.length < kind.headerLength
  · exact .inr (.inl ⟨_, .truncated short⟩)
  cases kind with
  | terminalOutput => exact .inl ⟨_, .terminalOutput payload⟩
  | terminalOpened => exact .inl ⟨_, .terminalOpened payload⟩
  | terminalClosed => exact .inl ⟨_, .terminalClosed payload⟩
  | fileWritten =>
    obtain ⟨offset, path, rfl, wholeOffset⟩ := Layout.exists_front short
    by_cases isText : Utf8.IsText path
    · obtain ⟨text, rfl⟩ := isText
      exact .inl ⟨_, .fileWritten text wholeOffset⟩
    · exact .inr (.inr (.inl ⟨path, .fileWritten wholeOffset isText⟩))
  | fileInfo =>
    cases read : FileInfo.decode payload with
    | ok info => exact .inl ⟨_, .fileInfo read⟩
    | error fault => exact .inr (.inr (.inr ⟨fault, .fileInfo read⟩))
  | fileChunk =>
    obtain ⟨offset, length, body, rfl, wholeOffset, wholeLength⟩ :=
      Layout.exists_header (show ¬ payload.length < 8 + 8 from short)
    by_cases exceeds : body.length < Bytes.ofLittleEndian length
    · exact .inr (.inl ⟨_, .overlong wholeOffset wholeLength exceeds⟩)
    obtain ⟨path, data, rfl, counted⟩ := Layout.exists_trailing exceeds
    rw [← List.append_assoc]
    by_cases isText : Utf8.IsText path
    · obtain ⟨text, rfl⟩ := isText
      exact .inl ⟨_, .fileChunk text wholeOffset wholeLength counted⟩
    · exact .inr (.inr (.inl ⟨path, .fileChunk wholeOffset wholeLength counted isText⟩))
  | log => exact .inl ⟨_, .log payload⟩

/-- The reader decides the grammar of frames from the agent. -/
theorem decides : grammar.Decides decode where
  spelled := decode_of_spells
  misshapen := decode_of_misshapen
  illegible := decode_of_illegible
  garbled := decode_of_garbled
  covers octets := by
    cases octets with
    | nil => exact .inr (.inl ⟨_, .empty⟩)
    | cons tag payload =>
      cases known : InboundKind.ofTag? tag with
      | none => exact .inl ⟨_, .unknown payload known⟩
      | some kind =>
        rw [InboundKind.ofTag?_eq_some_iff.mp known]
        exact covers_cons kind payload

end Inbound

end RemoteAgent
