import RemoteAgent.Proofs.Frame.Grammar

/-!
# The grammar of frames to the agent

What octets are, as frames to the agent (`Outbound.Spells`, `Outbound.Misshapen`,
`Outbound.Illegible`, `Outbound.Garbled`), what the agent makes of each class, and that every octets
are in one (`Outbound.decides`).
-/

namespace RemoteAgent

/-- How many octets of numbers stand in front of what else is in a payload. -/
def OutboundKind.headerLength : OutboundKind → Nat
  | resizeTerminal => 4
  | writeChunk => 16
  | readChunk => 16
  | _ => 0

namespace Outbound

/-- Octets spell a frame to the agent. -/
inductive Spells : Bytes → Outbound → Prop
  | terminalInput (data : Bytes) :
    Spells (OutboundKind.terminalInput.tag :: data) (.terminalInput data)
  | openTerminal {payload : Bytes} {options : TerminalOptions}
    (read : TerminalOptions.decode payload = .ok options) :
    Spells (OutboundKind.openTerminal.tag :: payload) (.openTerminal options)
  | closeTerminal (ignored : Bytes) :
    Spells (OutboundKind.closeTerminal.tag :: ignored) .closeTerminal
  | resizeTerminal {columns rows : Bytes} (ignored : Bytes) (wholeColumns : columns.length = 2)
    (wholeRows : rows.length = 2) :
    Spells (OutboundKind.resizeTerminal.tag :: (columns ++ rows ++ ignored))
      (.resizeTerminal (UInt16.ofNat (Bytes.ofLittleEndian columns))
        (UInt16.ofNat (Bytes.ofLittleEndian rows)))
  | writeChunk {offset length data : Bytes} (path : String) (wholeOffset : offset.length = 8)
    (wholeLength : length.length = 8) (counted : Bytes.ofLittleEndian length = data.length) :
    Spells (OutboundKind.writeChunk.tag :: (offset ++ length ++ Utf8.encode path ++ data))
      (.writeChunk path ⟨UInt64.ofNat (Bytes.ofLittleEndian offset), data⟩)
  | queryFile (path : String) :
    Spells (OutboundKind.queryFile.tag :: Utf8.encode path) (.queryFile path)
  | readChunk {offset size : Bytes} (path : String) (wholeOffset : offset.length = 8)
    (wholeSize : size.length = 8) :
    Spells (OutboundKind.readChunk.tag :: (offset ++ size ++ Utf8.encode path))
      (.readChunk path (UInt64.ofNat (Bytes.ofLittleEndian offset)).toInt64
        (UInt64.ofNat (Bytes.ofLittleEndian size)))

/-- The layout of octets to the agent is broken. -/
inductive Misshapen : Bytes → ProtocolFault → Prop
  | empty : Misshapen [] .emptyFrame
  | unknownTag {tag : UInt8} (payload : Bytes) (noKind : OutboundKind.ofTag? tag = none) :
    Misshapen (tag :: payload) (.unknownTag tag)
  | truncated {kind : OutboundKind} {payload : Bytes}
    (short : payload.length < kind.headerLength) :
    Misshapen (kind.tag :: payload) (.truncated kind.name kind.headerLength payload.length)
  | overlong {offset length body : Bytes} (wholeOffset : offset.length = 8)
    (wholeLength : length.length = 8) (exceeds : body.length < Bytes.ofLittleEndian length) :
    Misshapen (OutboundKind.writeChunk.tag :: (offset ++ length ++ body))
      (.overlong OutboundKind.writeChunk.name (Bytes.ofLittleEndian length) body.length)

/-- The path of a frame to the agent is no text. -/
inductive Illegible : (frame path : Bytes) → Prop
  | writeChunk {offset length path data : Bytes} (wholeOffset : offset.length = 8)
    (wholeLength : length.length = 8) (counted : Bytes.ofLittleEndian length = data.length)
    (noText : ¬ Utf8.IsText path) :
    Illegible (OutboundKind.writeChunk.tag :: (offset ++ length ++ path ++ data)) path
  | queryFile {path : Bytes} (noText : ¬ Utf8.IsText path) :
    Illegible (OutboundKind.queryFile.tag :: path) path
  | readChunk {offset size path : Bytes} (wholeOffset : offset.length = 8)
    (wholeSize : size.length = 8) (noText : ¬ Utf8.IsText path) :
    Illegible (OutboundKind.readChunk.tag :: (offset ++ size ++ path)) path

/-- The options in a frame to the agent are refused. -/
inductive Garbled : Bytes → MessagePack.Fault → Prop
  | openTerminal {payload : Bytes} {fault : MessagePack.Fault}
    (refused : TerminalOptions.decode payload = .error fault) :
    Garbled (OutboundKind.openTerminal.tag :: payload) fault

/-- What octets are, as frames to the agent. -/
def grammar : Grammar Outbound := ⟨Spells, Misshapen, Illegible, Garbled⟩

theorem decode_writeChunk (payload : Bytes) :
    decode (OutboundKind.writeChunk.tag :: payload) =
      Layout.chunk OutboundKind.writeChunk.name writeChunk payload :=
  decode_cons _ _

theorem decode_openTerminal (payload : Bytes) :
    decode (OutboundKind.openTerminal.tag :: payload) =
      (do return openTerminal (← Layout.record (TerminalOptions.decode payload))) :=
  decode_cons _ _

theorem decode_queryFile (path : Bytes) :
    decode (OutboundKind.queryFile.tag :: path) =
      (do return queryFile (← Layout.path path)) :=
  decode_cons _ _

/-- With both numbers there, reading a request for a piece comes down to reading the path. -/
theorem decode_readChunk {offset size : Bytes} (wholeOffset : offset.length = 8)
    (wholeSize : size.length = 8) (path : Bytes) :
    decode (OutboundKind.readChunk.tag :: (offset ++ size ++ path)) =
      (do
        return readChunk (← Layout.path path) (UInt64.ofNat (Bytes.ofLittleEndian offset)).toInt64
          (UInt64.ofNat (Bytes.ofLittleEndian size))) := by
  rw [decode_cons, ofPayload, Layout.header_of_two _ wholeOffset wholeSize]
  simp only [bind, Except.bind, Layout.field_first wholeOffset,
    Layout.field_second wholeOffset wholeSize]

/-- Octets that spell a frame are read as that frame. -/
theorem decode_of_spells {octets : Bytes} {frame : Outbound} (spells : Spells octets frame) :
    decode octets = .ok frame := by
  cases spells with
  | terminalInput data => exact decode_cons _ _
  | openTerminal read =>
    rw [decode_openTerminal, read]
    rfl
  | closeTerminal ignored => exact decode_cons _ _
  | @resizeTerminal columns rows ignored wholeColumns wholeRows =>
    have whole : (columns ++ rows).length = Layout.resizeFrameLength - 1 := by
      rw [List.length_append, wholeColumns, wholeRows]
      rfl
    rw [decode_cons, ofPayload, Layout.header_append _ ignored whole]
    simp only [bind, Except.bind, Layout.field_first wholeColumns,
      Layout.field_second wholeColumns wholeRows]
    rfl
  | writeChunk path wholeOffset wholeLength counted =>
    rw [decode_writeChunk, Layout.chunk_of_parts _ _ wholeOffset wholeLength counted,
      Layout.path_encode]
    rfl
  | queryFile path =>
    rw [decode_queryFile, Layout.path_encode]
    rfl
  | readChunk path wholeOffset wholeSize =>
    rw [decode_readChunk wholeOffset wholeSize, Layout.path_encode]
    rfl

/-- A payload that is too short for its numbers is refused for what it lacks. -/
theorem decode_of_short {kind : OutboundKind} {payload : Bytes}
    (short : payload.length < kind.headerLength) :
    decode (kind.tag :: payload) =
      .error (.protocol (.truncated kind.name kind.headerLength payload.length)) := by
  cases kind with
  | resizeTerminal =>
    have few : payload.length < Layout.resizeFrameLength - 1 := short
    rw [decode_cons, ofPayload, Layout.header_of_short _ few]
    rfl
  | writeChunk => exact Layout.chunk_of_short _ _ short
  | readChunk =>
    have few : payload.length < 16 := short
    rw [decode_cons, ofPayload, Layout.header_of_short _ few]
    rfl
  | _ => cases short

/-- Misshapen octets are refused with their fault. -/
theorem decode_of_misshapen {octets : Bytes} {fault : ProtocolFault}
    (misshapen : Misshapen octets fault) : decode octets = .error (.protocol fault) := by
  cases misshapen with
  | empty => rfl
  | unknownTag payload noKind => simp only [decode, Layout.untag, bind, Except.bind, noKind]
  | truncated short => exact decode_of_short short
  | overlong wholeOffset wholeLength exceeds =>
    rw [decode_writeChunk, Layout.chunk_of_overlong _ _ wholeOffset wholeLength exceeds]

/-- Octets with an illegible path are refused for that path. -/
theorem decode_of_illegible {octets path : Bytes} (illegible : Illegible octets path) :
    ∃ fault, Utf8.decode path = .error fault ∧
      decode octets = .error (.codec (.badPath fault)) := by
  cases illegible with
  | writeChunk wholeOffset wholeLength counted noText =>
    obtain ⟨fault, refused⟩ := Utf8.decode_of_not_isText noText
    refine ⟨fault, refused, ?_⟩
    rw [decode_writeChunk, Layout.chunk_of_parts _ _ wholeOffset wholeLength counted,
      Layout.path_of_fault refused]
    rfl
  | queryFile noText =>
    obtain ⟨fault, refused⟩ := Utf8.decode_of_not_isText noText
    refine ⟨fault, refused, ?_⟩
    rw [decode_queryFile, Layout.path_of_fault refused]
    rfl
  | readChunk wholeOffset wholeSize noText =>
    obtain ⟨fault, refused⟩ := Utf8.decode_of_not_isText noText
    refine ⟨fault, refused, ?_⟩
    rw [decode_readChunk wholeOffset wholeSize, Layout.path_of_fault refused]
    rfl

/-- Octets with a garbled record are refused with the fault of the record. -/
theorem decode_of_garbled {octets : Bytes} {fault : MessagePack.Fault}
    (garbled : Garbled octets fault) : decode octets = .error (.payload fault) := by
  cases garbled with
  | openTerminal refused =>
    rw [decode_openTerminal, refused]
    rfl

/-- Every payload of a kind is in some class. -/
theorem covers_cons (kind : OutboundKind) (payload : Bytes) :
    (∃ frame, Spells (kind.tag :: payload) frame) ∨
      (∃ fault, Misshapen (kind.tag :: payload) fault) ∨
        (∃ path, Illegible (kind.tag :: payload) path) ∨
          ∃ fault, Garbled (kind.tag :: payload) fault := by
  by_cases short : payload.length < kind.headerLength
  · exact .inr (.inl ⟨_, .truncated short⟩)
  cases kind with
  | terminalInput => exact .inl ⟨_, .terminalInput payload⟩
  | openTerminal =>
    cases read : TerminalOptions.decode payload with
    | ok options => exact .inl ⟨_, .openTerminal read⟩
    | error fault => exact .inr (.inr (.inr ⟨fault, .openTerminal read⟩))
  | closeTerminal => exact .inl ⟨_, .closeTerminal payload⟩
  | resizeTerminal =>
    obtain ⟨columns, rows, ignored, rfl, wholeColumns, wholeRows⟩ :=
      Layout.exists_header (show ¬ payload.length < 2 + 2 from short)
    exact .inl ⟨_, .resizeTerminal ignored wholeColumns wholeRows⟩
  | writeChunk =>
    obtain ⟨offset, length, body, rfl, wholeOffset, wholeLength⟩ :=
      Layout.exists_header (show ¬ payload.length < 8 + 8 from short)
    by_cases exceeds : body.length < Bytes.ofLittleEndian length
    · exact .inr (.inl ⟨_, .overlong wholeOffset wholeLength exceeds⟩)
    obtain ⟨path, data, rfl, counted⟩ := Layout.exists_trailing exceeds
    rw [← List.append_assoc]
    by_cases isText : Utf8.IsText path
    · obtain ⟨text, rfl⟩ := isText
      exact .inl ⟨_, .writeChunk text wholeOffset wholeLength counted⟩
    · exact .inr (.inr (.inl ⟨path, .writeChunk wholeOffset wholeLength counted isText⟩))
  | queryFile =>
    by_cases isText : Utf8.IsText payload
    · obtain ⟨text, rfl⟩ := isText
      exact .inl ⟨_, .queryFile text⟩
    · exact .inr (.inr (.inl ⟨payload, .queryFile isText⟩))
  | readChunk =>
    obtain ⟨offset, size, path, rfl, wholeOffset, wholeSize⟩ :=
      Layout.exists_header (show ¬ payload.length < 8 + 8 from short)
    by_cases isText : Utf8.IsText path
    · obtain ⟨text, rfl⟩ := isText
      exact .inl ⟨_, .readChunk text wholeOffset wholeSize⟩
    · exact .inr (.inr (.inl ⟨path, .readChunk wholeOffset wholeSize isText⟩))

/-- The reader decides the grammar of frames to the agent. -/
theorem decides : grammar.Decides decode where
  spelled := decode_of_spells
  misshapen := decode_of_misshapen
  illegible := decode_of_illegible
  garbled := decode_of_garbled
  covers octets := by
    cases octets with
    | nil => exact .inr (.inl ⟨_, .empty⟩)
    | cons tag payload =>
      cases known : OutboundKind.ofTag? tag with
      | none => exact .inr (.inl ⟨_, .unknownTag payload known⟩)
      | some kind =>
        rw [OutboundKind.ofTag?_eq_some_iff.mp known]
        exact covers_cons kind payload

end Outbound

end RemoteAgent
