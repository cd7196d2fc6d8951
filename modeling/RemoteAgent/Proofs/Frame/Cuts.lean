import RemoteAgent.Proofs.Frame.Wire
import RemoteAgent.Proofs.MessagePack.Delimited

/-!
# Metadata that are cut off are refused

Metadata of files and options of terminals end where they end, and so no front of what is written for
them is read, alone or in a frame (`records_end_alone`). What is written has to tell its lengths, as
`FieldKind.Fits` says: of a text whose length takes more than four octets, a front can be read
(`overlong_path_is_cut`).
-/

namespace RemoteAgent

open MessagePack (EndsWith StopsAtEnd)

/-! ## Records -/

theorem FileInfo.endsWith_encode {info : FileInfo}
    (fits : (Utf8.encode info.path).length < Bytes.span 4) :
    EndsWith FileInfo.decode info.encode info := by
  have distinct : (FileInfo.fields.map MessagePack.Field.name).Nodup := by decide
  have named : ∀ field ∈ FileInfo.fields,
      (Utf8.encode field.name).length < Bytes.span 4 := by decide
  have reads := @MessagePack.Shape.reads_encode FileInfo.shape distinct named (by decide)
    (info.path, info.size, info.mode, info.modifiedAt, ()) ⟨fits, trivial, trivial, trivial, trivial⟩
  exact (MessagePack.Shape.endsWith_of_reads reads).made FileInfo.decode_eq_map

theorem TerminalOptions.endsWith_encode {options : TerminalOptions} (fits : options.Fits) :
    EndsWith TerminalOptions.decode options.encode options := by
  have distinct : (TerminalOptions.fields.map MessagePack.Field.name).Nodup := by decide
  have named : ∀ field ∈ TerminalOptions.fields,
      (Utf8.encode field.name).length < Bytes.span 4 := by decide
  have reads := @MessagePack.Shape.reads_encode TerminalOptions.shape distinct named (by decide)
    (options.command, options.arguments, options.environment, options.inheritsEnvironment, ())
    ⟨fits.command, fits.arguments, fits.environment, trivial, trivial⟩
  exact (MessagePack.Shape.endsWith_of_reads reads).made TerminalOptions.decode_eq_map

/-! ## Frames -/

/-- Octets are decoded as the frame, and every front of them that holds the tag is refused for what is
behind it. -/
structure EndsFrame {φ : Type} (decode : Bytes → Except Failure φ) (octets : Bytes) (frame : φ) :
    Prop where
  read : decode octets = .ok frame
  cut : ∀ front rest, octets = front ++ rest → front ≠ [] → rest ≠ [] →
    ∃ fault, decode front = .error (.payload fault)

/-- A frame that is a record behind a tag ends with the record. -/
theorem EndsFrame.of_record {α φ : Type} {read : Bytes → Except Failure φ} {tag : UInt8}
    {make : α → φ} {decode : Bytes → Except MessagePack.Fault α}
    (reads : ∀ payload, read (tag :: payload) =
      (do return make (← Layout.record (decode payload))))
    {payload : Bytes} {value : α} (ends : EndsWith decode payload value) :
    EndsFrame read (tag :: payload) (make value) where
  read := by
    rw [reads, ends.read]
    rfl
  cut front rest same some more := by
    cases front with
    | nil => exact absurd rfl some
    | cons first front =>
      obtain ⟨rfl, split⟩ := List.cons.inj same
      obtain ⟨fault, refused⟩ := ends.cut front rest split more
      refine ⟨fault, ?_⟩
      rw [reads, refused]
      rfl

/-- What is written for metadata of files and for options of terminals is read, and no front of it
is. What is read behind more octets is the same, and every octets that are read begin with such as
are read and no front of which is. So a frame that is cut behind its tag is refused. -/
theorem records_end_alone :
    (∀ info : FileInfo, (Utf8.encode info.path).length < Bytes.span 4 →
      EndsWith FileInfo.decode info.encode info) ∧
    (∀ options : TerminalOptions, options.Fits →
      EndsWith TerminalOptions.decode options.encode options) ∧
    StopsAtEnd FileInfo.decode ∧ StopsAtEnd TerminalOptions.decode ∧
    (∀ payload info, EndsWith FileInfo.decode payload info →
      EndsFrame Inbound.decode (InboundKind.fileInfo.tag :: payload) (.fileInfo info)) ∧
    ∀ payload options, EndsWith TerminalOptions.decode payload options →
      EndsFrame Outbound.decode (OutboundKind.openTerminal.tag :: payload)
        (.openTerminal options) :=
  ⟨fun _ fits => FileInfo.endsWith_encode fits,
    fun _ fits => TerminalOptions.endsWith_encode fits,
    .of_shape FileInfo.decode_eq_map, .of_shape TerminalOptions.decode_eq_map,
    fun _ _ ends => .of_record Inbound.decode_fileInfo ends,
    fun _ _ ends => .of_record Outbound.decode_openTerminal ends⟩

/-- A frame that opens a terminal, cut inside its last list, and metadata behind which there is
more. -/
theorem records_end_alone_of_options :
    let options : TerminalOptions := ⟨"sh", ["-c"], ["A=b", "C="], true⟩
    let info : FileInfo := ⟨"a", 0x100000000, 0o644, -1⟩
    (∃ fault, Outbound.decode ((Outbound.openTerminal options).encode.take 30) =
      .error (.payload fault)) ∧ FileInfo.decode (info.encode ++ [0x84, 0xA4]) = .ok info := by
  intro options info
  have short : options.Fits := ⟨by decide, ⟨by decide, by decide⟩, ⟨by decide, by decide⟩⟩
  have ended := records_end_alone.2.2.2.2.2 _ _ (records_end_alone.2.1 options short)
  have written := records_end_alone.1 info (show (Utf8.encode "a").length < _ by decide)
  exact ⟨ended.cut _ ((Outbound.openTerminal options).encode.drop 30)
      (List.take_append_drop 30 _).symm (by decide) (by decide),
    records_end_alone.2.2.1.extended _ _ _ written.read⟩

/-! ## A length that is not told -/

/-- Behind the head of an empty text stand the octets of a path whose length takes more than four
octets, and is told as none. -/
theorem FileInfo.encode_of_wrapped {path : String}
    (wraps : MessagePack.Writer.told (Utf8.encode path).length = 0) :
    ∃ rest, rest ≠ [] ∧ (FileInfo.mk path 5 0 0).encode =
      [0x84, 0xA4, 0x70, 0x61, 0x74, 0x68, 0xA0] ++ (Utf8.encode path ++ rest) := by
  have named : MessagePack.Writer.mapHead 4 ++ MessagePack.Writer.text "path" ++
      MessagePack.Writer.textHead 0 = [0x84, 0xA4, 0x70, 0x61, 0x74, 0x68, 0xA0] := by
    decide +kernel
  have written : MessagePack.Writer.text path =
      MessagePack.Writer.textHead 0 ++ Utf8.encode path := by
    rw [MessagePack.Writer.text, wraps]
  refine ⟨MessagePack.Values.write FileInfo.fields.tail (5, 0, 0, ()), by decide +kernel, ?_⟩
  change MessagePack.Writer.mapHead 4 ++
    (MessagePack.Writer.text "path" ++ MessagePack.Writer.text path ++ _) = _
  rw [written, ← named]
  simp only [List.append_assoc]
  rfl

/-- A letter of one octet at the end of a text, any number of times. -/
theorem encode_padded (front : List Char) (count : Nat) :
    Utf8.encode (String.ofList (front ++ List.replicate count 'x')) =
      front.flatMap String.utf8EncodeChar ++ List.replicate count 0x78 := by
  have letter : String.utf8EncodeChar 'x' = [0x78] := by decide
  rw [Utf8.encode, String.toList_ofList, List.flatMap_append, List.flatMap_replicate, letter,
    List.flatten_replicate_singleton]

/-- A length of 2 ^ 32 octets is told as none. So the octets of a path of that length are read as the
fields that follow it, and metadata with such a path are read when they are cut inside the path. -/
theorem overlong_path_is_cut :
    let info : FileInfo := ⟨String.ofList
      (['\x01', '\x05', '\x02', '\x00', '\x03', '\x00'] ++ List.replicate 0xFFFFFFFA 'x'), 5, 0, 0⟩
    let front : Bytes :=
      [0x84, 0xA4, 0x70, 0x61, 0x74, 0x68, 0xA0, 0x01, 0x05, 0x02, 0x00, 0x03, 0x00]
    ∃ rest, rest ≠ [] ∧ info.encode = front ++ rest ∧
      FileInfo.decode front = .ok ⟨"", 5, 0, 0⟩ := by
  intro info front
  have path : Utf8.encode info.path =
      [0x01, 0x05, 0x02, 0x00, 0x03, 0x00] ++ List.replicate 0xFFFFFFFA 0x78 :=
    encode_padded ['\x01', '\x05', '\x02', '\x00', '\x03', '\x00'] 0xFFFFFFFA
  have wraps : MessagePack.Writer.told (Utf8.encode info.path).length = 0 := by
    rw [path, List.length_append, List.length_replicate]
    rfl
  obtain ⟨rest, some, written⟩ := FileInfo.encode_of_wrapped wraps
  refine ⟨List.replicate 0xFFFFFFFA 0x78 ++ rest, ?_, ?_, by decide +kernel⟩
  · exact fun nothing => some (List.append_eq_nil_iff.mp nothing).2
  · refine written.trans ?_
    rw [path, List.append_assoc, ← List.append_assoc]
    rfl

end RemoteAgent
