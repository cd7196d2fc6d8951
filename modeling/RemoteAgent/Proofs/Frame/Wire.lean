import RemoteAgent.Proofs.Frame.Inbound
import RemoteAgent.Proofs.Frame.Outbound
import RemoteAgent.Proofs.MessagePack.Lengths

/-!
# What the wire keeps

The writing of a frame spells that frame, so that every frame reads back
(`frames_read_back`). Octets that spell a frame are its writing, but for what the frame does not
hold: octets that are ignored, other writings of a record, and octets of a log that are no text. So
writing a frame that was read is a normal form, and these are the only losses
(`reading_is_normal_form`).

Lengths of data have eight octets on the wire and lengths inside records four. Data of a frame that
was read, and texts and lists of a record that was read, are of such lengths. Of a frame at hand it
is assumed (`Outbound.Fits`, `Inbound.Fits`); more data than eight octets count fit no memory.
-/

namespace RemoteAgent

/-! ## Numbers in headers -/

namespace Layout

variable {octets : Bytes} {width : Nat}

theorem ofLittleEndian_lt_span (whole : octets.length = width) :
    Bytes.ofLittleEndian octets < Bytes.span width :=
  whole ▸ Bytes.ofLittleEndian_lt octets

/-- A number that was read of some octets is written as these. -/
theorem littleEndian_of_eq {number : Nat} (whole : octets.length = width)
    (read : Bytes.ofLittleEndian octets = number) : Bytes.littleEndian width number = octets := by
  subst whole read
  exact Bytes.littleEndian_ofLittleEndian octets

theorem littleEndian_word (whole : octets.length = 8) :
    Bytes.littleEndian 8 (UInt64.ofNat (Bytes.ofLittleEndian octets)).toNat = octets :=
  littleEndian_of_eq whole (UInt64.toNat_ofNat_of_lt' (ofLittleEndian_lt_span whole)).symm

theorem littleEndian_half (whole : octets.length = 2) :
    Bytes.littleEndian 2 (UInt16.ofNat (Bytes.ofLittleEndian octets)).toNat = octets :=
  littleEndian_of_eq whole (UInt16.toNat_ofNat_of_lt' (ofLittleEndian_lt_span whole)).symm

end Layout

/-! ## Records in frames -/

/-- The texts and lists of terminal options are of lengths that four octets hold. -/
structure TerminalOptions.Fits (options : TerminalOptions) : Prop where
  command : (Utf8.encode options.command).length < Bytes.span 4
  arguments : MessagePack.FieldKind.Fits .texts options.arguments
  environment : MessagePack.FieldKind.Fits .texts options.environment

/-- Terminal options read as they were written. -/
theorem TerminalOptions.decode_encode {options : TerminalOptions} (fits : options.Fits) :
    TerminalOptions.decode options.encode = .ok options := by
  have distinct : (TerminalOptions.fields.map MessagePack.Field.name).Nodup := by decide
  have named : ∀ field ∈ TerminalOptions.fields,
      (Utf8.encode field.name).length < Bytes.span 4 := by decide
  have read := @MessagePack.Shape.decode_encode TerminalOptions.shape distinct named (by decide)
    (options.command, options.arguments, options.environment, options.inheritsEnvironment, ())
    ⟨fits.command, fits.arguments, fits.environment, trivial, trivial⟩
  rw [TerminalOptions.decode, TerminalOptions.encode, read]

/-- Terminal options that were read can be written again. -/
theorem TerminalOptions.fits_of_decode {octets : Bytes} {options : TerminalOptions}
    (read : TerminalOptions.decode octets = .ok options) : options.Fits := by
  have defaults : MessagePack.DefaultsFit TerminalOptions.fields := by
    intro field member value left
    simp only [List.mem_cons, List.not_mem_nil, or_false] at member
    rcases member with rfl | rfl | rfl | rfl
    · cases left
    · cases left
      exact ⟨by decide, by simp⟩
    · cases left
      exact ⟨by decide, by simp⟩
    · trivial
  unfold TerminalOptions.decode at read
  split at read
  · next taken =>
    cases read
    obtain ⟨command, arguments, environment, _⟩ := MessagePack.Shape.fit_of_decode defaults taken
    exact ⟨command, arguments, environment⟩
  · cases read

/-- Metadata that were read can be written again. -/
theorem FileInfo.fits_of_decode {octets : Bytes} {info : FileInfo}
    (read : FileInfo.decode octets = .ok info) :
    (Utf8.encode info.path).length < Bytes.span 4 := by
  have defaults : MessagePack.DefaultsFit FileInfo.fields := by
    intro field member value left
    simp only [List.mem_cons, List.not_mem_nil, or_false] at member
    rcases member with rfl | rfl | rfl | rfl
    · cases left
    · trivial
    · trivial
    · trivial
  unfold FileInfo.decode at read
  split at read
  · next taken =>
    cases read
    exact (MessagePack.Shape.fit_of_decode defaults taken).1
  · cases read

/-- A record that is written again is the octets that it was read of, unless these are another
writing of it. -/
theorem record_kept {α : Type} (write : α → Bytes) {read : Except MessagePack.Fault α} {value : α}
    {payload : Bytes} (taken : read = .ok value) :
    write value = payload ↔ ¬ ∃ other, read = .ok other ∧ payload ≠ write other := by
  constructor
  · rintro rfl ⟨other, again, differs⟩
    cases taken.symm.trans again
    exact differs rfl
  · intro kept
    apply Decidable.byContradiction
    intro differs
    exact kept ⟨value, taken, Ne.symm differs⟩

/-! ## Tags and payloads -/

/-- A tag in front of a payload settles the kind that it is looked at as. -/
theorem tagged_iff {κ : Type} {tag : κ → UInt8}
    (injective : ∀ {one other : κ}, tag one = tag other → one = other)
    (holds : κ → Bytes → Prop) {kind : κ} {payload : Bytes} :
    (∃ other octets, tag kind :: payload = tag other :: octets ∧ holds other octets) ↔
      holds kind payload := by
  constructor
  · rintro ⟨other, octets, same, held⟩
    obtain ⟨sameTag, rfl⟩ := List.cons.inj same
    rwa [injective sameTag]
  · intro held
    exact ⟨kind, payload, rfl, held⟩

theorem OutboundKind.tag_injective {one other : OutboundKind} (same : one.tag = other.tag) :
    one = other :=
  Option.some.inj ((ofTag?_eq_some_iff.mpr rfl).symm.trans (ofTag?_eq_some_iff.mpr same))

theorem InboundKind.tag_injective {one other : InboundKind} (same : one.tag = other.tag) :
    one = other :=
  Option.some.inj ((ofTag?_eq_some_iff.mpr rfl).symm.trans (ofTag?_eq_some_iff.mpr same))

theorem nothing_ignored {ignored : Bytes} : [] = ignored ↔ ¬ 1 < ignored.length + 1 := by
  cases ignored with
  | nil => simp
  | cons first rest => simp

/-! ## Frames to the agent -/

/-- What is in the payload of a frame of a kind, and not in the frame. -/
def OutboundKind.Loses : OutboundKind → Bytes → Prop
  | openTerminal, payload =>
    ∃ options, TerminalOptions.decode payload = .ok options ∧ payload ≠ options.encode
  | closeTerminal, payload => 1 < payload.length + 1
  | resizeTerminal, payload => Layout.resizeFrameLength < payload.length + 1
  | _, _ => False

namespace Outbound

/-- Octets that are not the writing of the frame that they spell. -/
def Loose (octets : Bytes) : Prop :=
  ∃ (kind : OutboundKind) (payload : Bytes), octets = kind.tag :: payload ∧ kind.Loses payload

theorem loose_cons {kind : OutboundKind} {payload : Bytes} :
    Loose (kind.tag :: payload) ↔ kind.Loses payload :=
  tagged_iff OutboundKind.tag_injective OutboundKind.Loses

/-- Every length in the frame fits the octets that tell it. -/
def Fits : Outbound → Prop
  | openTerminal options => options.Fits
  | writeChunk _ chunk => chunk.data.length < Bytes.span 8
  | _ => True

/-- Only one way of writing spells the frame. -/
def IsExact : Outbound → Prop
  | terminalInput _ | writeChunk _ _ | queryFile _ | readChunk _ _ _ => True
  | _ => False

/-- The agent reads a frame as it was written. -/
theorem decode_encode {frame : Outbound} (fits : frame.Fits) :
    decode frame.encode = .ok frame := by
  cases frame with
  | terminalInput data => exact decode_of_spells (.terminalInput data)
  | openTerminal options =>
    rw [encode, kind, payload, decode_openTerminal, TerminalOptions.decode_encode fits]
    rfl
  | closeTerminal => exact decode_of_spells (.closeTerminal [])
  | resizeTerminal columns rows =>
    have spelled := decode_of_spells (Spells.resizeTerminal []
      (Bytes.length_littleEndian 2 columns.toNat) (Bytes.length_littleEndian 2 rows.toNat))
    have first := Bytes.ofLittleEndian_littleEndian (show columns.toNat < Bytes.span 2 from
      columns.toNat_lt)
    have second := Bytes.ofLittleEndian_littleEndian (show rows.toNat < Bytes.span 2 from
      rows.toNat_lt)
    rwa [List.append_nil, first, second, UInt16.ofNat_toNat, UInt16.ofNat_toNat] at spelled
  | writeChunk path chunk => exact decode_encode_writeChunk path fits
  | queryFile path => exact decode_encode_queryFile path
  | readChunk path offset size => exact decode_encode_readChunk path offset size

section Spelled

variable {octets : Bytes} {frame : Outbound} (spells : Spells octets frame)

include spells

/-- A frame that octets spell can be written again. -/
theorem fits_of_spells : frame.Fits := by
  cases spells with
  | openTerminal read => exact TerminalOptions.fits_of_decode read
  | writeChunk path wholeOffset wholeLength counted =>
    have bound := Layout.ofLittleEndian_lt_span wholeLength
    rwa [counted] at bound
  | _ => trivial

/-- Octets are the writing of the frame that they spell, but for what the frame does not hold. -/
theorem encode_eq_iff_of_spells : frame.encode = octets ↔ ¬ Loose octets := by
  cases spells with
  | terminalInput data => exact ⟨fun _ loose => loose_cons.mp loose, fun _ => rfl⟩
  | @openTerminal payload options read =>
    rw [loose_cons]
    exact (List.cons_inj_right _).trans (record_kept TerminalOptions.encode read)
  | closeTerminal ignored =>
    rw [loose_cons]
    exact (List.cons_inj_right _).trans nothing_ignored
  | @resizeTerminal columns rows ignored wholeColumns wholeRows =>
    have longer : (columns ++ rows ++ ignored).length = 4 + ignored.length := by
      rw [List.length_append, List.length_append, wholeColumns, wholeRows]
    rw [loose_cons]
    refine (List.cons_inj_right _).trans ?_
    rw [payload, Layout.littleEndian_half wholeColumns, Layout.littleEndian_half wholeRows,
      List.self_eq_append_right, OutboundKind.Loses, Layout.resizeFrameLength, longer,
      ← List.length_eq_zero_iff]
    omega
  | @writeChunk offset length data path wholeOffset wholeLength counted =>
    rw [encode, payload, Layout.littleEndian_word wholeOffset,
      Layout.littleEndian_of_eq wholeLength counted]
    exact ⟨fun _ loose => loose_cons.mp loose, fun _ => rfl⟩
  | queryFile path => exact ⟨fun _ loose => loose_cons.mp loose, fun _ => rfl⟩
  | @readChunk offset size path wholeOffset wholeSize =>
    rw [encode, payload, UInt64.toUInt64_toInt64, Layout.littleEndian_word wholeOffset,
      Layout.littleEndian_word wholeSize]
    exact ⟨fun _ loose => loose_cons.mp loose, fun _ => rfl⟩

theorem not_loose_of_isExact (exact : frame.IsExact) : ¬ Loose octets := by
  cases spells with
  | openTerminal read => cases exact
  | closeTerminal ignored => cases exact
  | resizeTerminal ignored wholeColumns wholeRows => cases exact
  | _ => exact fun loose => loose_cons.mp loose

end Spelled

end Outbound

/-! ## Frames from the agent -/

/-- What is in the payload of a frame of a kind, and not in the frame. -/
def InboundKind.Loses : InboundKind → Bytes → Prop
  | terminalOpened, payload => 1 < payload.length + 1
  | terminalClosed, payload => 1 < payload.length + 1
  | fileInfo, payload => ∃ info, FileInfo.decode payload = .ok info ∧ payload ≠ info.encode
  | log, payload => ¬ Utf8.IsText payload
  | _, _ => False

namespace Inbound

/-- Octets that are not the writing of the frame that they spell. -/
def Loose (octets : Bytes) : Prop :=
  ∃ (kind : InboundKind) (payload : Bytes), octets = kind.tag :: payload ∧ kind.Loses payload

theorem loose_cons {kind : InboundKind} {payload : Bytes} :
    Loose (kind.tag :: payload) ↔ kind.Loses payload :=
  tagged_iff InboundKind.tag_injective InboundKind.Loses

/-- Octets whose tag has no kind lose nothing. -/
theorem not_loose_of_noKind {tag : UInt8} (payload : Bytes)
    (noKind : InboundKind.ofTag? tag = none) : ¬ Loose (tag :: payload) := by
  rintro ⟨kind, octets, same, _⟩
  obtain ⟨rfl, _⟩ := List.cons.inj same
  cases (InboundKind.ofTag?_eq_some_iff.mpr rfl).symm.trans noKind

/-- Every length in the frame fits the octets that tell it. -/
def Fits : Inbound → Prop
  | fileInfo info => (Utf8.encode info.path).length < Bytes.span 4
  | fileChunk _ chunk => chunk.data.length < Bytes.span 8
  | _ => True

/-- A frame without a kind has the tag of a kind. -/
def IsDisguised : Inbound → Prop
  | unknown tag _ => InboundKind.ofTag? tag ≠ none
  | _ => False

/-- Only one way of writing spells the frame. -/
def IsExact : Inbound → Prop
  | terminalOutput _ | fileWritten _ _ | fileChunk _ _ | unknown _ _ => True
  | _ => False

/-- The client reads a frame as the agent wrote it, unless it has no kind and the tag of one. -/
theorem decode_encode {frame : Inbound} (fits : frame.Fits) (plain : ¬ frame.IsDisguised) :
    decode frame.encode = .ok frame := by
  cases frame with
  | terminalOutput data => exact decode_of_spells (.terminalOutput data)
  | terminalOpened => exact decode_of_spells (.terminalOpened [])
  | terminalClosed => exact decode_of_spells (.terminalClosed [])
  | fileWritten path offset => exact decode_encode_fileWritten path offset
  | fileInfo info => exact decode_encode_fileInfo fits
  | fileChunk path chunk => exact decode_encode_fileChunk path fits
  | log text =>
    have spelled := decode_of_spells (Spells.log (Utf8.encode text))
    rwa [Utf8.decodeLossy_encode] at spelled
  | unknown tag payload => exact decode_of_spells (Spells.unknown payload (Decidable.not_not.mp plain))

section Spelled

variable {octets : Bytes} {frame : Inbound} (spells : Spells octets frame)

include spells

/-- A frame that octets spell can be written again. -/
theorem fits_of_spells : frame.Fits := by
  cases spells with
  | fileInfo read => exact FileInfo.fits_of_decode read
  | fileChunk path wholeOffset wholeLength counted =>
    have bound := Layout.ofLittleEndian_lt_span wholeLength
    rwa [counted] at bound
  | _ => trivial

/-- A frame that octets spell has no kind only if its tag has none. -/
theorem plain_of_spells : ¬ frame.IsDisguised := by
  cases spells with
  | unknown payload noKind => exact fun disguised => disguised noKind
  | _ => exact id

/-- Octets are the writing of the frame that they spell, but for what the frame does not hold. -/
theorem encode_eq_iff_of_spells : frame.encode = octets ↔ ¬ Loose octets := by
  cases spells with
  | terminalOutput data => exact ⟨fun _ loose => loose_cons.mp loose, fun _ => rfl⟩
  | terminalOpened ignored =>
    rw [loose_cons]
    exact (List.cons_inj_right _).trans nothing_ignored
  | terminalClosed ignored =>
    rw [loose_cons]
    exact (List.cons_inj_right _).trans nothing_ignored
  | @fileWritten offset path wholeOffset =>
    rw [encode, payload, Layout.littleEndian_word wholeOffset]
    exact ⟨fun _ loose => loose_cons.mp loose, fun _ => rfl⟩
  | @fileInfo payload info read =>
    rw [loose_cons]
    exact (List.cons_inj_right _).trans (record_kept FileInfo.encode read)
  | @fileChunk offset length data path wholeOffset wholeLength counted =>
    rw [encode, payload, Layout.littleEndian_word wholeOffset,
      Layout.littleEndian_of_eq wholeLength counted]
    exact ⟨fun _ loose => loose_cons.mp loose, fun _ => rfl⟩
  | log octets =>
    rw [loose_cons]
    refine (List.cons_inj_right _).trans ?_
    constructor
    · intro same noText
      exact noText ⟨_, same.symm⟩
    · intro isText
      obtain ⟨text, rfl⟩ := Classical.not_not.mp isText
      rw [payload, Utf8.decodeLossy_encode]
  | unknown payload noKind => exact ⟨fun _ => not_loose_of_noKind payload noKind, fun _ => rfl⟩

theorem not_loose_of_isExact (exact : frame.IsExact) : ¬ Loose octets := by
  cases spells with
  | terminalOpened ignored => cases exact
  | terminalClosed ignored => cases exact
  | fileInfo read => cases exact
  | log octets => cases exact
  | unknown payload noKind => exact not_loose_of_noKind payload noKind
  | _ => exact fun loose => loose_cons.mp loose

end Spelled

end Inbound

/-! ## Both directions -/

/-- Every frame reads as it was written, and its tag is in front of it. A frame without a kind is
the only one that may have the octets of another frame, and it has them when its tag has a kind. -/
theorem frames_read_back :
    (∀ frame : Outbound, frame.Fits →
      frame.encode.head? = some frame.kind.tag ∧ Outbound.decode frame.encode = .ok frame) ∧
    ∀ frame : Inbound, frame.Fits →
      frame.encode.head? = some frame.tag ∧
        (Inbound.decode frame.encode = .ok frame ↔ ¬ frame.IsDisguised) := by
  constructor
  · intro frame fits
    exact ⟨frame.encode_head, Outbound.decode_encode fits⟩
  · intro frame fits
    refine ⟨frame.encode_head, fun accepted => ?_, Inbound.decode_encode fits⟩
    exact Inbound.plain_of_spells ((Inbound.decides.classifies.accepts _ _).mp accepted)

/-- A terminal opens with the options that were asked for, and metadata arrive as they were told. -/
theorem frames_read_back_of_options :
    let options : TerminalOptions := ⟨"sh", ["-c", ""], ["LANG=\u00FC"], false⟩
    let info : FileInfo := ⟨"", 0xFFFFFFFFFFFFFFFF, 0o644, -1⟩
    Outbound.decode (Outbound.openTerminal options).encode = .ok (.openTerminal options) ∧
      Inbound.decode (Inbound.fileInfo info).encode = .ok (.fileInfo info) := by
  intro options info
  have short : options.Fits := ⟨by decide, ⟨by decide, by decide⟩, ⟨by decide, by decide⟩⟩
  have named : (Inbound.fileInfo info).Fits := show (Utf8.encode "").length < _ by decide
  exact ⟨(frames_read_back.1 (.openTerminal options) short).2,
    (frames_read_back.2 (.fileInfo info) named).2.mpr id⟩

/-- What reading and then writing does to octets. -/
structure NormalForm {α : Type} (decode : Bytes → Except Failure α) (encode : α → Bytes)
    (Loose : Bytes → Prop) (IsExact : α → Prop) : Prop where
  /-- A frame that was read reads back from its own octets. -/
  readsBack : ∀ octets frame, decode octets = .ok frame → decode (encode frame) = .ok frame
  /-- Octets that are read come back, unless they hold what the frame does not. -/
  keeps : ∀ octets frame, decode octets = .ok frame → (encode frame = octets ↔ ¬ Loose octets)
  /-- No two strings of octets are read as the same exact frame. -/
  injective : ∀ octets others frame, IsExact frame → decode octets = .ok frame →
    decode others = .ok frame → octets = others

/-- What is shown of octets that spell a frame holds of those that are read. -/
theorem NormalForm.of_spells {α : Type} {decode : Bytes → Except Failure α} {encode : α → Bytes}
    {Loose : Bytes → Prop} {IsExact : α → Prop} {grammar : Grammar α}
    (decides : grammar.Decides decode)
    (again : ∀ {octets frame}, grammar.Spells octets frame → decode (encode frame) = .ok frame)
    (kept : ∀ {octets frame}, grammar.Spells octets frame →
      (encode frame = octets ↔ ¬ Loose octets))
    (tight : ∀ {octets frame}, grammar.Spells octets frame → IsExact frame → ¬ Loose octets) :
    NormalForm decode encode Loose IsExact := by
  have spelled := fun {octets frame} => (decides.classifies.accepts octets frame).mp
  refine ⟨fun _ _ accepted => again (spelled accepted), fun _ _ accepted => kept (spelled accepted),
    fun octets others frame exact accepted acceptedToo => ?_⟩
  have first := (kept (spelled accepted)).mpr (tight (spelled accepted) exact)
  have second := (kept (spelled acceptedToo)).mpr (tight (spelled acceptedToo) exact)
  exact first.symm.trans second

/-- Reading a frame and writing it again is a normal form, with the named losses and no other. -/
theorem reading_is_normal_form :
    NormalForm Outbound.decode Outbound.encode Outbound.Loose Outbound.IsExact ∧
      NormalForm Inbound.decode Inbound.encode Inbound.Loose Inbound.IsExact := by
  constructor
  · refine .of_spells Outbound.decides (fun spells => ?_) Outbound.encode_eq_iff_of_spells
      Outbound.not_loose_of_isExact
    exact Outbound.decode_encode (Outbound.fits_of_spells spells)
  · refine .of_spells Inbound.decides (fun spells => ?_) Inbound.encode_eq_iff_of_spells
      Inbound.not_loose_of_isExact
    exact Inbound.decode_encode (Inbound.fits_of_spells spells) (Inbound.plain_of_spells spells)

/-- A log that is no text is read with a replacement, which is what is written. -/
theorem reading_is_normal_form_of_log :
    Inbound.decode [0xFF, 0x61, 0x80] = .ok (.log "a\uFFFD") ∧
      Inbound.decode (Inbound.log "a\uFFFD").encode = .ok (.log "a\uFFFD") ∧
        (Inbound.log "a\uFFFD").encode ≠ [0xFF, 0x61, 0x80] := by
  have first : Utf8.scan 0x61 [0x80] = (.char 'a', [0x80]) := rfl
  have second : Utf8.scan 0x80 [] = (.broken 1, []) := rfl
  have pieces : Utf8.pieces [0x61, 0x80] = [.char 'a', .broken 1] := by
    rw [Utf8.pieces_cons, first, Utf8.pieces_cons, second, Utf8.pieces_nil]
  have shown : Utf8.decodeLossy [0x61, 0x80] = "a\uFFFD" := by
    rw [Utf8.decodeLossy, pieces]
    rfl
  have accepted : Inbound.decode [0xFF, 0x61, 0x80] = .ok (.log "a\uFFFD") :=
    shown ▸ Inbound.decode_of_spells (.log [0x61, 0x80])
  have loose : Inbound.Loose [0xFF, 0x61, 0x80] := by
    refine ⟨.log, [0x61, 0x80], rfl, fun isText => ?_⟩
    obtain ⟨text, read⟩ := Utf8.isText_iff.mp isText
    have refused : Utf8.decode [0x61, 0x80] = .error (.invalid 1 1) := by
      rw [Utf8.decode, pieces]
      rfl
    cases refused.symm.trans read
  have losses := reading_is_normal_form.2
  exact ⟨accepted, losses.readsBack _ _ accepted, fun same =>
    (losses.keeps _ _ accepted).mp same loose⟩

/-- The readers of both directions accept exactly what spells a frame, and tell everything else
apart. -/
theorem decoders_classify :
    Inbound.grammar.Classifies Inbound.decode ∧ Outbound.grammar.Classifies Outbound.decode :=
  ⟨Inbound.decides.classifies, Outbound.decides.classifies⟩

/-- A length beyond every frame is refused, and so is a path that stops being text. -/
theorem decoders_classify_of_query :
    Inbound.decode (0x12 :: [0, 0, 0, 0, 0, 0, 0, 0] ++
        [0xFF, 0xFF, 0xFF, 0xFF, 0xFF, 0xFF, 0xFF, 0xFF] ++ [0x61]) =
      .error (.protocol (.overlong "FileChunkRead" 0xFFFFFFFFFFFFFFFF 1)) ∧
    ∃ fault words, Outbound.decode [0x11, 0x61, 0xE4] = .error (.codec fault) ∧
      (Failure.codec fault).message = words ++ " from index " ++ toString 1 := by
  have misshapen := @Inbound.Misshapen.overlong [0, 0, 0, 0, 0, 0, 0, 0]
    [0xFF, 0xFF, 0xFF, 0xFF, 0xFF, 0xFF, 0xFF, 0xFF] [0x61] rfl rfl (by decide)
  have first : Utf8.scan 0x61 [0xE4] = (.char 'a', [0xE4]) := rfl
  have second : Utf8.scan 0xE4 [] = (.cut 1, []) := rfl
  have stopped : Utf8.decode [0x61, 0xE4] = .error (.incomplete 1) := by
    rw [Utf8.decode, Utf8.pieces_cons, first, Utf8.pieces_cons, second, Utf8.pieces_nil]
    rfl
  have noText : ¬ Utf8.IsText [0x61, 0xE4] := by
    intro isText
    obtain ⟨text, read⟩ := Utf8.isText_iff.mp isText
    cases stopped.symm.trans read
  obtain ⟨fault, words, length, refused, longest, wording⟩ :=
    decoders_classify.2.index [0x11, 0x61, 0xE4] [0x61, 0xE4] (.queryFile noText)
  have front := Utf8.longestText_of_decode stopped
  have same : length = 1 := Nat.le_antisymm
    (front.longest length longest.within longest.isText)
    (longest.longest 1 front.within front.isText)
  exact ⟨(decoders_classify.1.misshapen _ _).mpr misshapen, fault, words, refused,
    same ▸ wording⟩

end RemoteAgent
