import RemoteAgent.Proofs.MessagePack.Records

/-!
# Lengths of what is read

MessagePack tells every length in at most four octets. `Makes` says that whatever a reader makes of
octets has a property, and is kept by the composition of readers, so that the texts and lists of a
record that is read are of lengths that can be written again (`Shape.fit_of_decode`).
-/

namespace RemoteAgent.MessagePack

/-- Whatever a reader makes of octets has a property. -/
def Makes {α : Type} (read : Reader α) (property : α → Prop) : Prop :=
  ∀ octets value rest, read octets = .ok (value, rest) → property value

namespace Makes

variable {α β : Type} {property : α → Prop}

/-- A reader that only gives a value makes that value. -/
theorem pure {value : α} (holds : property value) : Makes (Pure.pure value) property := by
  rintro octets _ rest ⟨⟩
  exact holds

/-- A reader that refuses makes nothing. -/
theorem refuse (fault : Fault) : Makes (Reader.refuse fault : Reader α) property := by
  rintro octets value rest ⟨⟩

/-- Readers in a row make what the last one makes of what the first one does. -/
theorem bind {result : β → Prop} {read : Reader α} {next : α → Reader β}
    (first : Makes read property) (second : ∀ value, property value → Makes (next value) result) :
    Makes (read >>= next) result := by
  intro octets value rest whole
  change Except.bind (read octets) (fun pair => next pair.1 pair.2) = _ at whole
  cases taken : read octets with
  | error fault =>
    rw [taken] at whole
    cases whole
  | ok pair =>
    rw [taken] at whole
    exact second pair.1 (first octets pair.1 pair.2 taken) pair.2 value rest whole

/-- What a reader makes has every weaker property. -/
theorem imp {weaker : α → Prop} {read : Reader α} (makes : Makes read property)
    (implies : ∀ value, property value → weaker value) : Makes read weaker :=
  fun octets value rest whole => implies value (makes octets value rest whole)

/-- Nothing is asked of what a reader makes. -/
theorem anything (read : Reader α) : Makes read fun _ => True := fun _ _ _ _ => trivial

/-- What is read of other octets is made by the reader of those. -/
theorem within {read : Reader α} (makes : Makes read property) (octets : Bytes) :
    Makes (Reader.within octets read) property := by
  intro bytes value rest whole
  unfold Reader.within at whole
  split at whole
  · next other later taken =>
    cases whole
    exact makes octets _ later taken
  · cases whole

/-- What is rejected makes nothing. -/
theorem reject (found : Head) (expected : Expected) :
    Makes (Reader.reject found expected : Reader α) property := by
  cases found with
  | scalar value => exact refuse _
  | text length =>
    refine (anything (Reader.contents length)).bind fun octets _ => ?_
    split
    · exact refuse _
    · exact refuse _
  | binary length => exact (anything (Reader.contents length)).bind fun _ _ => refuse _
  | array => exact refuse _
  | map => exact refuse _
  | extension => exact refuse _

/-- So many values one after another. -/
theorem valuesAfter {read : Reader α} (each : Makes read property) (count : Nat)
    (found : List α) (holds : ∀ value ∈ found, property value) :
    Makes (Reader.valuesAfter read count found) fun values =>
      values.length = found.length + count ∧ ∀ value ∈ values, property value := by
  induction count generalizing found with
  | zero =>
    refine pure ⟨List.length_reverse, fun value member => holds value ?_⟩
    exact List.mem_reverse.mp member
  | succ count inductionHypothesis =>
    refine each.bind fun value new => ?_
    have later := inductionHypothesis (value :: found) (by
      intro other member
      rcases List.mem_cons.mp member with rfl | old
      · exact new
      · exact holds other old)
    refine later.imp fun values ⟨length, all⟩ => ⟨?_, all⟩
    rw [length, List.length_cons]
    omega

end Makes

/-! ## Lengths in heads -/

/-- The length that a marker tells or announces fits four octets. -/
def Marker.isShort : Marker → Bool
  | .fixText length | .fixArray length => decide (length < 32)
  | .text width | .binary width | .array width => decide (width.octets ≤ 4)
  | _ => true

/-- No octet is a marker of a longer length. -/
theorem Marker.isShort_ofOctet (octet : UInt8) : (Marker.ofOctet octet).isShort = true := by
  have table : ∀ code : Fin 256, (Marker.ofOctet (UInt8.ofNat code.val)).isShort = true := by
    decide +kernel
  have entry := table ⟨octet.toNat, octet.toNat_lt⟩
  simpa using entry

/-- The length in a head fits four octets. -/
def Head.Short : Head → Prop
  | .text length | .binary length | .array length => length < Bytes.span 4
  | _ => True

/-- A marker that is read is short. -/
theorem makes_marker : Makes Reader.marker fun marker => marker.isShort = true := by
  intro octets marker rest whole
  cases octets with
  | nil => cases whole
  | cons octet later =>
    cases whole
    exact Marker.isShort_ofOctet octet

/-- A number that is read fits its width. -/
theorem makes_number (width : Width) :
    Makes (Reader.number width) fun number => number < Bytes.span width.octets := by
  intro octets number rest whole
  unfold Reader.number at whole
  split at whole
  · next digits later taken =>
    cases whole
    have bound := Bytes.ofLittleEndian_lt digits.reverse
    rwa [List.length_reverse, (Bytes.split_eq_some taken).2] at bound
  · cases whole

/-- Contents that are read have the length that was told. -/
theorem makes_contents (length : Nat) :
    Makes (Reader.contents length) fun octets => octets.length = length := by
  intro octets contents rest whole
  unfold Reader.contents at whole
  split at whole
  · next taken =>
    cases whole
    exact (Bytes.split_eq_some taken).2
  · cases whole

/-- A number of at most four octets is below what four octets hold. -/
theorem makes_length {width : Width} (short : decide (width.octets ≤ 4) = true) :
    Makes (Reader.number width) fun number => number < Bytes.span 4 := by
  refine (makes_number width).imp fun number bound => Nat.lt_of_lt_of_le bound ?_
  cases width with
  | one => decide
  | two => decide
  | four => decide
  | eight => cases short

/-- A head that is read tells a length that four octets can hold. -/
theorem makes_head : Makes Reader.head Head.Short := by
  refine makes_marker.bind fun marker short => ?_
  have small : ∀ length, decide (length < 32) = true → length < Bytes.span 4 := fun length below =>
    Nat.lt_trans (of_decide_eq_true below) (by decide)
  cases marker with
  | fixText length => exact Makes.pure (small length short)
  | fixArray length => exact Makes.pure (small length short)
  | text width => exact (makes_length short).bind fun _ fits => Makes.pure fits
  | binary width => exact (makes_length short).bind fun _ fits => Makes.pure fits
  | array width => exact (makes_length short).bind fun _ fits => Makes.pure fits
  | fixMap length => exact Makes.pure trivial
  | map width => exact (Makes.anything _).bind fun _ _ => Makes.pure trivial
  | fixExtension power => exact Makes.pure trivial
  | extension width => exact (Makes.anything _).bind fun _ _ => Makes.pure trivial
  | reserved => exact Makes.refuse _
  | _ => exact (Makes.anything _).bind fun _ _ => Makes.pure trivial

/-! ## Values of fields -/

/-- A text that is read has a length that four octets can hold. -/
theorem makes_text : Makes Reader.text fun value => (Utf8.encode value).length < Bytes.span 4 := by
  refine makes_head.bind fun head short => ?_
  cases head with
  | text length =>
    refine (makes_contents length).bind fun octets same => ?_
    split
    · next value read =>
      rw [Utf8.decode_eq_ok_iff] at read
      subst read
      exact Makes.pure (same ▸ short)
    · exact Makes.refuse _
  | binary length =>
    refine (makes_contents length).bind fun octets same => ?_
    split
    · next value read =>
      rw [Utf8.decode_eq_ok_iff] at read
      subst read
      exact Makes.pure (same ▸ short)
    · exact Makes.refuse _
  | _ => exact Makes.reject _ _

/-- Texts that are read fit, and so does their number. -/
theorem makes_texts : Makes Reader.texts (FieldKind.Fits .texts) := by
  have values : ∀ length, length < Bytes.span 4 →
      Makes (Reader.values Reader.text length) (FieldKind.Fits .texts) := by
    intro length short
    refine (makes_text.valuesAfter length [] (by simp)).imp fun values ⟨same, all⟩ => ⟨?_, all⟩
    rwa [same, List.length_nil, Nat.zero_add]
  refine makes_head.bind fun head short => ?_
  cases head with
  | array length => exact values length short
  | binary length =>
    exact (Makes.anything _).bind fun octets _ => (values length short).within _
  | _ => exact Makes.reject _ _

/-- A value of a field that is read is of a length that can be written. -/
theorem makes_field (kind : FieldKind) : Makes kind.read kind.Fits := by
  cases kind with
  | text => exact makes_text
  | texts => exact makes_texts
  | _ => exact Makes.anything _

/-! ## Records -/

/-- What has been read is of lengths that four octets hold. -/
def Slots.Fit : (fields : List Field) → Slots fields → Prop
  | [], () => True
  | field :: fields, (slot, slots) =>
    (∀ value, slot = some value → field.kind.Fits value) ∧ Slots.Fit fields slots

/-- With no value read, all values that were read fit. -/
theorem Slots.fit_empty (fields : List Field) : Slots.Fit fields (Slots.empty fields) := by
  induction fields with
  | nil => trivial
  | cons field fields inductionHypothesis => exact ⟨by simp, inductionHypothesis⟩

/-- A value that is read into its slot fits the field. -/
theorem makes_slots (fields : List Field) (index : Nat) {slots : Slots fields}
    (fit : Slots.Fit fields slots) :
    Makes (Slots.read fields index slots) (Slots.Fit fields) := by
  induction fields generalizing index with
  | nil => exact Makes.pure trivial
  | cons field fields inductionHypothesis =>
    obtain ⟨slot, slots⟩ := slots
    obtain ⟨slotFits, slotsFit⟩ := fit
    cases index with
    | zero =>
      cases slot with
      | some value => exact Makes.refuse _
      | none =>
        refine (makes_field field.kind).bind fun value fits => Makes.pure ⟨?_, slotsFit⟩
        rintro _ ⟨⟩
        exact fits
    | succ index =>
      exact (inductionHypothesis index slotsFit).bind fun slots fit => Makes.pure ⟨slotFits, fit⟩

/-- All values that are read from entries fit. -/
theorem makes_entries (fields : List Field) (count : Nat) {slots : Slots fields}
    (fit : Slots.Fit fields slots) :
    Makes (Reader.entries fields count slots) (Slots.Fit fields) := by
  induction count generalizing slots with
  | zero => exact Makes.pure fit
  | succ count inductionHypothesis =>
    refine (Makes.anything _).bind fun named _ => ?_
    cases named with
    | some index =>
      exact (makes_slots fields index fit).bind fun slots fit => inductionHypothesis fit
    | none => exact (Makes.anything _).bind fun _ _ => inductionHypothesis fit

variable {fields : List Field}

/-- The values that fields have when they are left out are of lengths that four octets hold. -/
def DefaultsFit (fields : List Field) : Prop :=
  ∀ field ∈ fields, ∀ value, field.default? = some value → field.kind.Fits value

/-- Values that were read fit, and so do defaults in the place of missing ones. -/
theorem Slots.fit_of_complete (defaults : DefaultsFit fields) {slots : Slots fields}
    (fit : Slots.Fit fields slots) {values : Values fields}
    (completed : Slots.complete fields slots = .ok values) : values.Fit fields := by
  induction fields with
  | nil => trivial
  | cons field fields inductionHypothesis =>
    obtain ⟨slot, slots⟩ := slots
    unfold Slots.complete at completed
    split at completed
    · cases completed
    · next value chosen =>
      split at completed
      · next later rest =>
        cases completed
        refine ⟨?_, inductionHypothesis (fun other member => defaults other
          (List.mem_cons_of_mem _ member)) fit.2 rest⟩
        cases slot with
        | some read => exact fit.1 value chosen
        | none => exact defaults field List.mem_cons_self value chosen
      · cases completed

/-- All values that are read from an array fit. -/
theorem makes_elements (shape : Shape) (defaults : DefaultsFit fields) (index left : Nat) :
    Makes (Reader.elements shape fields index left) fun result => result.1.Fit fields := by
  induction fields generalizing index left with
  | nil => exact Makes.pure trivial
  | cons field fields inductionHypothesis =>
    have later := fun left => inductionHypothesis
      (fun other member => defaults other (List.mem_cons_of_mem _ member)) (index + 1) left
    cases left with
    | zero =>
      unfold Reader.elements
      split
      · exact Makes.refuse _
      · next value left =>
        exact (later 0).bind fun result fit =>
          Makes.pure ⟨defaults field List.mem_cons_self value left, fit⟩
    | succ left =>
      exact (makes_field field.kind).bind fun value fits =>
        (later left).bind fun result fit => Makes.pure ⟨fits, fit⟩

/-- The values of an array fit the record. -/
theorem makes_array {shape : Shape} (defaults : DefaultsFit shape.fields) (length : Nat) :
    Makes (Reader.array shape length) fun values => values.Fit shape.fields := by
  refine (makes_elements shape defaults 0 length).bind fun result fit => ?_
  dsimp only
  split
  · exact Makes.pure fit
  · exact Makes.refuse _

/-- The values of a record fit it, in whatever form they are read. -/
theorem makes_record {shape : Shape} (defaults : DefaultsFit shape.fields) :
    Makes (Reader.record shape) fun values => values.Fit shape.fields := by
  refine (Makes.anything _).bind fun head _ => ?_
  cases head with
  | map length =>
    refine (makes_entries shape.fields length (Slots.fit_empty _)).bind fun slots fit => ?_
    split
    · next values completed => exact Makes.pure (Slots.fit_of_complete defaults fit completed)
    · exact Makes.refuse _
  | array length => exact makes_array defaults length
  | binary length =>
    exact (Makes.anything _).bind fun octets _ => (makes_array defaults length).within _
  | _ => exact Makes.reject _ _

/-- A record that is read can be written again, if it can with every field left out that may be. -/
theorem Shape.fit_of_decode {shape : Shape} (defaults : DefaultsFit shape.fields) {octets : Bytes}
    {values : Values shape.fields} (read : shape.decode octets = .ok values) :
    values.Fit shape.fields := by
  unfold Shape.decode at read
  split at read
  · next rest made =>
    cases read
    exact makes_record defaults octets _ rest made
  · cases read

end RemoteAgent.MessagePack
