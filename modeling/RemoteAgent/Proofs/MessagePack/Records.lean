import RemoteAgent.Payload
import RemoteAgent.Proofs.MessagePack.Entries

/-!
# Records come back

A record is written in one of its forms (`Values.told_written`): every number and every length in the
shortest width that holds it, and every field under its name. So it reads as it was written, when its
fields have names of their own and every text and list in it is of a length that four octets hold
(`Shape.decode_encode`).
-/

namespace RemoteAgent.MessagePack

/-- The texts and lists of a value are of lengths that four octets hold. -/
def FieldKind.Fits : (kind : FieldKind) → kind.Value → Prop
  | .text, value => (Utf8.encode value).length < Bytes.span 4
  | .texts, values => values.length < Bytes.span 4 ∧
    ∀ value ∈ values, (Utf8.encode value).length < Bytes.span 4
  | _, _ => True

/-- Every value of a record is of a length that four octets hold. -/
def Values.Fit : (fields : List Field) → Values fields → Prop
  | [], () => True
  | field :: fields, (value, values) => field.kind.Fits value ∧ Values.Fit fields values

/-! ## What is written is a form -/

/-- The head of a text is one of the forms of its length. -/
theorem opens_textHead {length : Nat} (fits : length < Bytes.span 4) :
    Opens (.text length) (Writer.textHead (Writer.told length)) := by
  rw [Writer.told_of_lt fits]
  unfold Writer.textHead
  split
  · next small => exact .fixText small
  · split
    · next small => exact @Opens.text .one _ (by decide) small
    · split
      · next small => exact @Opens.text .two _ (by decide) small
      · exact @Opens.text .four _ (by decide) fits

/-- The head of an array is one of the forms of its length. -/
theorem opens_arrayHead {length : Nat} (fits : length < Bytes.span 4) :
    Opens (.array length) (Writer.arrayHead (Writer.told length)) := by
  rw [Writer.told_of_lt fits]
  unfold Writer.arrayHead
  split
  · next small => exact .fixArray small
  · split
    · next small => exact @Opens.array .two _ (.inl rfl) small
    · exact @Opens.array .four _ (.inr rfl) fits

/-- The head of a map is one of the forms of its length. -/
theorem opens_mapHead {length : Nat} (fits : length < Bytes.span 4) :
    Opens (.map length) (Writer.mapHead length) := by
  unfold Writer.mapHead
  split
  · next small => exact .fixMap small
  · split
    · next small => exact @Opens.map .two _ (.inl rfl) small
    · exact @Opens.map .four _ (.inr rfl) fits

/-- A text is written as a quotation of its octets. -/
theorem quotes_text {value : String} (fits : (Utf8.encode value).length < Bytes.span 4) :
    Quotes (Utf8.encode value) (Writer.text value) :=
  ⟨_, rfl, .inl (opens_textHead fits)⟩

/-- A number without a sign is written as one of its spellings. -/
theorem spelled_unsigned {value : Nat} (fits : value < Bytes.span 8) :
    (Scalar.unsigned value).Spelled (Writer.unsigned value) := by
  unfold Writer.unsigned
  split
  · next small => exact .fixPositive small
  · split
    · next small => exact .unsigned .one small
    · split
      · next small => exact .unsigned .two small
      · split
        · next small => exact .unsigned .four small
        · exact .unsigned .eight fits

/-- A negative number is written in two's complement. -/
theorem spelled_negative {value : Int} (negative : value < 0) (width : Width)
    (least : -(Bytes.span width.octets : Int) ≤ 2 * value) :
    (Scalar.signed value).Spelled ((Marker.signed width).octet ::
      Bytes.bigEndian width.octets (value + Bytes.span width.octets).toNat) := by
  have wrapped : value % Bytes.span width.octets = value + Bytes.span width.octets := by
    rw [← Int.add_emod_right]
    exact Int.emod_eq_of_lt (by omega) (by omega)
  rw [← wrapped]
  exact .signed width least (by omega)

/-- A number with a sign is written as one of its spellings. -/
theorem counts_signed {value : Int} (least : -0x8000000000000000 ≤ value)
    (greatest : value < Bytes.span 8) : Counts value (Writer.signed value) := by
  have spans : Bytes.span 1 = 0x100 ∧ Bytes.span 2 = 0x10000 ∧ Bytes.span 4 = 0x100000000 ∧
      Bytes.span 8 = 0x10000000000000000 := by decide
  obtain ⟨one, two, four, eight⟩ := spans
  unfold Writer.signed
  split
  · next positive =>
    exact .inr ⟨value.toNat, (Int.toNat_of_nonneg positive).symm, spelled_unsigned (by omega)⟩
  · next negative =>
    refine .inl ?_
    have below : value < 0 := by omega
    split
    · next small =>
      have distance : (((value + 32).toNat : Nat) : Int) - 32 = value := by omega
      have spelled := @Scalar.Spelled.fixNegative (value + 32).toNat (by omega)
      rwa [distance] at spelled
    · split
      · exact spelled_negative below .one (by simp only [Width.octets, one]; omega)
      · split
        · exact spelled_negative below .two (by simp only [Width.octets, two]; omega)
        · split
          · exact spelled_negative below .four (by simp only [Width.octets, four]; omega)
          · exact spelled_negative below .eight (by simp only [Width.octets, eight]; omega)

/-- A list of texts is written as one of its spellings. -/
theorem spelled_texts {values : List String} (fits : FieldKind.Fits .texts values) :
    FieldKind.Spelled .texts values (Writer.texts values) := by
  refine ⟨_, values.map Writer.text, by rw [Writer.texts, List.flatMap_def], ?_, ?_⟩
  · exact opens_arrayHead fits.1
  · exact List.forall₂_map_right_iff.mpr
      (List.forall₂_same.mpr fun value member => quotes_text (fits.2 value member))

/-- A value of a field is written in one of its forms. -/
theorem FieldKind.spelled_write {kind : FieldKind} {value : kind.Value} (fits : kind.Fits value) :
    kind.Spelled value (kind.write value) := by
  have eight : Bytes.span 8 = 0x10000000000000000 := by decide
  cases kind with
  | text => exact quotes_text fits
  | unsigned64 =>
    have bound := UInt64.toNat_lt value
    exact .inr ⟨_, rfl, spelled_unsigned (by omega)⟩
  | unsigned32 =>
    have bound := UInt32.toNat_lt value
    exact .inr ⟨_, rfl, spelled_unsigned (by omega)⟩
  | signed64 =>
    have least := Int64.le_toInt value
    have greatest := Int64.toInt_lt value
    exact counts_signed (by omega) (by omega)
  | boolean => exact .boolean value
  | texts => exact spelled_texts fits

/-! ## Records -/

/-- The entries of the map that a record is written as. -/
def Values.entries : (fields : List Field) → Values fields → List (Bytes × Bytes)
  | [], () => []
  | field :: fields, (value, values) =>
    (Writer.text field.name, field.kind.write value) :: entries fields values

variable {fields : List Field}

/-- The values of a record are written entry by entry. -/
theorem Values.write_eq (fields : List Field) (values : Values fields) :
    values.write fields = (values.entries fields).flatMap fun entry => entry.1 ++ entry.2 := by
  induction fields with
  | nil => rfl
  | cons field fields inductionHypothesis =>
    obtain ⟨value, values⟩ := values
    rw [Values.write, Values.entries, List.flatMap_cons, inductionHypothesis]

/-- The entries have the names of the fields, in their order. -/
theorem Values.keys_entries (fields : List Field) (values : Values fields) :
    (values.entries fields).map Prod.fst = fields.map fun field => Writer.text field.name := by
  induction fields with
  | nil => rfl
  | cons field fields inductionHypothesis =>
    exact congrArg (Writer.text field.name :: ·) (inductionHypothesis values.2)

/-- There is an entry for each field. -/
theorem Values.length_entries (fields : List Field) (values : Values fields) :
    (values.entries fields).length = fields.length := by
  have same := congrArg List.length (values.keys_entries fields)
  rwa [List.length_map, List.length_map] at same

/-- Each entry has a spelling of the value of its field. -/
theorem Values.spelled_entries {values : Values fields} (fit : values.Fit fields) {index : Nat}
    {entry : Bytes × Bytes} (place : (values.entries fields)[index]? = some entry) :
    values.Spelled fields index entry.2 := by
  induction fields generalizing index with
  | nil => cases place
  | cons field fields inductionHypothesis =>
    cases index with
    | zero =>
      cases place
      exact FieldKind.spelled_write fit.1
    | succ index => exact inductionHypothesis fit.2 place

/-- There is nothing to leave out behind the last field. -/
theorem Values.isDefault_of_le {values : Values fields} {index : Nat}
    (beyond : fields.length ≤ index) : values.IsDefault fields index := by
  induction fields generalizing index with
  | nil => trivial
  | cons field fields inductionHypothesis =>
    cases index with
    | zero => cases beyond
    | succ index => exact inductionHypothesis (Nat.le_of_succ_le_succ beyond)

/-- The entries that a record is written as hold its values. -/
theorem Values.told_written (distinct : (fields.map Field.name).Nodup)
    (named : ∀ field ∈ fields, (Utf8.encode field.name).length < Bytes.span 4)
    {values : Values fields} (fit : values.Fit fields) : values.Told (values.entries fields) := by
  have names : ∀ index entry, (values.entries fields)[index]? = some entry →
      Names fields index entry.1 := by
    intro index entry place
    have key := congrArg (·[index]?) (values.keys_entries fields)
    simp only [List.getElem?_map, place, Option.map_some] at key
    obtain ⟨field, inside, same⟩ := Option.map_eq_some_iff.mp key.symm
    exact ⟨field, inside, .inl (same ▸ quotes_text (named field (List.mem_of_getElem? inside)))⟩
  refine ⟨?_, ?_, ?_⟩
  · intro entry member
    obtain ⟨index, place⟩ := List.mem_iff_getElem?.mp member
    exact .inl ⟨index, names index entry place, spelled_entries fit place⟩
  · refine List.pairwise_iff_getElem.mpr fun first second inside later before index one other => ?_
    have firstIs := one.unique distinct (names first _ (List.getElem?_eq_getElem inside))
    have secondIs := other.unique distinct (names second _ (List.getElem?_eq_getElem later))
    omega
  · intro index unnamed
    by_cases inside : index < (values.entries fields).length
    · exact absurd (names index _ (List.getElem?_eq_getElem inside))
        (unnamed _ (List.getElem_mem inside))
    · exact isDefault_of_le (by rw [← values.length_entries fields]; omega)

/-- What is written for a record is taken whole, if its fields have names of their own. -/
theorem Shape.reads_encode {shape : Shape} (distinct : (shape.fields.map Field.name).Nodup)
    (named : ∀ field ∈ shape.fields, (Utf8.encode field.name).length < Bytes.span 4)
    (few : shape.fields.length < Bytes.span 4) {values : Values shape.fields}
    (fit : values.Fit shape.fields) : Reads (Reader.record shape) (shape.encode values) values := by
  rw [Shape.encode, Values.write_eq]
  refine Shape.reads_of_told distinct (values.told_written distinct named fit) ?_
  rw [Values.length_entries]
  exact opens_mapHead few

/-- A record reads as it was written, if its fields have names of their own. -/
theorem Shape.decode_encode {shape : Shape} (distinct : (shape.fields.map Field.name).Nodup)
    (named : ∀ field ∈ shape.fields, (Utf8.encode field.name).length < Bytes.span 4)
    (few : shape.fields.length < Bytes.span 4) {values : Values shape.fields}
    (fit : values.Fit shape.fields) : shape.decode (shape.encode values) = .ok values := by
  rw [← List.append_nil (shape.encode values)]
  exact Shape.decode_of_reads (Shape.reads_encode distinct named few fit)

end RemoteAgent.MessagePack
