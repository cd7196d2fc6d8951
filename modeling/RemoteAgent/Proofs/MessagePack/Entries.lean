import RemoteAgent.Proofs.MessagePack.Whole
import Mathlib.Data.List.Forall2

/-!
# Records in every form

The octets of a record may name a field by its name or by its number, in any order, among entries
that belong to no field, and leave out what has its default (`Values.Told`); or give the values
alone, in field order (`Values.InOrder`). Each of these forms reads as the record. The fields that
have been read so far are those that the entries so far have named (`Slots.among`).
-/

namespace RemoteAgent.MessagePack

/-! ## Values of fields in every form -/

/-- The octets of a text, or of the octets of a text. -/
def Quotes (contents octets : Bytes) : Prop :=
  ∃ front, octets = front ++ contents ∧
    (Opens (.text contents.length) front ∨ Opens (.binary contents.length) front)

/-- The octets of a whole number, written with a sign or without. -/
def Counts (value : Int) (octets : Bytes) : Prop :=
  (Scalar.signed value).Spelled octets ∨
    ∃ natural : Nat, value = natural ∧ (Scalar.unsigned natural).Spelled octets

/-- The octets of a value of a kind. -/
def FieldKind.Spelled : (kind : FieldKind) → kind.Value → Bytes → Prop
  | .text, value, octets => Quotes (Utf8.encode value) octets
  | .unsigned64, value, octets => Counts value.toNat octets
  | .unsigned32, value, octets => Counts value.toNat octets
  | .signed64, value, octets => Counts value.toInt octets
  | .boolean, value, octets => (Scalar.boolean value).Spelled octets
  | .texts, values, octets => ∃ front spellings, octets = front ++ spellings.flatten ∧
    Opens (.array values.length) front ∧
      List.Forall₂ (fun value spelling => Quotes (Utf8.encode value) spelling) values spellings

/-- A text is read from its forms. -/
theorem reads_quoted {value : String} {octets : Bytes} (quotes : Quotes (Utf8.encode value) octets) :
    Reads Reader.text octets value := by
  obtain ⟨front, rfl, opens⟩ := quotes
  have contents := reads_contents (Utf8.encode value)
  rcases opens with opens | opens
  · refine opens.reads.bind fun rest => (bind_of_ok (contents rest)).trans ?_
    rw [Utf8.decode_encode]
    rfl
  · refine opens.reads.bind fun rest => (bind_of_ok (contents rest)).trans ?_
    rw [Utf8.decode_encode]
    rfl

/-- A number within the bounds is read from its forms. -/
theorem reads_counted {value least greatest : Int} {expected : Expected} {octets : Bytes}
    (counts : Counts value octets) (above : least ≤ value) (below : value ≤ greatest) :
    Reads (Reader.integer least greatest expected) octets value := by
  have ranged : Reads (if least ≤ value ∧ value ≤ greatest then Pure.pure value
      else Reader.refuse (.invalidValue (.integer value) expected)) [] value := by
    rw [if_pos ⟨above, below⟩]
    exact Reads.pure value
  rcases counts with spelled | ⟨natural, rfl, spelled⟩
  · exact spelled.reads.last ranged
  · exact spelled.reads.last ranged

/-- Texts are read one after the other from their forms. -/
theorem reads_spellings {values : List String} {spellings : List Bytes}
    (each : List.Forall₂ (fun value spelling => Quotes (Utf8.encode value) spelling) values
      spellings) (found : List String) :
    Reads (Reader.valuesAfter Reader.text values.length found) spellings.flatten
      (found.reverse ++ values) := by
  induction each generalizing found with
  | nil =>
    rw [List.append_nil]
    exact Reads.pure _
  | @cons value spelling values spellings quotes _ inductionHypothesis =>
    have later := inductionHypothesis (value :: found)
    rw [List.reverse_cons, List.append_assoc, List.singleton_append] at later
    exact (reads_quoted quotes).bind later

/-- A value of a field is read in every form. -/
theorem FieldKind.Spelled.reads {kind : FieldKind} {value : kind.Value} {octets : Bytes}
    (spelled : kind.Spelled value octets) : Reads kind.read octets value := by
  cases kind with
  | text => exact reads_quoted spelled
  | unsigned64 =>
    have bound := UInt64.toNat_lt value
    have reads := (@reads_counted value.toNat 0 0xFFFFFFFFFFFFFFFF .unsigned64 octets spelled
      (by omega) (by omega)).map fun number => UInt64.ofNat number.toNat
    rwa [Int.toNat_natCast, UInt64.ofNat_toNat] at reads
  | unsigned32 =>
    have bound := UInt32.toNat_lt value
    have reads := (@reads_counted value.toNat 0 0xFFFFFFFF .unsigned32 octets spelled
      (by omega) (by omega)).map fun number => UInt32.ofNat number.toNat
    rwa [Int.toNat_natCast, UInt32.ofNat_toNat] at reads
  | signed64 =>
    have least := Int64.le_toInt value
    have greatest := Int64.toInt_lt value
    have reads := (@reads_counted value.toInt (-0x8000000000000000) 0x7FFFFFFFFFFFFFFF .signed64
      octets spelled (by omega) (by omega)).map Int64.ofInt
    rwa [Int64.ofInt_toInt] at reads
  | boolean => exact (Scalar.Spelled.reads spelled).last (Reads.pure value)
  | texts =>
    obtain ⟨front, spellings, rfl, opens, each⟩ := spelled
    exact opens.reads.bind (reads_spellings each [])

/-! ## Keys -/

variable {fields : List Field}

/-- A key names a field, by its name or by its number. -/
def Names (fields : List Field) (index : Nat) (key : Bytes) : Prop :=
  ∃ field, fields[index]? = some field ∧
    (Quotes (Utf8.encode field.name) key ∨ (Scalar.unsigned index).Spelled key)

/-- A key belongs to no field: it is another name, or a number behind those of the fields. -/
def Strange (fields : List Field) (key : Bytes) : Prop :=
  (∃ name, Quotes name key ∧ ∀ field ∈ fields, Utf8.encode field.name ≠ name) ∨
    ∃ number, fields.length ≤ number ∧ (Scalar.unsigned number).Spelled key

/-- A field is found under its own name. -/
theorem findIdx?_name (distinct : (fields.map Field.name).Nodup) {index : Nat}
    (inside : index < fields.length) :
    fields.findIdx? (fun field => Utf8.encode field.name == Utf8.encode fields[index].name) =
      some index := by
  refine List.findIdx?_eq_some_iff_getElem.mpr ⟨inside, by simp, ?_⟩
  intro earlier before same
  have apart := List.pairwise_iff_getElem.mp (List.pairwise_map.mp distinct) earlier index
    (Nat.lt_trans before inside) inside before
  exact apart (Utf8.encode_injective (by simpa using same))

/-- A key that is a name is read as the number of the field with that name. -/
theorem reads_name {name key : Bytes} (quotes : Quotes name key) :
    Reads (Reader.fieldIndex fields) key
      (fields.findIdx? fun field => Utf8.encode field.name == name) := by
  obtain ⟨front, rfl, opens⟩ := quotes
  have found := (reads_contents name).map fun name =>
    fields.findIdx? fun field => Utf8.encode field.name == name
  rcases opens with opens | opens
  · exact opens.reads.bind found
  · exact opens.reads.bind found

/-- A key that is a number is read as that number, if there is such a field. -/
theorem reads_fieldNumber {number : Nat} {key : Bytes}
    (spelled : (Scalar.unsigned number).Spelled key) :
    Reads (Reader.fieldIndex fields) key (if number < fields.length then some number else none) :=
  (Opens.scalar spelled).reads.last (Reads.pure _)

/-- A key that names a field is read as the number of that field. -/
theorem Names.reads (distinct : (fields.map Field.name).Nodup) {index : Nat} {key : Bytes}
    (names : Names fields index key) : Reads (Reader.fieldIndex fields) key (some index) := by
  obtain ⟨field, place, quotes | spelled⟩ := names
  · obtain ⟨inside, rfl⟩ := List.getElem?_eq_some_iff.mp place
    rw [← findIdx?_name distinct inside]
    exact reads_name quotes
  · obtain ⟨inside, -⟩ := List.getElem?_eq_some_iff.mp place
    have reads := @reads_fieldNumber fields index key spelled
    rwa [if_pos inside] at reads

/-- A strange key is read as no field. -/
theorem Strange.reads {key : Bytes} (strange : Strange fields key) :
    Reads (Reader.fieldIndex fields) key none := by
  rcases strange with ⟨name, quotes, other⟩ | ⟨number, beyond, spelled⟩
  · have unknown : fields.findIdx? (fun field => Utf8.encode field.name == name) = none := by
      rw [List.findIdx?_eq_none_iff]
      intro field member
      exact beq_eq_false_iff_ne.mpr (other field member)
    rw [← unknown]
    exact reads_name quotes
  · have reads := @reads_fieldNumber fields number key spelled
    rwa [if_neg (by omega)] at reads

/-- A key names one field. -/
theorem Names.unique (distinct : (fields.map Field.name).Nodup) {first second : Nat} {key : Bytes}
    (one : Names fields first key) (other : Names fields second key) : first = second :=
  Option.some.inj ((one.reads distinct).unique (other.reads distinct))

/-- A strange key names no field. -/
theorem Strange.names_none (distinct : (fields.map Field.name).Nodup) {index : Nat} {key : Bytes}
    (strange : Strange fields key) : ¬ Names fields index key := by
  intro names
  cases (names.reads distinct).unique strange.reads

/-! ## Maps -/

/-- The octets of the value of the field at `index`. -/
def Values.Spelled : (fields : List Field) → Values fields → (index : Nat) → Bytes → Prop
  | [], (), _, _ => False
  | field :: _, (value, _), 0, octets => field.kind.Spelled value octets
  | _ :: fields, (_, values), index + 1, octets => Spelled fields values index octets

/-- The field at `index` has the value that it has when it is left out. -/
def Values.IsDefault : (fields : List Field) → Values fields → (index : Nat) → Prop
  | [], (), _ => True
  | field :: _, (value, _), 0 => field.default? = some value
  | _ :: fields, (_, values), index + 1 => IsDefault fields values index

/-- Octets that begin with a map of the entries, each a key and a value. -/
def BeginsMap (entries : List (Bytes × Bytes)) (octets : Bytes) : Prop :=
  ∃ front trailing, Opens (.map entries.length) front ∧
    octets = front ++ entries.flatMap (fun entry => entry.1 ++ entry.2) ++ trailing

/-- No field is named by two entries. -/
def NamesOnce (fields : List Field) (entries : List (Bytes × Bytes)) : Prop :=
  entries.Pairwise fun first second =>
    ∀ index, Names fields index first.1 → ¬ Names fields index second.1

/-- Entries of a map that hold the values of a record, in any order and among any others. -/
structure Values.Told (values : Values fields) (entries : List (Bytes × Bytes)) : Prop where
  /-- An entry holds the value of the field that it names, or belongs to no field. -/
  each : ∀ entry ∈ entries,
    (∃ index, Names fields index entry.1 ∧ values.Spelled fields index entry.2) ∨
      (Strange fields entry.1 ∧ WellFormed (Reader.depthLimit - 1) 1 entry.2)
  /-- No field is named by two entries. -/
  once : NamesOnce fields entries
  /-- A field that is left out has its default. -/
  omitted : ∀ index, (∀ entry ∈ entries, ¬ Names fields index entry.1) →
    values.IsDefault fields index

/-- What has been read when the known fields have been. -/
def Slots.among : (fields : List Field) → Values fields → (known : Nat → Bool) → Slots fields
  | [], (), _ => ()
  | _ :: fields, (value, values), known =>
    (if known 0 then some value else none, among fields values fun index => known (index + 1))

theorem Slots.among_none (fields : List Field) (values : Values fields) :
    Slots.among fields values (fun _ => false) = Slots.empty fields := by
  induction fields with
  | nil => rfl
  | cons field fields inductionHypothesis =>
    exact congrArg (Prod.mk none) (inductionHypothesis values.2)

/-- Fields that have not been read are completed by their defaults. -/
theorem Slots.complete_among {values : Values fields} {known : Nat → Bool}
    (omitted : ∀ index, known index = false → values.IsDefault fields index) :
    Slots.complete fields (Slots.among fields values known) = .ok values := by
  induction fields generalizing known with
  | nil => rfl
  | cons field fields inductionHypothesis =>
    obtain ⟨value, values⟩ := values
    have later := inductionHypothesis fun index unknown => omitted (index + 1) unknown
    have first : ((if known 0 then some value else none) <|> field.default?) = some value := by
      cases read : known 0 with
      | true => rfl
      | false => exact omitted 0 read
    simp only [Slots.among, Slots.complete, first, later]

/-- The value of a field that is not known yet is read, and nothing else changes. -/
theorem reads_among {values : Values fields} {index : Nat} {octets : Bytes}
    (spelled : values.Spelled fields index octets) {known : Nat → Bool}
    (unknown : known index = false) :
    Reads (Slots.read fields index (Slots.among fields values known)) octets
      (Slots.among fields values fun other => known other || other == index) := by
  induction fields generalizing index known with
  | nil => cases spelled
  | cons field fields inductionHypothesis =>
    obtain ⟨value, values⟩ := values
    cases index with
    | zero =>
      have others : (fun other => known (other + 1) || other + 1 == 0) =
          fun other => known (other + 1) := by
        funext other
        simp
      have reads := (FieldKind.Spelled.reads spelled).map fun value =>
        (some value, Slots.among fields values fun other => known (other + 1))
      simpa [Slots.among, Slots.read, unknown, others] using reads
    | succ index =>
      have others : (fun other => known (other + 1) || other + 1 == index + 1) =
          fun other => known (other + 1) || other == index := by
        funext other
        simp
      have reads := (@inductionHypothesis values index spelled (fun other => known (other + 1))
        unknown).map fun slots => ((if known 0 then some value else none), slots)
      simpa [Slots.among, Slots.read, others] using reads

/-- Reading entries one after the other: the known fields are those that were known before, and
those that the entries name. -/
theorem reads_told (distinct : (fields.map Field.name).Nodup) {values : Values fields}
    {entries : List (Bytes × Bytes)}
    (each : ∀ entry ∈ entries,
      (∃ index, Names fields index entry.1 ∧ values.Spelled fields index entry.2) ∨
        (Strange fields entry.1 ∧ WellFormed (Reader.depthLimit - 1) 1 entry.2))
    (once : NamesOnce fields entries) {known : Nat → Bool}
    (fresh : ∀ entry ∈ entries, ∀ index, Names fields index entry.1 → known index = false) :
    ∃ later : Nat → Bool,
      Reads (Reader.entries fields entries.length (Slots.among fields values known))
        (entries.flatMap fun entry => entry.1 ++ entry.2) (Slots.among fields values later) ∧
      ∀ index, later index = false ↔
        known index = false ∧ ∀ entry ∈ entries, ¬ Names fields index entry.1 := by
  induction entries generalizing known with
  | nil => exact ⟨known, Reads.pure _, fun index => by simp⟩
  | cons entry entries inductionHypothesis =>
    obtain ⟨key, value⟩ := entry
    obtain ⟨apart, onceLater⟩ := List.pairwise_cons.mp once
    have eachLater := fun other member => each other (List.mem_cons_of_mem _ member)
    have freshLater := fun other member => fresh other (List.mem_cons_of_mem _ member)
    rw [List.flatMap_cons, List.append_assoc]
    rcases each (key, value) List.mem_cons_self with ⟨index, names, spelled⟩ | ⟨strange, formed⟩
    · have unknown := fresh _ List.mem_cons_self index names
      obtain ⟨later, reads, complete⟩ := @inductionHypothesis eachLater onceLater
        (fun other => known other || other == index) (by
          intro other member third namesThird
          have different : third ≠ index := by
            rintro rfl
            exact apart other member third names namesThird
          simp [freshLater other member third namesThird, different])
      refine ⟨later, (names.reads distinct).bind ((reads_among spelled unknown).bind reads), ?_⟩
      intro other
      rw [complete, Bool.or_eq_false_iff, beq_eq_false_iff_ne, List.forall_mem_cons, and_assoc]
      refine and_congr_right fun _ => and_congr_left fun _ => not_congr ?_
      exact ⟨fun same => same ▸ names, fun namesOther => namesOther.unique distinct names⟩
    · obtain ⟨later, reads, complete⟩ := inductionHypothesis eachLater onceLater freshLater
      refine ⟨later, strange.reads.bind (formed.skips.bind reads), ?_⟩
      intro other
      rw [complete, List.forall_mem_cons]
      exact and_congr_right fun _ => (and_iff_right (strange.names_none distinct)).symm

/-- What a record is read as does not depend on what is behind it. -/
theorem Shape.decode_of_reads {shape : Shape} {octets trailing : Bytes}
    {values : Values shape.fields} (reads : Reads (Reader.record shape) octets values) :
    shape.decode (octets ++ trailing) = .ok values := by
  rw [Shape.decode, reads trailing]

/-- A map that holds the values of a record is taken whole. -/
theorem Shape.reads_of_told {shape : Shape} (distinct : (shape.fields.map Field.name).Nodup)
    {values : Values shape.fields} {entries : List (Bytes × Bytes)} (told : values.Told entries)
    {front : Bytes} (opens : Opens (.map entries.length) front) :
    Reads (Reader.record shape) (front ++ entries.flatMap fun entry => entry.1 ++ entry.2)
      values := by
  obtain ⟨later, reads, complete⟩ := @reads_told _ distinct values entries told.each told.once
    (fun _ => false) (fun _ _ _ _ => rfl)
  rw [Slots.among_none] at reads
  have completed := Slots.complete_among fun index unread =>
    told.omitted index ((complete index).mp unread).2
  refine opens.reads.bind (reads.last ?_)
  rw [completed]
  exact Reads.pure values

/-- Every map that holds the values of a record reads as the record. -/
theorem Shape.decode_of_told {shape : Shape} (distinct : (shape.fields.map Field.name).Nodup)
    {values : Values shape.fields} {entries : List (Bytes × Bytes)} (told : values.Told entries)
    {octets : Bytes} (map : BeginsMap entries octets) : shape.decode octets = .ok values := by
  obtain ⟨front, trailing, opens, rfl⟩ := map
  exact Shape.decode_of_reads (Shape.reads_of_told distinct told opens)

/-- An entry that belongs to no field does not matter. -/
theorem Values.Told.cons_strange (distinct : (fields.map Field.name).Nodup)
    {values : Values fields} {entries : List (Bytes × Bytes)} (told : values.Told entries)
    {key value : Bytes} (strange : Strange fields key)
    (formed : WellFormed (Reader.depthLimit - 1) 1 value) :
    values.Told ((key, value) :: entries) where
  each := List.forall_mem_cons.mpr ⟨.inr ⟨strange, formed⟩, told.each⟩
  once := List.pairwise_cons.mpr
    ⟨fun _ _ _ names => absurd names (strange.names_none distinct), told.once⟩
  omitted index unnamed := told.omitted index (List.forall_mem_cons.mp unnamed).2

/-! ## Arrays -/

/-- The spellings of the values of a record in field order. The last ones may be left out when
they have their defaults. -/
def Values.InOrder : (fields : List Field) → Values fields → List Bytes → Prop
  | [], (), spellings => spellings = []
  | field :: fields, (value, values), [] =>
    field.default? = some value ∧ InOrder fields values []
  | field :: fields, (value, values), spelling :: later =>
    field.kind.Spelled value spelling ∧ InOrder fields values later

/-- Octets that begin with an array of the spellings. -/
def BeginsArray (spellings : List Bytes) (octets : Bytes) : Prop :=
  ∃ front trailing, Opens (.array spellings.length) front ∧
    octets = front ++ spellings.flatten ++ trailing

/-- Elements in the order of the fields are read as their values. -/
theorem reads_elements (shape : Shape) {values : Values fields} {spellings : List Bytes}
    (ordered : values.InOrder fields spellings) (index : Nat) :
    Reads (Reader.elements shape fields index spellings.length) spellings.flatten (values, 0) := by
  induction fields generalizing spellings index with
  | nil =>
    cases (show spellings = [] from ordered)
    exact Reads.pure _
  | cons field fields inductionHypothesis =>
    obtain ⟨value, values⟩ := values
    cases spellings with
    | nil =>
      obtain ⟨default, later⟩ := ordered
      have reads := (inductionHypothesis later (index + 1)).map fun result =>
        ((value, result.1), result.2)
      simpa [Reader.elements, default] using reads
    | cons spelling spellings =>
      obtain ⟨spelled, later⟩ := ordered
      exact spelled.reads.bind ((inductionHypothesis later (index + 1)).map fun result =>
        ((value, result.1), result.2))

/-- Every array of the values of a record reads as the record. -/
theorem Shape.decode_of_inOrder {shape : Shape} {values : Values shape.fields}
    {spellings : List Bytes} (ordered : values.InOrder shape.fields spellings) {octets : Bytes}
    (array : BeginsArray spellings octets) : shape.decode octets = .ok values := by
  obtain ⟨front, trailing, opens, rfl⟩ := array
  refine Shape.decode_of_reads (opens.reads.bind ?_)
  change Reads (Reader.array shape _) _ _
  unfold Reader.array
  exact (reads_elements shape ordered 0).last (Reads.pure values)

end RemoteAgent.MessagePack
