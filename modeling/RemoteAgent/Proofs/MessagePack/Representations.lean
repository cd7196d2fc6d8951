import RemoteAgent.Proofs.MessagePack.Records

/-!
# Records depend on their fields only

Whatever form its writer chose, a record is read as its fields. A map of well-formed entries that
names a field twice, or leaves out one that has no default, is not read at all: reading takes the
entries as they are (`yields_entries`), and then every field has been named at most once, and every
required one has been named (`Shape.named_of_decode`). `records_decode_by_fields` says both of the
metadata of files and of the options of terminals.
-/

namespace RemoteAgent.MessagePack

variable {fields : List Field}

/-! ## What reading a map says about it -/

/-- Every entry is a key and a value of some kind. -/
def AllFormed (entries : List (Bytes × Bytes)) : Prop :=
  ∀ entry ∈ entries, (∃ nesting, WellFormed nesting 1 entry.1) ∧
    ∃ nesting, WellFormed nesting 1 entry.2

/-- A key is taken for the field that it names. -/
theorem yields_fieldIndex (distinct : (fields.map Field.name).Nodup) {nesting : Nat} {key : Bytes}
    (formed : WellFormed nesting 1 key) :
    Yields (Reader.fieldIndex fields) key fun found =>
      ∀ index, found = some index ↔ Names fields index key := by
  -- A key that names a field is read as that field, so only the other direction is left.
  suffices named : Yields (Reader.fieldIndex fields) key fun found =>
      ∀ index, found = some index → Names fields index key by
    intro rest found left made
    obtain ⟨rfl, names⟩ := named rest found left made
    refine ⟨rfl, fun index => ⟨names index, fun other => ?_⟩⟩
    rw [other.reads distinct left] at made
    cases made
    rfl
  have name : ∀ {contents}, Quotes contents key → ∀ index,
      (fields.findIdx? fun field => Utf8.encode field.name == contents) = some index →
        Names fields index key := by
    intro contents quotes index found
    obtain ⟨inside, same, -⟩ := List.findIdx?_eq_some_iff_getElem.mp found
    refine ⟨fields[index], List.getElem?_eq_getElem inside, .inl ?_⟩
    rwa [beq_iff_eq.mp same]
  obtain ⟨head, front, contents, rfl, opens, follows⟩ := formed.head
  refine Yields.after opens.reads ?_
  cases follows with
  | scalar value =>
    cases value with
    | unsigned number =>
      refine Yields.pure fun index found => ?_
      split at found
      · next inside =>
        cases found
        cases opens with
        | scalar spelled =>
          exact ⟨fields[number], List.getElem?_eq_getElem inside, .inr (by simpa using spelled)⟩
      · cases found
    | _ => exact Yields.reject _ (.scalar _)
  | text contents =>
    exact Yields.last (reads_contents contents) (Yields.pure (name ⟨front, rfl, .inl opens⟩))
  | binary contents =>
    exact Yields.last (reads_contents contents) (Yields.pure (name ⟨front, rfl, .inr opens⟩))
  | array inside => exact Yields.reject _ (.array inside)
  | map inside => exact Yields.reject _ (.map inside)
  | extension kind contents => exact Yields.reject _ (.extension kind contents)

/-- The field at `index` has been read. -/
def Slots.filled : (fields : List Field) → Slots fields → (index : Nat) → Bool
  | [], (), _ => false
  | _ :: _, (slot, _), 0 => slot.isSome
  | _ :: fields, (_, slots), index + 1 => filled fields slots index

theorem Slots.filled_empty (fields : List Field) (index : Nat) :
    Slots.filled fields (Slots.empty fields) index = false := by
  induction fields generalizing index with
  | nil => rfl
  | cons field fields inductionHypothesis =>
    cases index with
    | zero => rfl
    | succ index => exact inductionHypothesis index

/-- A field is read only once. -/
theorem yields_slot {index nesting : Nat} (inside : index < fields.length) {octets : Bytes}
    (formed : WellFormed nesting 1 octets) (slots : Slots fields) :
    Yields (Slots.read fields index slots) octets fun after =>
      slots.filled fields index = false ∧
        ∀ other, after.filled fields other = (slots.filled fields other || other == index) := by
  induction fields generalizing index with
  | nil => cases inside
  | cons field fields inductionHypothesis =>
    obtain ⟨slot, slots⟩ := slots
    cases index with
    | zero =>
      cases slot with
      | some value => exact Yields.refuse _ _
      | none =>
        refine List.append_nil octets ▸
          (formed.yields_field field.kind).bind fun value _ => Yields.pure ⟨rfl, fun other => ?_⟩
        cases other with
        | zero => rfl
        | succ other => simp [Slots.filled]
    | succ index =>
      refine List.append_nil octets ▸
        (inductionHypothesis (Nat.lt_of_succ_lt_succ inside) slots).bind fun after filled =>
          Yields.pure ⟨filled.1, fun other => ?_⟩
      cases other with
      | zero => simp [Slots.filled]
      | succ other => simpa [Slots.filled] using filled.2 other

/-- What reading entries says about them: they name no field twice, and none that was read before, and
what has been read then is what they name, besides that. -/
structure Slots.ReadFrom (before after : Slots fields) (entries : List (Bytes × Bytes)) : Prop where
  once : NamesOnce fields entries
  fresh : ∀ entry ∈ entries, ∀ index, Names fields index entry.1 → before.filled fields index = false
  made : ∀ index, after.filled fields index = true →
    before.filled fields index = true ∨ ∃ entry ∈ entries, Names fields index entry.1

/-- An entry that names a field comes in front, whose field is read first. -/
theorem Slots.ReadFrom.cons_named {before middle after : Slots fields}
    {entries : List (Bytes × Bytes)} {key value : Bytes} {index : Nat}
    (readFrom : middle.ReadFrom after entries)
    (named : ∀ other, some index = some other ↔ Names fields other key)
    (unread : before.filled fields index = false)
    (filled : ∀ other,
      middle.filled fields other = (before.filled fields other || other == index)) :
    before.ReadFrom after ((key, value) :: entries) := by
  refine ⟨List.pairwise_cons.mpr ⟨?_, readFrom.once⟩, List.forall_mem_cons.mpr ⟨?_, ?_⟩, ?_⟩
  · -- The field of the first entry has been read, so no later entry names it.
    intro other member third namesThird namesOther
    cases (named third).mpr namesThird
    have busy := readFrom.fresh other member index namesOther
    simp [filled] at busy
  · intro third namesThird
    cases (named third).mpr namesThird
    exact unread
  · intro other member third namesOther
    have free := readFrom.fresh other member third namesOther
    rw [filled, Bool.or_eq_false_iff] at free
    exact free.1
  · intro third read
    rcases readFrom.made third read with busy | ⟨other, member, namesOther⟩
    · rw [filled, Bool.or_eq_true, beq_iff_eq] at busy
      rcases busy with early | rfl
      · exact .inl early
      · exact .inr ⟨_, List.mem_cons_self, (named third).mp rfl⟩
    · exact .inr ⟨other, List.mem_cons_of_mem _ member, namesOther⟩

/-- An entry that names no field comes in front. -/
theorem Slots.ReadFrom.cons_strange {before after : Slots fields} {entries : List (Bytes × Bytes)}
    {key value : Bytes} (readFrom : before.ReadFrom after entries)
    (strange : ∀ index, ¬ Names fields index key) :
    before.ReadFrom after ((key, value) :: entries) := by
  refine ⟨List.pairwise_cons.mpr ⟨?_, readFrom.once⟩,
    List.forall_mem_cons.mpr ⟨?_, readFrom.fresh⟩, ?_⟩
  · intro other _ index names
    exact absurd names (strange index)
  · intro index names
    exact absurd names (strange index)
  · intro index read
    rcases readFrom.made index read with early | ⟨other, member, names⟩
    · exact .inl early
    · exact .inr ⟨other, List.mem_cons_of_mem _ member, names⟩

/-- Entries are read one after the other. -/
theorem yields_entries (distinct : (fields.map Field.name).Nodup) {entries : List (Bytes × Bytes)}
    (formed : AllFormed entries) (slots : Slots fields) :
    Yields (Reader.entries fields entries.length slots)
      (entries.flatMap fun entry => entry.1 ++ entry.2) (slots.ReadFrom · entries) := by
  induction entries generalizing slots with
  | nil => exact Yields.pure ⟨List.Pairwise.nil, by simp, fun index filled => .inl filled⟩
  | cons entry entries inductionHypothesis =>
    obtain ⟨key, value⟩ := entry
    obtain ⟨⟨⟨_, keyFormed⟩, ⟨_, valueFormed⟩⟩, laterFormed⟩ := List.forall_mem_cons.mp formed
    rw [List.flatMap_cons, List.append_assoc]
    refine (yields_fieldIndex distinct keyFormed).bind fun found named => ?_
    cases found with
    | some index =>
      obtain ⟨field, place, -⟩ := (named index).mp rfl
      obtain ⟨inside, -⟩ := List.getElem?_eq_some_iff.mp place
      refine (yields_slot inside valueFormed slots).bind fun middle read => ?_
      exact (inductionHypothesis laterFormed middle).imp fun after readFrom =>
        readFrom.cons_named named read.1 read.2
    | none =>
      refine (valueFormed.yields_skip _).bind fun _ _ => ?_
      refine (inductionHypothesis laterFormed slots).imp fun after readFrom =>
        readFrom.cons_strange fun index names => ?_
      cases (named index).mpr names

/-- Completing a record says that every field without a default has been read. -/
theorem Slots.filled_of_complete {slots : Slots fields} {values : Values fields}
    (completed : Slots.complete fields slots = .ok values) {index : Nat} {field : Field}
    (place : fields[index]? = some field) (required : field.default? = none) :
    slots.filled fields index = true := by
  induction fields generalizing index with
  | nil => cases place
  | cons first fields inductionHypothesis =>
    obtain ⟨slot, slots⟩ := slots
    unfold Slots.complete at completed
    split at completed
    · cases completed
    · next value chosen =>
      split at completed
      · next later rest =>
        cases index with
        | zero =>
          cases place
          cases slot with
          | some read => rfl
          | none =>
            rw [required] at chosen
            cases chosen
        | succ index => exact inductionHypothesis rest place
      · cases completed

/-- A map that is read as a record names no field twice, and every field that has no default. -/
theorem Shape.named_of_decode {shape : Shape} (distinct : (shape.fields.map Field.name).Nodup)
    {entries : List (Bytes × Bytes)} (formed : AllFormed entries) {octets : Bytes}
    (map : BeginsMap entries octets) {values : Values shape.fields}
    (read : shape.decode octets = .ok values) :
    NamesOnce shape.fields entries ∧
      ∀ index field, shape.fields[index]? = some field → field.default? = none →
        ∃ entry ∈ entries, Names shape.fields index entry.1 := by
  obtain ⟨front, trailing, opens, rfl⟩ := map
  have yields : Yields (Reader.record shape)
      (front ++ ((entries.flatMap fun entry => entry.1 ++ entry.2) ++ [])) fun _ =>
        NamesOnce shape.fields entries ∧
          ∀ index field, shape.fields[index]? = some field → field.default? = none →
            ∃ entry ∈ entries, Names shape.fields index entry.1 := by
    refine Yields.after opens.reads
      ((yields_entries distinct formed _).bind fun slots readFrom => ?_)
    cases completed : Slots.complete shape.fields slots with
    | error fault => exact Yields.refuse _ _
    | ok values =>
      refine Yields.pure ⟨readFrom.once, fun index field place required => ?_⟩
      have filled := Slots.filled_of_complete completed place required
      rcases readFrom.made index filled with before | named
      · rw [Slots.filled_empty] at before
        cases before
      · exact named
  unfold Shape.decode at read
  split at read
  · next other left made =>
    rw [← List.append_nil (entries.flatMap _)] at made
    exact (yields trailing other left made).2
  · cases read

/-- What octets are decoded as depends on the fields of a record, and on nothing else of its form. -/
structure DecodesByFields {α : Type} (shape : Shape) (record : α → Values shape.fields)
    (decode : Bytes → Except Fault α) : Prop where
  /-- Every map that holds the fields is decoded: in any order, with the fields named in any way,
  among any entries that belong to none, with or without those that have their defaults, and
  whatever is behind it. -/
  map : ∀ value entries octets, (record value).Told entries → BeginsMap entries octets →
    decode octets = .ok value
  /-- Every array of the fields in their order is decoded, whatever is behind it. -/
  array : ∀ value spellings octets, (record value).InOrder shape.fields spellings →
    BeginsArray spellings octets → decode octets = .ok value
  /-- A map that names a field twice is refused. -/
  repeated : ∀ entries octets, AllFormed entries → BeginsMap entries octets →
    ¬ NamesOnce shape.fields entries → ∃ fault, decode octets = .error fault
  /-- A map that does not name a field without a default is refused. -/
  omitted : ∀ entries octets, AllFormed entries → BeginsMap entries octets →
    ∀ index field, shape.fields[index]? = some field → field.default? = none →
      (∀ entry ∈ entries, ¬ Names shape.fields index entry.1) → ∃ fault, decode octets = .error fault

/-- The values of a shape may be made into anything that still tells them. -/
theorem DecodesByFields.of_shape {α : Type} {shape : Shape}
    (distinct : (shape.fields.map Field.name).Nodup) {record : α → Values shape.fields}
    {make : Values shape.fields → α} (made : ∀ value, make (record value) = value)
    {decode : Bytes → Except Fault α}
    (decodes : ∀ octets, decode octets = (shape.decode octets).map make) :
    DecodesByFields shape record decode := by
  have refused : ∀ octets, (∀ values, shape.decode octets ≠ .ok values) →
      ∃ fault, decode octets = .error fault := by
    intro octets unread
    cases read : shape.decode octets with
    | ok values => exact absurd read (unread values)
    | error fault => exact ⟨fault, by rw [decodes, read]; rfl⟩
  refine ⟨?_, ?_, ?_, ?_⟩
  · intro value entries octets told map
    rw [decodes, Shape.decode_of_told distinct told map]
    exact congrArg Except.ok (made value)
  · intro value spellings octets ordered array
    rw [decodes, Shape.decode_of_inOrder ordered array]
    exact congrArg Except.ok (made value)
  · intro entries octets formed map twice
    exact refused octets fun values read =>
      twice (Shape.named_of_decode distinct formed map read).1
  · intro entries octets formed map index field place required unnamed
    refine refused octets fun values read => ?_
    obtain ⟨entry, member, names⟩ :=
      (Shape.named_of_decode distinct formed map read).2 index field place required
    exact unnamed entry member names

end RemoteAgent.MessagePack

namespace RemoteAgent

/-- The metadata of a file as the values of a record. -/
def FileInfo.record (info : FileInfo) : MessagePack.Values FileInfo.fields :=
  (info.path, info.size, info.mode, info.modifiedAt, ())

/-- The options of a terminal as the values of a record. -/
def TerminalOptions.record (options : TerminalOptions) : MessagePack.Values TerminalOptions.fields :=
  (options.command, options.arguments, options.environment, options.inheritsEnvironment, ())

/-- Metadata of files and options of terminals are decoded by their fields, whatever form they have
on the wire. -/
theorem records_decode_by_fields :
    MessagePack.DecodesByFields FileInfo.shape FileInfo.record FileInfo.decode ∧
      MessagePack.DecodesByFields TerminalOptions.shape TerminalOptions.record
        TerminalOptions.decode := by
  refine ⟨@MessagePack.DecodesByFields.of_shape _ FileInfo.shape (by decide) FileInfo.record
      (fun ⟨path, size, mode, modifiedAt, _⟩ => ⟨path, size, mode, modifiedAt⟩)
      (fun _ => rfl) _ ?_,
    @MessagePack.DecodesByFields.of_shape _ TerminalOptions.shape (by decide)
      TerminalOptions.record
      (fun ⟨command, arguments, environment, inherits, _⟩ =>
        ⟨command, arguments, environment, inherits⟩)
      (fun _ => rfl) _ ?_⟩
  · intro octets
    rw [FileInfo.decode]
    cases FileInfo.shape.decode octets <;> rfl
  · intro octets
    rw [TerminalOptions.decode]
    cases TerminalOptions.shape.decode octets <;> rfl

-- The time and the size under their numbers, the path as octets under its name as octets, no mode,
-- and an octet behind the map.
example : FileInfo.decode [0x83, 0x03, 0xD1, 0xFF, 0xFE, 0xC4, 0x04, 0x70, 0x61, 0x74, 0x68, 0xC4,
    0x01, 0x61, 0x01, 0xCD, 0x00, 0x05, 0xFF] = .ok ⟨"a", 5, 0, -2⟩ := by
  decide +kernel

end RemoteAgent
