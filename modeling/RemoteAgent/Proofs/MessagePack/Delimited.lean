import RemoteAgent.Proofs.MessagePack.Records

/-!
# Records end where they end

No record tells how many octets it has, but every reader knows where to stop. `Delimits` says that
what a reader makes of octets it makes of those that it takes, whatever is behind them, and is kept by
the composition of readers. So more octets behind a record change nothing, and no record is the front
of another one (`Shape.stopsAtEnd`).
-/

namespace RemoteAgent.MessagePack

variable {α β : Type}

/-- What a reader makes of octets it makes of those that it takes, whatever is behind them. -/
def Delimits (read : Reader α) : Prop :=
  ∀ octets value rest, read octets = .ok (value, rest) →
    ∃ taken, octets = taken ++ rest ∧ Reads read taken value

namespace Delimits

/-- A reader that takes nothing stops where it begins. -/
theorem pure (value : α) : Delimits (Pure.pure value) := by
  rintro octets _ rest ⟨⟩
  exact ⟨[], rfl, Reads.pure value⟩

/-- A reader that accepts nothing has nowhere to stop. -/
theorem refuse (fault : Fault) : Delimits (Reader.refuse fault : Reader α) := by
  rintro octets value rest ⟨⟩

/-- Two readers in a row stop where the second one does. -/
theorem bind {read : Reader α} {next : α → Reader β} (first : Delimits read)
    (second : ∀ value, Delimits (next value)) : Delimits (read >>= next) := by
  intro octets value rest whole
  change Except.bind (read octets) (fun pair => next pair.1 pair.2) = _ at whole
  cases taken : read octets with
  | error fault =>
    rw [taken] at whole
    cases whole
  | ok pair =>
    rw [taken] at whole
    obtain ⟨front, rfl, readsFront⟩ := first _ _ _ taken
    obtain ⟨back, same, readsBack⟩ := second pair.1 _ _ _ whole
    exact ⟨front ++ back, by rw [same, List.append_assoc], readsFront.bind readsBack⟩

/-- What a reader makes of a value does not change where it stops. -/
theorem map {read : Reader α} (delimits : Delimits read) (make : α → β) :
    Delimits (do return make (← read)) :=
  delimits.bind fun _ => pure _

/-- Reading other octets takes nothing. -/
theorem within (read : Reader α) (octets : Bytes) : Delimits (Reader.within octets read) := by
  intro bytes value rest whole
  refine ⟨[], ?_⟩
  unfold Reader.within at whole
  split at whole
  · next made =>
    cases whole
    refine ⟨rfl, fun rest => ?_⟩
    rw [Reader.within, made]
    rfl
  · cases whole

/-- A reader that takes all of some octets does not make anything of fewer of them. -/
theorem cut {read : Reader α} (delimits : Delimits read) {front rest : Bytes} {value : α}
    (reads : Reads read (front ++ rest) value) (more : rest ≠ []) (other : α) (left : Bytes) :
    read front ≠ .ok (other, left) := by
  intro made
  obtain ⟨taken, rfl, readsTaken⟩ := delimits _ _ _ made
  have whole := reads []
  have fewer := readsTaken (left ++ rest)
  rw [List.append_nil, List.append_assoc, fewer] at whole
  have nothing := (Prod.mk.inj (Except.ok.inj whole)).2
  exact more (List.append_eq_nil_iff.mp nothing).2

end Delimits

/-! ## Values -/

/-- A marker is one octet. -/
theorem delimits_marker : Delimits Reader.marker := by
  intro octets value rest whole
  cases octets with
  | nil => cases whole
  | cons octet later =>
    cases whole
    exact ⟨[octet], rfl, fun _ => rfl⟩

/-- A number ends with its width. -/
theorem delimits_number (width : Width) : Delimits (Reader.number width) := by
  intro octets value rest whole
  unfold Reader.number at whole
  split at whole
  · next digits later taken =>
    cases whole
    obtain ⟨rfl, counted⟩ := Bytes.split_eq_some taken
    exact ⟨digits, rfl, fun rest => by rw [Reader.number, Bytes.split_append counted]⟩
  · cases whole

/-- Contents end with the length that was told. -/
theorem delimits_contents (length : Nat) : Delimits (Reader.contents length) := by
  intro octets value rest whole
  unfold Reader.contents at whole
  split at whole
  · next taken =>
    cases whole
    obtain ⟨rfl, rfl⟩ := Bytes.split_eq_some taken
    exact ⟨value, rfl, reads_contents value⟩
  · cases whole

/-- The marker of a scalar says which number follows it, if any. -/
theorem delimits_scalar? {marker : Marker} {rest : Reader Scalar}
    (begins : Reader.scalar? marker = some rest) : Delimits rest := by
  cases marker <;> cases begins
  case fixPositive => exact .pure _
  case fixNegative => exact .pure _
  case null => exact .pure _
  case boolean => exact .pure _
  case unsigned width => exact (delimits_number width).map _
  case signed width => exact (delimits_number width).map _
  case float32 => exact (delimits_number .four).map _
  case float64 => exact (delimits_number .eight).map _

/-- A scalar ends with its number. -/
theorem delimits_scalar : Delimits Reader.scalar := by
  refine delimits_marker.bind fun marker => ?_
  split
  · next begins => exact delimits_scalar? begins
  · exact .refuse _

/-- The head of a value ends with its number or its length. -/
theorem delimits_head : Delimits Reader.head := by
  refine delimits_marker.bind fun marker => ?_
  split
  · exact .pure _
  · exact (delimits_number _).map _
  · exact (delimits_number _).map _
  · exact .pure _
  · exact (delimits_number _).map _
  · exact .pure _
  · exact (delimits_number _).map _
  · exact .pure _
  · exact (delimits_number _).map _
  · split
    · next begins => exact (delimits_scalar? begins).map _
    · exact .refuse _

/-- To reject a value is to accept nothing, even if its contents are read first. -/
theorem delimits_reject (found : Head) (expected : Expected) :
    Delimits (Reader.reject found expected : Reader α) := by
  cases found with
  | text length =>
    refine (delimits_contents length).bind fun octets => ?_
    split
    · exact .refuse _
    · exact .refuse _
  | binary length => exact (delimits_contents length).bind fun _ => .refuse _
  | _ => exact .refuse _

/-- A text ends with its contents, in either of its two forms. -/
theorem delimits_text : Delimits Reader.text := by
  refine delimits_head.bind fun head => ?_
  cases head with
  | text length =>
    refine (delimits_contents length).bind fun octets => ?_
    split
    · exact .pure _
    · exact .refuse _
  | binary length =>
    refine (delimits_contents length).bind fun octets => ?_
    split
    · exact .pure _
    · exact .refuse _
  | _ => exact delimits_reject _ _

/-- An integer ends with its number, whether it is in range or not. -/
theorem delimits_integer (least greatest : Int) (expected : Expected) :
    Delimits (Reader.integer least greatest expected) := by
  have ranged : ∀ value : Int, Delimits (if least ≤ value ∧ value ≤ greatest then Pure.pure value
      else Reader.refuse (.invalidValue (.integer value) expected)) := by
    intro value
    split
    · exact .pure _
    · exact .refuse _
  refine delimits_scalar.bind fun value => ?_
  cases value with
  | unsigned value => exact ranged value
  | signed value => exact ranged value
  | _ => exact .refuse _

/-- A truth value ends with its marker. -/
theorem delimits_boolean : Delimits Reader.boolean := by
  refine delimits_scalar.bind fun value => ?_
  cases value with
  | boolean value => exact .pure _
  | _ => exact .refuse _

/-- Values in a row end with the last one. -/
theorem delimits_valuesAfter {read : Reader α} (each : Delimits read) (count : Nat)
    (found : List α) : Delimits (Reader.valuesAfter read count found) := by
  induction count generalizing found with
  | zero => exact .pure _
  | succ count inductionHypothesis => exact each.bind fun _ => inductionHypothesis _

/-- A list of texts ends with its last text, or with the octets that stand for it. -/
theorem delimits_texts : Delimits Reader.texts := by
  refine delimits_head.bind fun head => ?_
  cases head with
  | array length => exact delimits_valuesAfter delimits_text length []
  | binary length => exact (delimits_contents length).bind fun _ => .within _ _
  | _ => exact delimits_reject _ _

/-- What is passed over ends where it ends, too. -/
theorem delimits_skip (allowance count : Nat) : Delimits (Reader.skip allowance count) := by
  induction allowance generalizing count with
  | zero =>
    induction count with
    | zero =>
      unfold Reader.skip
      exact .pure _
    | succ count later =>
      unfold Reader.skip
      refine delimits_head.bind fun head => ?_
      cases head with
      | scalar value => exact later
      | text length => exact (delimits_contents length).bind fun _ => later
      | binary length => exact (delimits_contents length).bind fun _ => later
      | _ => exact .refuse _
  | succ allowance inside =>
    induction count with
    | zero =>
      unfold Reader.skip
      exact .pure _
    | succ count later =>
      unfold Reader.skip
      refine delimits_head.bind fun head => ?_
      cases head with
      | scalar value => exact later
      | text length => exact (delimits_contents length).bind fun _ => later
      | binary length => exact (delimits_contents length).bind fun _ => later
      | array length => exact (inside length).bind fun _ => later
      | map length => exact (inside (2 * length)).bind fun _ => later
      | extension length =>
        exact (delimits_number .one).bind fun _ => (delimits_contents length).bind fun _ => later

/-! ## Records -/

/-- The value of a field ends as its kind does. -/
theorem delimits_field (kind : FieldKind) : Delimits kind.read := by
  cases kind with
  | text => exact delimits_text
  | unsigned64 => exact (delimits_integer _ _ _).map _
  | unsigned32 => exact (delimits_integer _ _ _).map _
  | signed64 => exact (delimits_integer _ _ _).map _
  | boolean => exact delimits_boolean
  | texts => exact delimits_texts

/-- The name of a field ends with the text or the number that it is. -/
theorem delimits_fieldIndex (fields : List Field) : Delimits (Reader.fieldIndex fields) := by
  refine delimits_head.bind fun head => ?_
  cases head with
  | scalar value =>
    cases value with
    | unsigned number => exact .pure _
    | _ => exact delimits_reject _ _
  | text length => exact (delimits_contents length).map _
  | binary length => exact (delimits_contents length).map _
  | _ => exact delimits_reject _ _

/-- An entry ends with the value of its field. -/
theorem delimits_slots (fields : List Field) (index : Nat) (slots : Slots fields) :
    Delimits (Slots.read fields index slots) := by
  induction fields generalizing index with
  | nil => exact .pure _
  | cons field fields inductionHypothesis =>
    obtain ⟨slot, slots⟩ := slots
    cases index with
    | zero =>
      cases slot with
      | some value => exact .refuse _
      | none => exact (delimits_field field.kind).map _
    | succ index => exact (inductionHypothesis index slots).map _

/-- Entries in a row end with the last one, those that belong to no field included. -/
theorem delimits_entries (fields : List Field) (count : Nat) (slots : Slots fields) :
    Delimits (Reader.entries fields count slots) := by
  induction count generalizing slots with
  | zero => exact .pure _
  | succ count inductionHypothesis =>
    refine (delimits_fieldIndex fields).bind fun named => ?_
    cases named with
    | some index => exact (delimits_slots fields index slots).bind inductionHypothesis
    | none => exact (delimits_skip _ _).bind fun _ => inductionHypothesis slots

/-- The values of an array end with the last one that is there. -/
theorem delimits_elements (shape : Shape) (fields : List Field) (index left : Nat) :
    Delimits (Reader.elements shape fields index left) := by
  induction fields generalizing index left with
  | nil => exact .pure _
  | cons field fields inductionHypothesis =>
    cases left with
    | zero =>
      unfold Reader.elements
      split
      · exact .refuse _
      · exact (inductionHypothesis (index + 1) 0).map _
    | succ left =>
      exact (delimits_field field.kind).bind fun _ => (inductionHypothesis (index + 1) left).map _

/-- An array ends with its last value, and is refused if it has too many. -/
theorem delimits_array (shape : Shape) (length : Nat) : Delimits (Reader.array shape length) := by
  refine (delimits_elements shape shape.fields 0 length).bind fun result => ?_
  dsimp only
  split
  · exact .pure _
  · exact .refuse _

/-- A record ends with its last entry or value, in each of its forms. -/
theorem delimits_record (shape : Shape) : Delimits (Reader.record shape) := by
  refine delimits_head.bind fun head => ?_
  cases head with
  | map length =>
    refine (delimits_entries shape.fields length (Slots.empty shape.fields)).bind fun slots => ?_
    split
    · exact .pure _
    · exact .refuse _
  | array length => exact delimits_array shape length
  | binary length => exact (delimits_contents length).bind fun _ => .within _ _
  | _ => exact delimits_reject _ _

/-! ## Decoders -/

/-- The octets are decoded as the value, and no front of them is decoded at all. -/
structure EndsWith (decode : Bytes → Except Fault α) (octets : Bytes) (value : α) : Prop where
  read : decode octets = .ok value
  cut : ∀ front rest, octets = front ++ rest → rest ≠ [] → ∃ fault, decode front = .error fault

/-- A decoder stops where a value ends. -/
structure StopsAtEnd (decode : Bytes → Except Fault α) : Prop where
  /-- More octets behind a value change nothing. -/
  extended : ∀ octets more value, decode octets = .ok value → decode (octets ++ more) = .ok value
  /-- What is decoded begins with octets that end with the value. -/
  accepted : ∀ octets value, decode octets = .ok value ↔
    ∃ front more, octets = front ++ more ∧ EndsWith decode front value

/-- Octets that a record takes whole end with it. -/
theorem Shape.endsWith_of_reads {shape : Shape} {octets : Bytes} {values : Values shape.fields}
    (reads : Reads (Reader.record shape) octets values) :
    EndsWith shape.decode octets values where
  read := by
    rw [← List.append_nil octets]
    exact Shape.decode_of_reads reads
  cut front rest same more := by
    subst same
    unfold Shape.decode
    split
    · next other left made => exact absurd made ((delimits_record shape).cut reads more other left)
    · next fault _ => exact ⟨fault, rfl⟩

/-- Every record ends where it ends: what follows it changes nothing, and no front of it is
accepted. -/
theorem Shape.stopsAtEnd (shape : Shape) : StopsAtEnd shape.decode := by
  have taken : ∀ octets values, shape.decode octets = .ok values →
      ∃ front more, octets = front ++ more ∧ Reads (Reader.record shape) front values := by
    intro octets values read
    unfold Shape.decode at read
    split at read
    · next rest made =>
      cases read
      obtain ⟨front, same, reads⟩ := delimits_record shape _ _ _ made
      exact ⟨front, rest, same, reads⟩
    · cases read
  have extended : ∀ octets more values, shape.decode octets = .ok values →
      shape.decode (octets ++ more) = .ok values := by
    intro octets more values read
    obtain ⟨front, rest, rfl, reads⟩ := taken octets values read
    rw [List.append_assoc]
    exact Shape.decode_of_reads reads
  refine ⟨extended, fun octets values => ⟨fun read => ?_, ?_⟩⟩
  · obtain ⟨front, more, same, reads⟩ := taken octets values read
    exact ⟨front, more, same, Shape.endsWith_of_reads reads⟩
  · rintro ⟨front, more, rfl, ends⟩
    exact extended front more values ends.read

/-! ## What the values of a shape are made into -/

section Made

variable {shape : Shape} {make : Values shape.fields → α} {decode : Bytes → Except Fault α}
  (decodes : ∀ octets, decode octets = (shape.decode octets).map make)

include decodes

/-- What is made of values ends with them. -/
theorem EndsWith.made {octets : Bytes} {values : Values shape.fields}
    (ends : EndsWith shape.decode octets values) : EndsWith decode octets (make values) where
  read := by rw [decodes, ends.read]; rfl
  cut front rest same more := by
    obtain ⟨fault, refused⟩ := ends.cut front rest same more
    exact ⟨fault, by rw [decodes, refused]; rfl⟩

/-- A decoder that makes something of the values of a record stops where the record ends. -/
theorem StopsAtEnd.of_shape : StopsAtEnd decode := by
  have shaped : ∀ {octets value}, decode octets = .ok value →
      ∃ values, shape.decode octets = .ok values ∧ make values = value := by
    intro octets value read
    rw [decodes] at read
    cases made : shape.decode octets with
    | error fault =>
      rw [made] at read
      cases read
    | ok values =>
      rw [made] at read
      exact ⟨values, rfl, Except.ok.inj read⟩
  have extended : ∀ octets more value, decode octets = .ok value →
      decode (octets ++ more) = .ok value := by
    intro octets more value read
    obtain ⟨values, made, rfl⟩ := shaped read
    rw [decodes, shape.stopsAtEnd.extended octets more values made]
    rfl
  refine ⟨extended, fun octets value => ⟨fun read => ?_, ?_⟩⟩
  · obtain ⟨values, made, rfl⟩ := shaped read
    obtain ⟨front, more, same, ends⟩ := (shape.stopsAtEnd.accepted octets values).mp made
    exact ⟨front, more, same, ends.made decodes⟩
  · rintro ⟨front, more, rfl, ends⟩
    exact extended front more value ends.read

end Made

end RemoteAgent.MessagePack
