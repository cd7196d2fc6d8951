import RemoteAgent.Proofs.MessagePack.Forms

/-!
# Values are taken whole

A reader may refuse a well-formed value, when it was made for another kind, or finds it too deep.
`Yields` says that it never takes a part of the value, nor anything behind it, and is kept by the
composition of readers. So one entry of a map cannot be mistaken for another, whatever is in it.
-/

namespace RemoteAgent.MessagePack

variable {α β : Type}

/-- A reader takes exactly these octets if it takes any, and what it makes of them has a
property. -/
def Yields (read : Reader α) (octets : Bytes) (property : α → Prop) : Prop :=
  ∀ rest value left, read (octets ++ rest) = .ok (value, left) → left = rest ∧ property value

namespace Yields

variable {property : α → Prop} {result : β → Prop}

/-- Octets that read as a value are taken exactly. -/
theorem of_reads {read : Reader α} {octets : Bytes} {value : α} (reads : Reads read octets value)
    (holds : property value) : Yields read octets property := by
  intro rest other left made
  rw [reads rest] at made
  cases made
  exact ⟨rfl, holds⟩

/-- A reader that refuses takes nothing. -/
theorem refuse (fault : Fault) (octets : Bytes) :
    Yields (Reader.refuse fault : Reader α) octets property := by
  rintro rest value left ⟨⟩

/-- Readers in a row take exactly what both of them take. -/
theorem bind {read : Reader α} {next : α → Reader β} {octets later : Bytes}
    (first : Yields read octets property)
    (second : ∀ value, property value → Yields (next value) later result) :
    Yields (read >>= next) (octets ++ later) result := by
  intro rest value left made
  change Except.bind (read (octets ++ later ++ rest)) (fun pair => next pair.1 pair.2) = _ at made
  rw [List.append_assoc] at made
  cases taken : read (octets ++ (later ++ rest)) with
  | error fault =>
    rw [taken] at made
    cases made
  | ok pair =>
    obtain ⟨middle, remaining⟩ := pair
    rw [taken] at made
    obtain ⟨rfl, holds⟩ := first _ _ _ taken
    exact second middle holds rest value left made

/-- A reader that is certain of the first octets goes on from what it made of them. -/
theorem after {read : Reader α} {next : α → Reader β} {octets later : Bytes} {value : α}
    (first : Reads read octets value) (second : Yields (next value) later result) :
    Yields (read >>= next) (octets ++ later) result :=
  (of_reads first (rfl : value = value)).bind fun _ same => same ▸ second

/-- The same for a reader that leaves nothing to the next. -/
theorem last {read : Reader α} {next : α → Reader β} {octets : Bytes} {value : α}
    (first : Reads read octets value) (second : Yields (next value) [] result) :
    Yields (read >>= next) octets result :=
  List.append_nil octets ▸ after first second

/-- A reader that only gives a value takes no octets. -/
theorem pure {value : α} (holds : property value) : Yields (Pure.pure value) [] property :=
  of_reads (Reads.pure value) holds

/-- What is made of the octets has every weaker property. -/
theorem imp {weaker : α → Prop} {read : Reader α} {octets : Bytes}
    (yields : Yields read octets property) (implies : ∀ value, property value → weaker value) :
    Yields read octets weaker :=
  fun rest value left made => (yields rest value left made).imp id (implies value)

end Yields

/-- A row of values is its first one and a row of the others. -/
theorem WellFormed.split {nesting count : Nat} {octets : Bytes}
    (formed : WellFormed nesting (count + 1) octets) :
    ∃ front later, octets = front ++ later ∧ WellFormed nesting 1 front ∧
      WellFormed nesting count later := by
  cases formed with
  | scalar spelled rest => exact ⟨_, _, rfl, by simpa using WellFormed.scalar spelled .done, rest⟩
  | text opens rest =>
    exact ⟨_, _, (List.append_assoc ..).symm, by simpa using WellFormed.text opens .done, rest⟩
  | binary opens rest =>
    exact ⟨_, _, (List.append_assoc ..).symm, by simpa using WellFormed.binary opens .done, rest⟩
  | array opens inside rest =>
    exact ⟨_, _, (List.append_assoc ..).symm, by simpa using WellFormed.array opens inside .done,
      rest⟩
  | map opens inside rest =>
    exact ⟨_, _, (List.append_assoc ..).symm, by simpa using WellFormed.map opens inside .done,
      rest⟩
  | @extension _ _ front contents later kind opens rest =>
    exact ⟨front ++ (kind :: contents), later, by simp, by
      simpa using WellFormed.extension opens .done, rest⟩

/-- What comes behind the head of a well-formed value. -/
inductive Follows : Head → Bytes → Prop
  | scalar (value : Scalar) : Follows (.scalar value) []
  | text (contents : Bytes) : Follows (.text contents.length) contents
  | binary (contents : Bytes) : Follows (.binary contents.length) contents
  | array {nesting length : Nat} {contents : Bytes}
      (inside : WellFormed nesting length contents) : Follows (.array length) contents
  | map {nesting length : Nat} {contents : Bytes}
      (inside : WellFormed nesting (2 * length) contents) : Follows (.map length) contents
  | extension (kind : UInt8) (contents : Bytes) :
      Follows (.extension contents.length) (kind :: contents)

/-- A well-formed value is a head and what follows it. -/
theorem WellFormed.head {nesting : Nat} {octets : Bytes} (formed : WellFormed nesting 1 octets) :
    ∃ head front contents, octets = front ++ contents ∧ Opens head front ∧
      Follows head contents := by
  cases formed with
  | scalar spelled rest =>
    cases rest
    exact ⟨_, _, _, rfl, .scalar spelled, .scalar _⟩
  | text opens rest =>
    cases rest
    exact ⟨_, _, _, by rw [List.append_nil], opens, .text _⟩
  | binary opens rest =>
    cases rest
    exact ⟨_, _, _, by rw [List.append_nil], opens, .binary _⟩
  | array opens inside rest =>
    cases rest
    exact ⟨_, _, _, by rw [List.append_nil], opens, .array inside⟩
  | map opens inside rest =>
    cases rest
    exact ⟨_, _, _, by rw [List.append_nil], opens, .map inside⟩
  | extension opens rest =>
    cases rest
    exact ⟨_, _, _, by rw [List.append_nil], opens, .extension _ _⟩

/-- A reader takes a well-formed value whole if it does so behind every head. -/
theorem WellFormed.yields {nesting : Nat} {octets : Bytes} {next : Head → Reader α}
    {property : α → Prop} (formed : WellFormed nesting 1 octets)
    (each : ∀ head contents, Follows head contents → Yields (next head) contents property) :
    Yields (Reader.head >>= next) octets property := by
  obtain ⟨head, front, contents, rfl, opens, follows⟩ := formed.head
  exact Yields.after opens.reads (each head contents follows)

/-! ## Values that are passed over -/

/-- Whole values that are passed over are taken exactly. -/
theorem WellFormed.yields_skip {nesting count : Nat} {octets : Bytes}
    (formed : WellFormed nesting count octets) (allowance : Nat) :
    Yields (Reader.skip allowance count) octets fun _ => True := by
  induction formed generalizing allowance with
  | done =>
    unfold Reader.skip
    exact Yields.pure trivial
  | scalar spelled _ later =>
    cases allowance <;> unfold Reader.skip <;>
      exact Yields.after (Opens.scalar spelled).reads (later _)
  | @text _ _ _ contents _ opens _ later =>
    cases allowance <;> unfold Reader.skip <;>
      exact Yields.after opens.reads (Yields.after (reads_contents contents) (later _))
  | @binary _ _ _ contents _ opens _ later =>
    cases allowance <;> unfold Reader.skip <;>
      exact Yields.after opens.reads (Yields.after (reads_contents contents) (later _))
  | array opens _ _ inside later =>
    cases allowance with
    | zero =>
      unfold Reader.skip
      exact Yields.after opens.reads (Yields.refuse _ _)
    | succ allowance =>
      unfold Reader.skip
      exact Yields.after opens.reads ((inside allowance).bind fun _ _ => later _)
  | map opens _ _ inside later =>
    cases allowance with
    | zero =>
      unfold Reader.skip
      exact Yields.after opens.reads (Yields.refuse _ _)
    | succ allowance =>
      unfold Reader.skip
      exact Yields.after opens.reads ((inside allowance).bind fun _ _ => later _)
  | @extension _ _ _ contents _ kind opens _ later =>
    cases allowance with
    | zero =>
      unfold Reader.skip
      exact Yields.after opens.reads (Yields.refuse _ _)
    | succ allowance =>
      unfold Reader.skip
      exact Yields.after opens.reads
        (Yields.after (reads_octet kind) (Yields.after (reads_contents contents) (later _)))

/-! ## Values of fields -/

/-- A value that is rejected is not taken. -/
theorem Yields.reject {head : Head} {contents : Bytes} {property : α → Prop} (expected : Expected)
    (follows : Follows head contents) :
    Yields (Reader.reject head expected : Reader α) contents property := by
  cases follows with
  | scalar value => exact refuse _ _
  | text contents =>
    refine Yields.last (reads_contents contents) ?_
    split <;> exact refuse _ _
  | binary contents =>
    exact Yields.last (reads_contents contents) (refuse _ _)
  | array inside => exact refuse _ _
  | map inside => exact refuse _ _
  | extension kind contents => exact refuse _ _

/-- A scalar is all there is of its value. -/
theorem WellFormed.yields_scalar {nesting : Nat} {octets : Bytes} {next : Scalar → Reader α}
    {property : α → Prop} (formed : WellFormed nesting 1 octets)
    (each : ∀ value, Yields (next value) [] property) :
    Yields (Reader.scalar >>= next) octets property := by
  intro rest value left made
  cases taken : Reader.scalar (octets ++ rest) with
  | error fault =>
    change Except.bind (Reader.scalar (octets ++ rest)) _ = _ at made
    rw [taken] at made
    cases made
  | ok pair =>
    obtain ⟨scalar, remaining⟩ := pair
    rw [bind_of_ok taken] at made
    -- The head of the value is the scalar, so nothing follows it.
    obtain ⟨head, front, contents, rfl, opens, follows⟩ := formed.head
    have first := opens.reads (contents ++ rest)
    rw [← List.append_assoc, head_of_scalar taken] at first
    cases first
    cases follows
    exact each scalar rest value left made

/-- A whole value that is read as a text is taken exactly. -/
theorem WellFormed.yields_text {nesting : Nat} {octets : Bytes}
    (formed : WellFormed nesting 1 octets) : Yields Reader.text octets fun _ => True := by
  refine formed.yields fun head contents follows => ?_
  cases follows with
  | text contents =>
    refine Yields.last (reads_contents contents) ?_
    split
    · exact Yields.pure trivial
    · exact Yields.refuse _ _
  | binary contents =>
    refine Yields.last (reads_contents contents) ?_
    split
    · exact Yields.pure trivial
    · exact Yields.refuse _ _
  | scalar value => exact Yields.refuse _ _
  | array inside => exact Yields.refuse _ _
  | map inside => exact Yields.refuse _ _
  | extension kind contents => exact Yields.refuse _ _

/-- Whole values that are read as texts are taken exactly. -/
theorem WellFormed.yields_valuesAfter {nesting count : Nat} {octets : Bytes}
    (formed : WellFormed nesting count octets) (found : List String) :
    Yields (Reader.valuesAfter Reader.text count found) octets fun _ => True := by
  induction count generalizing octets found with
  | zero =>
    cases formed
    exact Yields.pure trivial
  | succ count inductionHypothesis =>
    obtain ⟨front, later, rfl, first, others⟩ := formed.split
    exact first.yields_text.bind fun value _ => inductionHypothesis others (value :: found)

/-- What is made of other octets takes nothing. -/
theorem Yields.within {read : Reader α} {octets : Bytes} :
    Yields (Reader.within octets read) [] fun _ => True := by
  intro rest value left made
  unfold Reader.within at made
  split at made
  · cases made
    exact ⟨rfl, trivial⟩
  · cases made

/-- A whole value that is read as a list of texts is taken exactly. -/
theorem WellFormed.yields_texts {nesting : Nat} {octets : Bytes}
    (formed : WellFormed nesting 1 octets) : Yields Reader.texts octets fun _ => True := by
  refine formed.yields fun head contents follows => ?_
  cases follows with
  | array inside => exact inside.yields_valuesAfter []
  | binary contents =>
    exact Yields.last (reads_contents contents) Yields.within
  | scalar value => exact Yields.refuse _ _
  | text contents => exact Yields.reject _ (.text contents)
  | map inside => exact Yields.refuse _ _
  | extension kind contents => exact Yields.refuse _ _

/-- A whole value that is read as an integer is taken exactly. -/
theorem WellFormed.yields_integer {nesting : Nat} {octets : Bytes} {least greatest : Int}
    {expected : Expected} (formed : WellFormed nesting 1 octets) :
    Yields (Reader.integer least greatest expected) octets fun _ => True := by
  have ranged : ∀ value : Int, Yields (if least ≤ value ∧ value ≤ greatest then Pure.pure value
      else Reader.refuse (.invalidValue (.integer value) expected)) [] fun _ => True := by
    intro value
    split
    · exact Yields.pure trivial
    · exact Yields.refuse _ _
  refine formed.yields_scalar fun value => ?_
  cases value with
  | unsigned value => exact ranged value
  | signed value => exact ranged value
  | _ => exact Yields.refuse _ _

/-- A field takes a well-formed value whole, if it takes it. -/
theorem WellFormed.yields_field {nesting : Nat} {octets : Bytes} (kind : FieldKind)
    (formed : WellFormed nesting 1 octets) : Yields kind.read octets fun _ => True := by
  have number : ∀ {least greatest : Int} {expected : Expected} {make : Int → kind.Value},
      Yields (do return make (← Reader.integer least greatest expected)) octets fun _ => True :=
    fun {least greatest expected make} => List.append_nil octets ▸
      formed.yields_integer.bind fun _ _ => Yields.pure trivial
  cases kind with
  | text => exact formed.yields_text
  | unsigned64 => exact number
  | unsigned32 => exact number
  | signed64 => exact number
  | boolean =>
    refine formed.yields_scalar fun value => ?_
    cases value with
    | boolean value => exact Yields.pure trivial
    | _ => exact Yields.refuse _ _
  | texts => exact formed.yields_texts

end RemoteAgent.MessagePack
