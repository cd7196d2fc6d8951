import RemoteAgent.MessagePack.Record
import RemoteAgent.Text.Utf8.RoundTrip

/-!
# The forms of MessagePack values

MessagePack leaves the writer a choice: a number or a length may stand in any width that holds it.
`Scalar.Spelled`, `Opens` and `WellFormed` say which octets spell a value, without a reader. `Reads`
says that a reader takes octets from the front of any others and makes a value of them, and is kept
by the composition of readers, so that heads are read in every form (`Opens.reads`), and values of
any kind are passed over whole, as long as the containers in them are not too deep
(`WellFormed.skips`).
-/

namespace RemoteAgent.MessagePack

/-! ## Spelling -/

/-- The octets of a scalar. A number may stand in any width that holds it. -/
inductive Scalar.Spelled : Scalar → Bytes → Prop
  | null : Spelled .null [Marker.null.octet]
  | boolean (value : Bool) : Spelled (.boolean value) [(Marker.boolean value).octet]
  | fixPositive {value : Nat} (small : value < 0x80) :
      Spelled (.unsigned value) [(Marker.fixPositive value).octet]
  | fixNegative {distance : Nat} (small : distance < 32) :
      Spelled (.signed ((distance : Int) - 32)) [(Marker.fixNegative distance).octet]
  | unsigned (width : Width) {value : Nat} (fits : value < Bytes.span width.octets) :
      Spelled (.unsigned value)
        ((Marker.unsigned width).octet :: Bytes.bigEndian width.octets value)
  | signed (width : Width) {value : Int} (least : -(Bytes.span width.octets : Int) ≤ 2 * value)
      (greatest : 2 * value < Bytes.span width.octets) :
      Spelled (.signed value) ((Marker.signed width).octet ::
        Bytes.bigEndian width.octets (value % Bytes.span width.octets).toNat)
  | float32 {bits : Nat} (fits : bits < Bytes.span 4) :
      Spelled (.float (.ofBits32 bits)) (Marker.float32.octet :: Bytes.bigEndian 4 bits)
  | float64 {bits : Nat} (fits : bits < Bytes.span 8) :
      Spelled (.float (.ofBits64 bits)) (Marker.float64.octet :: Bytes.bigEndian 8 bits)

/-- The octets of a head. A length may stand in any width of its kind that holds it. -/
inductive Opens : Head → Bytes → Prop
  | scalar {value : Scalar} {octets : Bytes} (spelled : value.Spelled octets) :
      Opens (.scalar value) octets
  | fixText {length : Nat} (small : length < 32) :
      Opens (.text length) [(Marker.fixText length).octet]
  | text {width : Width} {length : Nat} (short : width ≠ .eight)
      (fits : length < Bytes.span width.octets) :
      Opens (.text length) ((Marker.text width).octet :: Bytes.bigEndian width.octets length)
  | binary {width : Width} {length : Nat} (short : width ≠ .eight)
      (fits : length < Bytes.span width.octets) :
      Opens (.binary length) ((Marker.binary width).octet :: Bytes.bigEndian width.octets length)
  | fixArray {length : Nat} (small : length < 16) :
      Opens (.array length) [(Marker.fixArray length).octet]
  | array {width : Width} {length : Nat} (medium : width = .two ∨ width = .four)
      (fits : length < Bytes.span width.octets) :
      Opens (.array length) ((Marker.array width).octet :: Bytes.bigEndian width.octets length)
  | fixMap {length : Nat} (small : length < 16) :
      Opens (.map length) [(Marker.fixMap length).octet]
  | map {width : Width} {length : Nat} (medium : width = .two ∨ width = .four)
      (fits : length < Bytes.span width.octets) :
      Opens (.map length) ((Marker.map width).octet :: Bytes.bigEndian width.octets length)
  | fixExtension {power : Nat} (small : power ≤ 4) :
      Opens (.extension (Nat.pow 2 power)) [(Marker.fixExtension power).octet]
  | extension {width : Width} {length : Nat} (short : width ≠ .eight)
      (fits : length < Bytes.span width.octets) :
      Opens (.extension length)
        ((Marker.extension width).octet :: Bytes.bigEndian width.octets length)

/-- The octets of `count` values of any kind, one behind the other, in which at most `nesting`
containers are open inside one another. -/
inductive WellFormed : (nesting count : Nat) → Bytes → Prop
  | done {nesting : Nat} : WellFormed nesting 0 []
  | scalar {nesting count : Nat} {value : Scalar} {front later : Bytes}
      (spelled : value.Spelled front) (rest : WellFormed nesting count later) :
      WellFormed nesting (count + 1) (front ++ later)
  | text {nesting count : Nat} {front contents later : Bytes}
      (opens : Opens (.text contents.length) front) (rest : WellFormed nesting count later) :
      WellFormed nesting (count + 1) (front ++ (contents ++ later))
  | binary {nesting count : Nat} {front contents later : Bytes}
      (opens : Opens (.binary contents.length) front) (rest : WellFormed nesting count later) :
      WellFormed nesting (count + 1) (front ++ (contents ++ later))
  | array {nesting count length : Nat} {front contents later : Bytes}
      (opens : Opens (.array length) front) (inside : WellFormed nesting length contents)
      (rest : WellFormed (nesting + 1) count later) :
      WellFormed (nesting + 1) (count + 1) (front ++ (contents ++ later))
  | map {nesting count length : Nat} {front contents later : Bytes}
      (opens : Opens (.map length) front) (inside : WellFormed nesting (2 * length) contents)
      (rest : WellFormed (nesting + 1) count later) :
      WellFormed (nesting + 1) (count + 1) (front ++ (contents ++ later))
  | extension {nesting count : Nat} {front contents later : Bytes} {kind : UInt8}
      (opens : Opens (.extension contents.length) front)
      (rest : WellFormed (nesting + 1) count later) :
      WellFormed (nesting + 1) (count + 1) (front ++ (kind :: (contents ++ later)))

/-! ## Readers that take octets -/

/-- A reader takes octets from the front, and makes a value of them. -/
def Reads {α : Type} (read : Reader α) (octets : Bytes) (value : α) : Prop :=
  ∀ rest, read (octets ++ rest) = .ok (value, rest)

variable {α β : Type}

/-- A reader that took octets hands what it made of them and the others to the next. -/
theorem bind_of_ok {read : Reader α} {next : α → Reader β} {octets rest : Bytes} {value : α}
    (taken : read octets = .ok (value, rest)) : (read >>= next) octets = next value rest := by
  change Except.bind (read octets) _ = _
  rw [taken]
  rfl

/-- What takes nothing reads nothing. -/
theorem Reads.pure (value : α) : Reads (Pure.pure value) [] value := fun _ => rfl

/-- A reader makes only one thing of octets. -/
theorem Reads.unique {read : Reader α} {octets : Bytes} {first second : α}
    (one : Reads read octets first) (other : Reads read octets second) : first = second := by
  have same := (one []).symm.trans (other [])
  cases same
  rfl

/-- Two readers in a row read what both of them read, in this order. -/
theorem Reads.bind {read : Reader α} {next : α → Reader β} {octets later : Bytes} {value : α}
    {result : β} (first : Reads read octets value) (second : Reads (next value) later result) :
    Reads (read >>= next) (octets ++ later) result := by
  intro rest
  change Except.bind (read (octets ++ later ++ rest)) _ = _
  rw [List.append_assoc, first]
  exact second rest

/-- The same for a reader that leaves nothing to the next. -/
theorem Reads.last {read : Reader α} {next : α → Reader β} {octets : Bytes} {value : α}
    {result : β} (first : Reads read octets value) (second : Reads (next value) [] result) :
    Reads (read >>= next) octets result :=
  List.append_nil octets ▸ first.bind second

/-- What a reader makes of a value does not change the octets that it takes. -/
theorem Reads.map {read : Reader α} {octets : Bytes} {value : α} (reads : Reads read octets value)
    (make : α → β) : Reads (do return make (← read)) octets (make value) :=
  reads.last (Reads.pure (make value))

/-- A marker is read back from its octet. -/
theorem reads_marker {marker : Marker} (known : Marker.ofOctet marker.octet = marker) :
    Reads Reader.marker [marker.octet] marker := by
  intro rest
  simp [Reader.marker, known]

/-- A number that fits its width is read back. -/
theorem reads_number {width : Width} {value : Nat} (fits : value < Bytes.span width.octets) :
    Reads (Reader.number width) (Bytes.bigEndian width.octets value) value := by
  intro rest
  rw [Reader.number, Bytes.split_append (Bytes.length_bigEndian _ _)]
  simp [Bytes.ofBigEndian_bigEndian fits]

/-- An octet is a number of width one. -/
theorem reads_octet (octet : UInt8) : Reads (Reader.number .one) [octet] octet.toNat := by
  have reads := @reads_number .one octet.toNat (UInt8.toNat_lt octet)
  have written : Bytes.bigEndian Width.one.octets octet.toNat = [octet] := by
    change [UInt8.ofNat octet.toNat].reverse = _
    rw [UInt8.ofNat_toNat]
    rfl
  rwa [written] at reads

/-- Contents are read back by their length. -/
theorem reads_contents (octets : Bytes) : Reads (Reader.contents octets.length) octets octets := by
  intro rest
  rw [Reader.contents, Bytes.split_append rfl]

/-- A number that a marker can hold is read off it. -/
theorem ofOctet_fixPositive {value : Nat} (small : value < 0x80) :
    Marker.ofOctet (Marker.fixPositive value).octet = .fixPositive value := by
  have table : ∀ value : Fin 0x80,
      Marker.ofOctet (Marker.fixPositive value.val).octet = .fixPositive value.val := by decide
  exact table ⟨value, small⟩

/-- A negative number that a marker can hold is read off it. -/
theorem ofOctet_fixNegative {distance : Nat} (small : distance < 32) :
    Marker.ofOctet (Marker.fixNegative distance).octet = .fixNegative distance := by
  have table : ∀ distance : Fin 32,
      Marker.ofOctet (Marker.fixNegative distance.val).octet = .fixNegative distance.val := by decide
  exact table ⟨distance, small⟩

/-- A length of a text that a marker can hold is read off it. -/
theorem ofOctet_fixText {length : Nat} (small : length < 32) :
    Marker.ofOctet (Marker.fixText length).octet = .fixText length := by
  have table : ∀ length : Fin 32,
      Marker.ofOctet (Marker.fixText length.val).octet = .fixText length.val := by decide
  exact table ⟨length, small⟩

/-- A length of an array that a marker can hold is read off it. -/
theorem ofOctet_fixArray {length : Nat} (small : length < 16) :
    Marker.ofOctet (Marker.fixArray length).octet = .fixArray length := by
  have table : ∀ length : Fin 16,
      Marker.ofOctet (Marker.fixArray length.val).octet = .fixArray length.val := by decide
  exact table ⟨length, small⟩

/-- A length of a map that a marker can hold is read off it. -/
theorem ofOctet_fixMap {length : Nat} (small : length < 16) :
    Marker.ofOctet (Marker.fixMap length).octet = .fixMap length := by
  have table : ∀ length : Fin 16,
      Marker.ofOctet (Marker.fixMap length.val).octet = .fixMap length.val := by decide
  exact table ⟨length, small⟩

/-- A scalar is read as its marker says. -/
theorem reads_scalar {marker : Marker} {rest : Reader Scalar} {octets : Bytes} {value : Scalar}
    (known : Marker.ofOctet marker.octet = marker) (begins : Reader.scalar? marker = some rest)
    (reads : Reads rest octets value) :
    Reads Reader.scalar (marker.octet :: octets) value := by
  refine (reads_marker known).bind ?_
  rw [begins]
  exact reads

/-! ## Heads are read in every form -/

/-- A number with a sign is read back from its complement. -/
theorem twosComplement_emod {width : Width} {value : Int}
    (least : -(Bytes.span width.octets : Int) ≤ 2 * value)
    (greatest : 2 * value < Bytes.span width.octets) :
    twosComplement width (value % Bytes.span width.octets).toNat = value := by
  have positive : (0 : Int) < Bytes.span width.octets := by omega
  have wrapped : value % Bytes.span width.octets =
      if 0 ≤ value then value else value + Bytes.span width.octets := by
    split
    · exact Int.emod_eq_of_lt (by omega) (by omega)
    · rw [← Int.add_emod_right]
      exact Int.emod_eq_of_lt (by omega) (by omega)
  rw [wrapped]
  unfold twosComplement
  dsimp only
  split <;> split <;> omega

/-- Every spelling of a scalar is read as the scalar. -/
theorem Scalar.Spelled.reads {value : Scalar} {octets : Bytes} (spelled : value.Spelled octets) :
    Reads Reader.scalar octets value := by
  cases spelled with
  | null => exact reads_scalar (by decide) rfl (Reads.pure _)
  | boolean value =>
    cases value with
    | false => exact reads_scalar (by decide) rfl (Reads.pure _)
    | true => exact reads_scalar (by decide) rfl (Reads.pure _)
  | fixPositive small => exact reads_scalar (ofOctet_fixPositive small) rfl (Reads.pure _)
  | fixNegative small => exact reads_scalar (ofOctet_fixNegative small) rfl (Reads.pure _)
  | unsigned width fits =>
    refine reads_scalar ?_ rfl ((reads_number fits).map _)
    cases width <;> decide
  | @signed width number least greatest =>
    have inside : (number % Bytes.span width.octets).toNat < Bytes.span width.octets := by
      have bound := Int.emod_lt_of_pos number (show (0 : Int) < Bytes.span width.octets by omega)
      omega
    have reads := (reads_number inside).map fun read => Scalar.signed (twosComplement width read)
    rw [twosComplement_emod least greatest] at reads
    refine reads_scalar ?_ rfl reads
    cases width <;> decide
  | float32 fits => exact reads_scalar (by decide) rfl ((@reads_number .four _ fits).map _)
  | float64 fits => exact reads_scalar (by decide) rfl ((@reads_number .eight _ fits).map _)

/-- A marker that begins a scalar begins a head, the same scalar. -/
theorem head_cons {octet : UInt8} {later : Bytes} {rest : Reader Scalar}
    (begins : Reader.scalar? (Marker.ofOctet octet) = some rest) :
    Reader.head (octet :: later) = (do return Head.scalar (← rest)) later := by
  have taken : Reader.marker (octet :: later) = .ok (Marker.ofOctet octet, later) := rfl
  unfold Reader.head
  rw [bind_of_ok taken]
  generalize Marker.ofOctet octet = marker at begins
  cases marker <;> cases begins <;> rfl

/-- What is read as a scalar is read as its head. -/
theorem head_of_scalar {octets rest : Bytes} {value : Scalar}
    (read : Reader.scalar octets = .ok (value, rest)) :
    Reader.head octets = .ok (.scalar value, rest) := by
  cases octets with
  | nil => cases read
  | cons octet later =>
    have taken : Reader.marker (octet :: later) = .ok (Marker.ofOctet octet, later) := rfl
    unfold Reader.scalar at read
    rw [bind_of_ok taken] at read
    cases begins : Reader.scalar? (Marker.ofOctet octet) with
    | none =>
      rw [begins] at read
      cases read
    | some reader =>
      rw [begins] at read
      rw [head_cons begins]
      exact bind_of_ok read

/-- Every form of a head is read as the head. -/
theorem Opens.reads {head : Head} {octets : Bytes} (opens : Opens head octets) :
    Reads Reader.head octets head := by
  cases opens with
  | scalar spelled => exact fun rest => head_of_scalar (spelled.reads rest)
  | fixText small => exact (reads_marker (ofOctet_fixText small)).bind (Reads.pure _)
  | @text width _ short fits =>
    refine Reads.bind (reads_marker ?_) ((reads_number fits).map _)
    cases width <;> first | decide | exact absurd rfl short
  | @binary width _ short fits =>
    refine Reads.bind (reads_marker ?_) ((reads_number fits).map _)
    cases width <;> first | decide | exact absurd rfl short
  | fixArray small => exact (reads_marker (ofOctet_fixArray small)).bind (Reads.pure _)
  | array medium fits =>
    refine Reads.bind (reads_marker ?_) ((reads_number fits).map _)
    rcases medium with rfl | rfl <;> decide
  | fixMap small => exact (reads_marker (ofOctet_fixMap small)).bind (Reads.pure _)
  | map medium fits =>
    refine Reads.bind (reads_marker ?_) ((reads_number fits).map _)
    rcases medium with rfl | rfl <;> decide
  | @fixExtension power small =>
    refine Reads.bind (reads_marker ?_) (Reads.pure _)
    have table : ∀ power : Fin 5,
        Marker.ofOctet (Marker.fixExtension power.val).octet = .fixExtension power.val := by decide
    exact table ⟨power, Nat.lt_succ_of_le small⟩
  | @extension width _ short fits =>
    refine Reads.bind (reads_marker ?_) ((reads_number fits).map _)
    cases width <;> first | decide | exact absurd rfl short

/-! ## Values of any kind are passed over -/

/-- A value, or a row of them, is passed over whole, if its containers are not too deep. -/
theorem WellFormed.skips {nesting count : Nat} {octets : Bytes}
    (formed : WellFormed nesting count octets) :
    Reads (Reader.skip nesting count) octets () := by
  induction formed with
  | done =>
    unfold Reader.skip
    exact Reads.pure ()
  | @scalar nesting _ _ _ _ spelled _ later =>
    cases nesting <;> unfold Reader.skip <;> exact (Opens.scalar spelled).reads.bind later
  | @text nesting _ _ contents _ opens _ later =>
    cases nesting <;> unfold Reader.skip <;>
      exact opens.reads.bind ((reads_contents contents).bind later)
  | @binary nesting _ _ contents _ opens _ later =>
    cases nesting <;> unfold Reader.skip <;>
      exact opens.reads.bind ((reads_contents contents).bind later)
  | array opens _ _ inside later =>
    unfold Reader.skip
    exact opens.reads.bind (inside.bind later)
  | map opens _ _ inside later =>
    unfold Reader.skip
    exact opens.reads.bind (inside.bind later)
  | @extension _ _ _ contents _ kind opens _ later =>
    unfold Reader.skip
    exact opens.reads.bind ((reads_octet kind).bind ((reads_contents contents).bind later))

end RemoteAgent.MessagePack
