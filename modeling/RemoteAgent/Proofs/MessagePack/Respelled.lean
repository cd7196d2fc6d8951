import RemoteAgent.Proofs.MessagePack.Lengths

/-!
# Whole numbers in other forms

A whole number may be written in any width that holds it, and with a sign or without. `Respelled` says
that two rows of values differ in that only, at any depth. Every reader of values comes to the same of
both (`Agree`): to the same value, behind which it stops, or to the same fault. Only a key of a record
has to keep its sign, since a number with a sign names no field (`RespelledKey`). So maps whose numbers
are respelled are decoded alike (`Shape.decode_eq_of_respelled`).
-/

namespace RemoteAgent.MessagePack

variable {α β : Type}

/-! ## Readers that come to the same -/

/-- What a reader comes to at octets, whatever is behind them: a value, behind which it stops, or a
fault. -/
def Gives (read : Reader α) (octets : Bytes) (outcome : Except Fault α) : Prop :=
  ∀ rest, read (octets ++ rest) = outcome.map fun value => (value, rest)

namespace Gives

theorem of_reads {read : Reader α} {octets : Bytes} {value : α} (reads : Reads read octets value) :
    Gives read octets (.ok value) := reads

theorem refuse (fault : Fault) (octets : Bytes) :
    Gives (Reader.refuse fault : Reader α) octets (.error fault) := fun _ => rfl

theorem bind {read : Reader α} {next : α → Reader β} {octets later : Bytes} {value : α}
    {outcome : Except Fault β} (first : Reads read octets value)
    (second : Gives (next value) later outcome) :
    Gives (read >>= next) (octets ++ later) outcome := by
  intro rest
  rw [List.append_assoc, bind_of_ok (first (later ++ rest))]
  exact second rest

/-- A fault ends the reading. -/
theorem bind_error {read : Reader α} {octets : Bytes} {fault : Fault}
    (refused : Gives read octets (.error fault)) (next : α → Reader β) (later : Bytes) :
    Gives (read >>= next) (octets ++ later) (.error fault) := by
  intro rest
  change Except.bind (read (octets ++ later ++ rest)) _ = _
  rw [List.append_assoc, refused]
  rfl

end Gives

/-- Two readers come to the same at two strings of octets. -/
def Agree (read other : Reader α) (octets others : Bytes) : Prop :=
  ∃ outcome, Gives read octets outcome ∧ Gives other others outcome

namespace Agree

theorem of_reads {read other : Reader α} {octets others : Bytes} {value : α}
    (one : Reads read octets value) (two : Reads other others value) :
    Agree read other octets others := ⟨_, .of_reads one, .of_reads two⟩

theorem refuse (fault : Fault) (octets others : Bytes) :
    Agree (Reader.refuse fault : Reader α) (Reader.refuse fault) octets others :=
  ⟨_, .refuse fault octets, .refuse fault others⟩

theorem pure (value : α) : Agree (Pure.pure value) (Pure.pure value) [] [] :=
  of_reads (Reads.pure value) (Reads.pure value)

/-- Readers that agree on what they make, which has a property, are composed with such as agree on what
has it. -/
theorem bind_makes {property : α → Prop} {read other : Reader α} {next further : α → Reader β}
    {octets others later laterOthers : Bytes} (makes : Makes read property)
    (first : Agree read other octets others)
    (second : ∀ value, property value → Agree (next value) (further value) later laterOthers) :
    Agree (read >>= next) (other >>= further) (octets ++ later) (others ++ laterOthers) := by
  obtain ⟨outcome, one, two⟩ := first
  cases outcome with
  | error fault => exact ⟨_, one.bind_error next later, two.bind_error further laterOthers⟩
  | ok value =>
    obtain ⟨result, oneLater, twoLater⟩ := second value (makes _ _ _ (one []))
    exact ⟨result, Gives.bind one oneLater, Gives.bind two twoLater⟩

theorem bind {read other : Reader α} {next further : α → Reader β}
    {octets others later laterOthers : Bytes} (first : Agree read other octets others)
    (second : ∀ value, Agree (next value) (further value) later laterOthers) :
    Agree (read >>= next) (other >>= further) (octets ++ later) (others ++ laterOthers) :=
  bind_makes (Makes.anything read) first fun value _ => second value

/-- Readers that are certain of the first octets go on from what they made of them. -/
theorem after {read other : Reader α} {next further : α → Reader β}
    {octets others later laterOthers : Bytes} {value another : α} (one : Reads read octets value)
    (two : Reads other others another) (second : Agree (next value) (further another) later
      laterOthers) :
    Agree (read >>= next) (other >>= further) (octets ++ later) (others ++ laterOthers) := by
  obtain ⟨result, oneLater, twoLater⟩ := second
  exact ⟨result, Gives.bind one oneLater, Gives.bind two twoLater⟩

/-- The same for readers that leave nothing to the next. -/
theorem last {read other : Reader α} {next further : α → Reader β} {octets others : Bytes}
    {value another : α} (one : Reads read octets value) (two : Reads other others another)
    (second : Agree (next value) (further another) [] []) :
    Agree (read >>= next) (other >>= further) octets others :=
  List.append_nil octets ▸ List.append_nil others ▸ after one two second

/-- What readers make of a value does not change that they agree. -/
theorem map {read other : Reader α} {octets others : Bytes}
    (agree : Agree read other octets others) (make : α → β) :
    Agree (do return make (← read)) (do return make (← other)) octets others :=
  List.append_nil octets ▸ List.append_nil others ▸ agree.bind fun value => pure (make value)

/-- The same octets are read alike as far as they are all that is read. -/
theorem within (read : Reader α) (octets : Bytes) :
    Agree (Reader.within octets read) (Reader.within octets read) [] [] := by
  cases made : read octets with
  | ok pair =>
    have reads : Reads (Reader.within octets read) [] pair.1 := by
      intro rest
      rw [Reader.within, made]
      rfl
    exact of_reads reads reads
  | error fault =>
    have refused : Gives (Reader.within octets read) [] (.error fault) := by
      intro rest
      rw [Reader.within, made]
      rfl
    exact ⟨_, refused, refused⟩

end Agree

/-! ## Values whose numbers are respelled -/

/-- Two rows of `count` values of any kind that differ in the forms of whole numbers only. -/
inductive Respelled : (count : Nat) → Bytes → Bytes → Prop
  | done : Respelled 0 [] []
  | number {count : Nat} {value : Int} {one other later laterOther : Bytes}
      (counts : Counts value one) (countsToo : Counts value other)
      (rest : Respelled count later laterOther) :
      Respelled (count + 1) (one ++ later) (other ++ laterOther)
  | scalar {count : Nat} {value : Scalar} {front later laterOther : Bytes}
      (spelled : value.Spelled front) (rest : Respelled count later laterOther) :
      Respelled (count + 1) (front ++ later) (front ++ laterOther)
  | text {count : Nat} {front contents later laterOther : Bytes}
      (opens : Opens (.text contents.length) front) (rest : Respelled count later laterOther) :
      Respelled (count + 1) (front ++ (contents ++ later)) (front ++ (contents ++ laterOther))
  | binary {count : Nat} {front contents later laterOther : Bytes}
      (opens : Opens (.binary contents.length) front) (rest : Respelled count later laterOther) :
      Respelled (count + 1) (front ++ (contents ++ later)) (front ++ (contents ++ laterOther))
  | array {count length : Nat} {front contents others later laterOther : Bytes}
      (opens : Opens (.array length) front) (inside : Respelled length contents others)
      (rest : Respelled count later laterOther) :
      Respelled (count + 1) (front ++ (contents ++ later)) (front ++ (others ++ laterOther))
  | map {count length : Nat} {front contents others later laterOther : Bytes}
      (opens : Opens (.map length) front) (inside : Respelled (2 * length) contents others)
      (rest : Respelled count later laterOther) :
      Respelled (count + 1) (front ++ (contents ++ later)) (front ++ (others ++ laterOther))
  | extension {count : Nat} {front contents later laterOther : Bytes} {kind : UInt8}
      (opens : Opens (.extension contents.length) front) (rest : Respelled count later laterOther) :
      Respelled (count + 1) (front ++ (kind :: (contents ++ later)))
        (front ++ (kind :: (contents ++ laterOther)))

/-- A number in two forms is a respelled value. -/
theorem Respelled.of_counts {value : Int} {octets others : Bytes} (counts : Counts value octets)
    (countsToo : Counts value others) : Respelled 1 octets others :=
  List.append_nil octets ▸ List.append_nil others ▸ number counts countsToo done

/-- A text has no number in it. -/
theorem Respelled.of_quotes {contents octets : Bytes} (quotes : Quotes contents octets) :
    Respelled 1 octets octets := by
  obtain ⟨front, rfl, opens | opens⟩ := quotes
  · exact List.append_nil contents ▸ text opens done
  · exact List.append_nil contents ▸ binary opens done

/-- A scalar that is a whole number. -/
inductive Scalar.Tells : Scalar → Int → Prop
  | unsigned (value : Nat) : Tells (.unsigned value) value
  | signed (value : Int) : Tells (.signed value) value

/-- A scalar that tells a number is named by it. -/
theorem Scalar.Tells.found {scalar : Scalar} {value : Int} (tells : scalar.Tells value) :
    scalar.found = .integer value := by
  cases tells <;> rfl

/-- Octets that count are the spelling of a scalar that tells the number. -/
theorem counts_iff {value : Int} {octets : Bytes} :
    Counts value octets ↔ ∃ scalar : Scalar, scalar.Tells value ∧ scalar.Spelled octets := by
  constructor
  · rintro (spelled | ⟨natural, rfl, spelled⟩)
    · exact ⟨_, .signed value, spelled⟩
    · exact ⟨_, .unsigned natural, spelled⟩
  · rintro ⟨scalar, tells, spelled⟩
    cases tells with
    | unsigned natural => exact .inr ⟨natural, rfl, spelled⟩
    | signed value => exact .inl spelled

/-- What stands behind the same head in both of two values. -/
inductive Behind : Head → Bytes → Bytes → Prop
  | scalar (value : Scalar) : Behind (.scalar value) [] []
  | text (contents : Bytes) : Behind (.text contents.length) contents contents
  | binary (contents : Bytes) : Behind (.binary contents.length) contents contents
  | array {length : Nat} {contents others : Bytes} (inside : Respelled length contents others) :
      Behind (.array length) contents others
  | map {length : Nat} {contents others : Bytes} (inside : Respelled (2 * length) contents others) :
      Behind (.map length) contents others
  | extension (kind : UInt8) (contents : Bytes) :
      Behind (.extension contents.length) (kind :: contents) (kind :: contents)

/-- A value is a whole number in two forms, or the same head and what is behind it. -/
theorem Respelled.head {octets others : Bytes} (respelled : Respelled 1 octets others) :
    (∃ value, Counts value octets ∧ Counts value others) ∨
      ∃ head front contents contentsToo, octets = front ++ contents ∧
        others = front ++ contentsToo ∧ Opens head front ∧ Behind head contents contentsToo := by
  cases respelled with
  | number counts countsToo rest =>
    cases rest
    exact .inl ⟨_, by rwa [List.append_nil], by rwa [List.append_nil]⟩
  | scalar spelled rest =>
    cases rest
    exact .inr ⟨_, _, _, _, rfl, rfl, .scalar spelled, .scalar _⟩
  | text opens rest =>
    cases rest
    exact .inr ⟨_, _, _, _, by rw [List.append_nil], by rw [List.append_nil], opens, .text _⟩
  | binary opens rest =>
    cases rest
    exact .inr ⟨_, _, _, _, by rw [List.append_nil], by rw [List.append_nil], opens, .binary _⟩
  | array opens inside rest =>
    cases rest
    exact .inr ⟨_, _, _, _, by rw [List.append_nil], by rw [List.append_nil], opens, .array inside⟩
  | map opens inside rest =>
    cases rest
    exact .inr ⟨_, _, _, _, by rw [List.append_nil], by rw [List.append_nil], opens, .map inside⟩
  | extension opens rest =>
    cases rest
    exact .inr ⟨_, _, _, _, by rw [List.append_nil], by rw [List.append_nil], opens,
      .extension _ _⟩

/-- A row of values is its first one and a row of the others. -/
theorem Respelled.split {count : Nat} {octets others : Bytes}
    (respelled : Respelled (count + 1) octets others) :
    ∃ front frontOther later laterOther, octets = front ++ later ∧
      others = frontOther ++ laterOther ∧ Respelled 1 front frontOther ∧
        Respelled count later laterOther := by
  cases respelled with
  | number counts countsToo rest =>
    exact ⟨_, _, _, _, rfl, rfl, by simpa using Respelled.number counts countsToo .done, rest⟩
  | scalar spelled rest =>
    exact ⟨_, _, _, _, rfl, rfl, by simpa using Respelled.scalar spelled .done, rest⟩
  | text opens rest =>
    exact ⟨_, _, _, _, (List.append_assoc ..).symm, (List.append_assoc ..).symm,
      by simpa using Respelled.text opens .done, rest⟩
  | binary opens rest =>
    exact ⟨_, _, _, _, (List.append_assoc ..).symm, (List.append_assoc ..).symm,
      by simpa using Respelled.binary opens .done, rest⟩
  | array opens inside rest =>
    exact ⟨_, _, _, _, (List.append_assoc ..).symm, (List.append_assoc ..).symm,
      by simpa using Respelled.array opens inside .done, rest⟩
  | map opens inside rest =>
    exact ⟨_, _, _, _, (List.append_assoc ..).symm, (List.append_assoc ..).symm,
      by simpa using Respelled.map opens inside .done, rest⟩
  | @extension _ front contents later laterOther kind opens rest =>
    exact ⟨front ++ (kind :: contents), front ++ (kind :: contents), later, laterOther, by simp,
      by simp, by simpa using Respelled.extension opens .done, rest⟩

/-- A reader comes to the same if it does so behind every head, and at a number with a sign or
without. -/
theorem Respelled.agree {octets others : Bytes} {next : Head → Reader α}
    (respelled : Respelled 1 octets others)
    (numbers : ∀ (one other : Scalar) value, one.Tells value → other.Tells value →
      Agree (next (.scalar one)) (next (.scalar other)) [] [])
    (each : ∀ head contents contentsToo, Behind head contents contentsToo →
      Agree (next head) (next head) contents contentsToo) :
    Agree (Reader.head >>= next) (Reader.head >>= next) octets others := by
  rcases respelled.head with ⟨value, counts, countsToo⟩ |
    ⟨head, front, contents, contentsToo, rfl, rfl, opens, behind⟩
  · obtain ⟨one, tells, spelled⟩ := counts_iff.mp counts
    obtain ⟨other, tellsToo, spelledToo⟩ := counts_iff.mp countsToo
    exact Agree.last (Opens.scalar spelled).reads (Opens.scalar spelledToo).reads
      (numbers one other value tells tellsToo)
  · exact Agree.after opens.reads opens.reads (each head contents contentsToo behind)

/-! ## Values of fields -/

/-- A number is refused where another kind of value is expected, whatever its form. -/
theorem agree_reject_numbers {one other : Scalar} {value : Int} (tells : one.Tells value)
    (tellsToo : other.Tells value) (expected : Expected) :
    Agree (Reader.reject (.scalar one) expected : Reader α) (Reader.reject (.scalar other) expected)
      [] [] := by
  unfold Reader.reject
  dsimp only
  rw [tells.found, tellsToo.found]
  exact .refuse _ _ _

/-- What does not fit is refused alike. -/
theorem agree_reject {head : Head} {contents others : Bytes} (expected : Expected)
    (behind : Behind head contents others) :
    Agree (Reader.reject head expected : Reader α) (Reader.reject head expected) contents
      others := by
  cases behind with
  | scalar value => exact .refuse _ _ _
  | text contents =>
    refine Agree.last (reads_contents contents) (reads_contents contents) ?_
    split <;> exact .refuse _ _ _
  | binary contents =>
    exact Agree.last (reads_contents contents) (reads_contents contents) (.refuse _ _ _)
  | array inside => exact .refuse _ _ _
  | map inside => exact .refuse _ _ _
  | extension kind contents => exact .refuse _ _ _

/-- A text is read alike from its spellings. -/
theorem Respelled.agree_text {octets others : Bytes} (respelled : Respelled 1 octets others) :
    Agree Reader.text Reader.text octets others := by
  refine respelled.agree (fun one other value tells tellsToo => ?_)
    fun head contents contentsToo behind => ?_
  · exact agree_reject_numbers tells tellsToo .text
  · cases behind with
    | text contents =>
      refine Agree.last (reads_contents contents) (reads_contents contents) ?_
      split
      · exact .pure _
      · exact .refuse _ _ _
    | binary contents =>
      refine Agree.last (reads_contents contents) (reads_contents contents) ?_
      split
      · exact .pure _
      · exact .refuse _ _ _
    | scalar value => exact agree_reject _ (.scalar value)
    | array inside => exact agree_reject _ (.array inside)
    | map inside => exact agree_reject _ (.map inside)
    | extension kind contents => exact agree_reject _ (.extension kind contents)

/-- So are texts one after the other. -/
theorem Respelled.agree_valuesAfter {count : Nat} {octets others : Bytes}
    (respelled : Respelled count octets others) (found : List String) :
    Agree (Reader.valuesAfter Reader.text count found) (Reader.valuesAfter Reader.text count found)
      octets others := by
  induction count generalizing octets others found with
  | zero =>
    cases respelled
    exact .pure _
  | succ count inductionHypothesis =>
    obtain ⟨front, frontOther, later, laterOther, rfl, rfl, first, rest⟩ := respelled.split
    exact first.agree_text.bind fun value => inductionHypothesis rest (value :: found)

/-- A list of texts is read alike from its spellings. -/
theorem Respelled.agree_texts {octets others : Bytes} (respelled : Respelled 1 octets others) :
    Agree Reader.texts Reader.texts octets others := by
  refine respelled.agree (fun one other value tells tellsToo => ?_)
    fun head contents contentsToo behind => ?_
  · exact agree_reject_numbers tells tellsToo .sequence
  · cases behind with
    | array inside => exact inside.agree_valuesAfter []
    | binary contents =>
      exact Agree.last (reads_contents contents) (reads_contents contents) (.within _ _)
    | scalar value => exact agree_reject _ (.scalar value)
    | text contents => exact agree_reject _ (.text contents)
    | map inside => exact agree_reject _ (.map inside)
    | extension kind contents => exact agree_reject _ (.extension kind contents)

/-- What opens a value that is no scalar is refused as a scalar, whatever is behind it. -/
theorem Opens.refuses_scalar {head : Head} {front : Bytes} (opens : Opens head front)
    (noScalar : ∀ value, head ≠ .scalar value) :
    ∃ fault, ∀ contents, Gives Reader.scalar (front ++ contents) (.error fault) := by
  cases front with
  | nil => cases opens.reads []
  | cons octet digits =>
    cases begins : Reader.scalar? (Marker.ofOctet octet) with
    | none =>
      refine ⟨.wrongMarker (Marker.ofOctet octet), fun contents rest => ?_⟩
      have taken : Reader.marker (octet :: (digits ++ contents ++ rest)) =
          .ok (Marker.ofOctet octet, digits ++ contents ++ rest) := rfl
      change Reader.scalar (octet :: (digits ++ contents ++ rest)) = _
      unfold Reader.scalar
      rw [bind_of_ok taken, begins]
      rfl
    | some reader =>
      have read : Reader.head (octet :: (digits ++ [])) = .ok (head, []) := opens.reads []
      rw [head_cons begins] at read
      change Except.bind (reader (digits ++ [])) _ = _ at read
      cases made : reader (digits ++ []) with
      | error fault =>
        rw [made] at read
        cases read
      | ok pair =>
        rw [made] at read
        exact absurd (Prod.mk.inj (Except.ok.inj read)).1.symm (noScalar pair.1)

/-- A reader of scalars comes to the same if it does so of the same scalar, and of a number with a sign
or without. -/
theorem Respelled.agree_scalar {octets others : Bytes} {next : Scalar → Reader α}
    (respelled : Respelled 1 octets others)
    (numbers : ∀ (one other : Scalar) value, one.Tells value → other.Tells value →
      Agree (next one) (next other) [] [])
    (each : ∀ value, Agree (next value) (next value) [] []) :
    Agree (Reader.scalar >>= next) (Reader.scalar >>= next) octets others := by
  have refused : ∀ {head front}, Opens head front → (∀ value, head ≠ .scalar value) →
      ∀ contents contentsToo, Agree (Reader.scalar >>= next) (Reader.scalar >>= next)
        (front ++ contents) (front ++ contentsToo) := by
    intro head front opens noScalar contents contentsToo
    obtain ⟨fault, gives⟩ := opens.refuses_scalar noScalar
    refine ⟨.error fault, ?_, ?_⟩
    · exact List.append_nil (front ++ contents) ▸ (gives contents).bind_error next []
    · exact List.append_nil (front ++ contentsToo) ▸ (gives contentsToo).bind_error next []
  rcases respelled.head with ⟨value, counts, countsToo⟩ |
    ⟨head, front, contents, contentsToo, rfl, rfl, opens, behind⟩
  · obtain ⟨one, tells, spelled⟩ := counts_iff.mp counts
    obtain ⟨other, tellsToo, spelledToo⟩ := counts_iff.mp countsToo
    exact Agree.last spelled.reads spelledToo.reads (numbers one other value tells tellsToo)
  · cases behind with
    | scalar value =>
      cases opens with
      | scalar spelled => exact Agree.after spelled.reads spelled.reads (each value)
    | _ =>
      refine refused opens ?_ _ _
      rintro value ⟨⟩

/-- A number is read alike from its spellings. -/
theorem Respelled.agree_integer {octets others : Bytes} {least greatest : Int}
    {expected : Expected} (respelled : Respelled 1 octets others) :
    Agree (Reader.integer least greatest expected) (Reader.integer least greatest expected) octets
      others := by
  have ranged : ∀ value : Int, Agree (if least ≤ value ∧ value ≤ greatest then Pure.pure value
      else Reader.refuse (.invalidValue (.integer value) expected))
      (if least ≤ value ∧ value ≤ greatest then Pure.pure value
      else Reader.refuse (.invalidValue (.integer value) expected)) [] [] := by
    intro value
    split
    · exact .pure _
    · exact .refuse _ _ _
  refine respelled.agree_scalar (fun one other value tells tellsToo => ?_) fun value => ?_
  · cases tells <;> cases tellsToo <;> exact ranged _
  · cases value with
    | unsigned value => exact ranged value
    | signed value => exact ranged value
    | _ => exact .refuse _ _ _

/-- A truth value is read alike from its spellings. -/
theorem Respelled.agree_boolean {octets others : Bytes} (respelled : Respelled 1 octets others) :
    Agree Reader.boolean Reader.boolean octets others := by
  refine respelled.agree_scalar (fun one other value tells tellsToo => ?_) fun value => ?_
  · cases tells <;> cases tellsToo <;> exact .refuse _ _ _
  · cases value with
    | boolean value => exact .pure _
    | _ => exact .refuse _ _ _

/-- A field of any kind is read alike from its spellings. -/
theorem Respelled.agree_field {octets others : Bytes} (respelled : Respelled 1 octets others)
    (kind : FieldKind) : Agree kind.read kind.read octets others := by
  cases kind with
  | text => exact respelled.agree_text
  | unsigned64 => exact respelled.agree_integer.map _
  | unsigned32 => exact respelled.agree_integer.map _
  | signed64 => exact respelled.agree_integer.map _
  | boolean => exact respelled.agree_boolean
  | texts => exact respelled.agree_texts

/-! ## Values that are passed over -/

/-- Values are passed over alike, at any depth. -/
theorem Respelled.agree_skip {count : Nat} {octets others : Bytes}
    (respelled : Respelled count octets others) (allowance : Nat) :
    Agree (Reader.skip allowance count) (Reader.skip allowance count) octets others := by
  induction respelled generalizing allowance with
  | done =>
    unfold Reader.skip
    exact .pure _
  | number counts countsToo _ later =>
    obtain ⟨one, -, spelled⟩ := counts_iff.mp counts
    obtain ⟨other, -, spelledToo⟩ := counts_iff.mp countsToo
    cases allowance <;> unfold Reader.skip <;>
      exact Agree.after (Opens.scalar spelled).reads (Opens.scalar spelledToo).reads (later _)
  | scalar spelled _ later =>
    cases allowance <;> unfold Reader.skip <;>
      exact Agree.after (Opens.scalar spelled).reads (Opens.scalar spelled).reads (later _)
  | @text _ _ contents _ _ opens _ later =>
    cases allowance <;> unfold Reader.skip <;>
      exact Agree.after opens.reads opens.reads
        (Agree.after (reads_contents contents) (reads_contents contents) (later _))
  | @binary _ _ contents _ _ opens _ later =>
    cases allowance <;> unfold Reader.skip <;>
      exact Agree.after opens.reads opens.reads
        (Agree.after (reads_contents contents) (reads_contents contents) (later _))
  | array opens _ _ inside later =>
    cases allowance with
    | zero =>
      unfold Reader.skip
      exact Agree.after opens.reads opens.reads (.refuse _ _ _)
    | succ allowance =>
      unfold Reader.skip
      exact Agree.after opens.reads opens.reads ((inside allowance).bind fun _ => later _)
  | map opens _ _ inside later =>
    cases allowance with
    | zero =>
      unfold Reader.skip
      exact Agree.after opens.reads opens.reads (.refuse _ _ _)
    | succ allowance =>
      unfold Reader.skip
      exact Agree.after opens.reads opens.reads ((inside allowance).bind fun _ => later _)
  | @extension _ _ contents _ _ kind opens _ later =>
    cases allowance with
    | zero =>
      unfold Reader.skip
      exact Agree.after opens.reads opens.reads (.refuse _ _ _)
    | succ allowance =>
      unfold Reader.skip
      exact Agree.after opens.reads opens.reads (Agree.after (reads_octet kind) (reads_octet kind)
        (Agree.after (reads_contents contents) (reads_contents contents) (later _)))

/-! ## Records -/

/-- A key in another form. A number that is a key keeps its sign, or stays without one. -/
structure RespelledKey (key other : Bytes) : Prop where
  respelled : Respelled 1 key other
  sign : (∃ number, (Scalar.unsigned number).Spelled key) ↔
    ∃ number, (Scalar.unsigned number).Spelled other

/-- The number of a field, in any width. -/
theorem RespelledKey.of_spelled {number : Nat} {key other : Bytes}
    (spelled : (Scalar.unsigned number).Spelled key)
    (spelledToo : (Scalar.unsigned number).Spelled other) : RespelledKey key other where
  respelled := .of_counts (.inr ⟨number, rfl, spelled⟩) (.inr ⟨number, rfl, spelledToo⟩)
  sign := ⟨fun _ => ⟨number, spelledToo⟩, fun _ => ⟨number, spelled⟩⟩

/-- A number that keeps its sign is the same scalar. -/
theorem RespelledKey.scalar {key other : Bytes} (respelled : RespelledKey key other) {value : Int}
    (counts : Counts value key) (countsToo : Counts value other) :
    ∃ scalar : Scalar, scalar.Spelled key ∧ scalar.Spelled other := by
  rcases counts with spelled | ⟨natural, rfl, spelled⟩
  · rcases countsToo with spelledToo | ⟨natural, rfl, spelledToo⟩
    · exact ⟨_, spelled, spelledToo⟩
    · obtain ⟨number, unsigned⟩ := respelled.sign.mpr ⟨natural, spelledToo⟩
      cases spelled.reads.unique unsigned.reads
  · rcases countsToo with spelledToo | ⟨another, same, spelledToo⟩
    · obtain ⟨number, unsigned⟩ := respelled.sign.mp ⟨natural, spelled⟩
      cases spelledToo.reads.unique unsigned.reads
    · cases Int.ofNat.inj same
      exact ⟨_, spelled, spelledToo⟩

variable {fields : List Field}

/-- A key names the same field in its spellings. -/
theorem RespelledKey.agree_fieldIndex {key other : Bytes} (respelled : RespelledKey key other) :
    Agree (Reader.fieldIndex fields) (Reader.fieldIndex fields) key other := by
  rcases respelled.respelled.head with ⟨value, counts, countsToo⟩ |
    ⟨head, front, contents, contentsToo, rfl, rfl, opens, behind⟩
  · obtain ⟨scalar, spelled, spelledToo⟩ := respelled.scalar counts countsToo
    refine Agree.last (Opens.scalar spelled).reads (Opens.scalar spelledToo).reads ?_
    cases scalar with
    | unsigned number => exact .pure _
    | _ => exact .refuse _ _ _
  · refine Agree.after opens.reads opens.reads ?_
    cases behind with
    | scalar value =>
      cases value with
      | unsigned number => exact .pure _
      | _ => exact .refuse _ _ _
    | text contents =>
      exact Agree.last (reads_contents contents) (reads_contents contents) (.pure _)
    | binary contents =>
      exact Agree.last (reads_contents contents) (reads_contents contents) (.pure _)
    | array inside => exact agree_reject _ (.array inside)
    | map inside => exact agree_reject _ (.map inside)
    | extension kind contents => exact agree_reject _ (.extension kind contents)

/-- A slot is filled alike from the spellings of its value. -/
theorem Respelled.agree_slots {octets others : Bytes} (respelled : Respelled 1 octets others)
    (index : Nat) (slots : Slots fields) (inside : index < fields.length) :
    Agree (Slots.read fields index slots) (Slots.read fields index slots) octets others := by
  induction fields generalizing index with
  | nil => cases inside
  | cons field fields inductionHypothesis =>
    obtain ⟨slot, slots⟩ := slots
    cases index with
    | zero =>
      cases slot with
      | some value => exact .refuse _ _ _
      | none => exact (respelled.agree_field field.kind).map _
    | succ index =>
      exact (inductionHypothesis index slots (Nat.lt_of_succ_lt_succ inside)).map _

/-- A field that is named is there. -/
theorem makes_fieldIndex (fields : List Field) : Makes (Reader.fieldIndex fields) fun found =>
    ∀ index, found = some index → index < fields.length := by
  have named : ∀ name index, (fields.findIdx? fun field => Utf8.encode field.name == name) =
      some index → index < fields.length := by
    intro name index found
    obtain ⟨inside, -⟩ := List.findIdx?_eq_some_iff_getElem.mp found
    exact inside
  refine (Makes.anything Reader.head).bind fun head _ => ?_
  cases head with
  | scalar value =>
    cases value with
    | unsigned number =>
      refine Makes.pure fun index found => ?_
      split at found
      · next inside =>
        cases found
        exact inside
      · cases found
    | _ => exact Makes.reject _ _
  | text length => exact (Makes.anything _).bind fun name _ => Makes.pure (named name)
  | binary length => exact (Makes.anything _).bind fun name _ => Makes.pure (named name)
  | _ => exact Makes.reject _ _

/-- An entry of a map whose numbers are respelled, but for the sign of its key. -/
structure RespelledEntry (entry other : Bytes × Bytes) : Prop where
  key : RespelledKey entry.1 other.1
  value : Respelled 1 entry.2 other.2

/-- Entries are read alike from their spellings. -/
theorem agree_entries {entries others : List (Bytes × Bytes)}
    (respelled : List.Forall₂ RespelledEntry entries others) (slots : Slots fields) :
    Agree (Reader.entries fields entries.length slots) (Reader.entries fields others.length slots)
      (entries.flatMap fun entry => entry.1 ++ entry.2)
      (others.flatMap fun entry => entry.1 ++ entry.2) := by
  induction respelled generalizing slots with
  | nil => exact .pure _
  | cons first _ later =>
    rw [List.flatMap_cons, List.flatMap_cons, List.append_assoc, List.append_assoc]
    refine Agree.bind_makes (makes_fieldIndex fields) first.key.agree_fieldIndex
      fun named inside => ?_
    cases named with
    | some index => exact (first.value.agree_slots index slots (inside index rfl)).bind later
    | none => exact (first.value.agree_skip _).bind fun _ => later slots

/-- Maps whose numbers are respelled are decoded alike, if their keys keep their signs. -/
theorem Shape.decode_eq_of_respelled (shape : Shape) {entries others : List (Bytes × Bytes)}
    (respelled : List.Forall₂ RespelledEntry entries others) {octets octetsToo : Bytes}
    (map : BeginsMap entries octets) (mapToo : BeginsMap others octetsToo) :
    shape.decode octets = shape.decode octetsToo := by
  obtain ⟨front, trailing, opens, rfl⟩ := map
  obtain ⟨frontToo, trailingToo, opensToo, rfl⟩ := mapToo
  have agree : Agree (Reader.record shape) (Reader.record shape)
      (front ++ ((entries.flatMap fun entry => entry.1 ++ entry.2) ++ []))
      (frontToo ++ ((others.flatMap fun entry => entry.1 ++ entry.2) ++ [])) := by
    refine Agree.after opens.reads opensToo.reads
      ((agree_entries respelled (Slots.empty shape.fields)).bind fun slots => ?_)
    split
    · exact .pure _
    · exact .refuse _ _ _
  obtain ⟨outcome, one, two⟩ := agree
  rw [List.append_nil] at one two
  rw [Shape.decode, Shape.decode, one trailing, two trailingToo]
  cases outcome <;> rfl

end RemoteAgent.MessagePack
