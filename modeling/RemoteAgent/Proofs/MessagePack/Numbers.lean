import Mathlib.Data.Nat.Find
import RemoteAgent.Proofs.MessagePack.Representations
import RemoteAgent.Proofs.MessagePack.Respelled

/-!
# Numbers of metadata are exact

A number in metadata may be told in any form, and may be beyond what its field holds. Metadata hold it
as it is told, or are refused for it; none is cut down to its field (`FileInfo.numbers_are_exact`). So
the forms of the numbers do not matter, but for one: a key with a sign names no field
(`signed_key_is_refused`).
-/

namespace RemoteAgent.MessagePack

variable {fields : List Field}

/-! ## What a refused value does to a record -/

/-- A whole number is read as it is, if it is in the range, and refused otherwise. -/
theorem gives_integer {value : Int} {octets : Bytes} (counts : Counts value octets)
    {least greatest : Int} (expected : Expected) (outside : ¬ (least ≤ value ∧ value ≤ greatest)) :
    Gives (Reader.integer least greatest expected) octets
      (.error (.invalidValue (.integer value) expected)) := by
  have ranged : Gives (if least ≤ value ∧ value ≤ greatest then Pure.pure value
      else Reader.refuse (.invalidValue (.integer value) expected)) []
      (.error (.invalidValue (.integer value) expected)) := by
    rw [if_neg outside]
    exact .refuse _ _
  obtain ⟨scalar, tells, spelled⟩ := counts_iff.mp counts
  rw [← List.append_nil octets]
  cases tells with
  | unsigned number => exact Gives.bind spelled.reads ranged
  | signed number => exact Gives.bind spelled.reads ranged

/-- A fault of a value is the fault of the field. -/
theorem gives_slot_of_refused {values : Values fields} {index : Nat} {field : Field}
    (place : fields[index]? = some field) {octets : Bytes} {fault : Fault}
    (refused : Gives field.kind.read octets (.error fault)) {known : Nat → Bool}
    (unknown : known index = false) :
    Gives (Slots.read fields index (Slots.among fields values known)) octets (.error fault) := by
  induction fields generalizing index known with
  | nil => cases place
  | cons first fields inductionHypothesis =>
    obtain ⟨value, values⟩ := values
    rw [← List.append_nil octets]
    cases index with
    | zero =>
      cases place
      simp only [Slots.among, unknown]
      exact refused.bind_error _ []
    | succ index =>
      have later := @inductionHypothesis values index place (fun other => known (other + 1)) unknown
      exact later.bind_error _ []

/-- Entries are read in two parts. -/
theorem entries_add (first second : Nat) (slots : Slots fields) :
    Reader.entries fields (first + second) slots =
      (Reader.entries fields first slots >>= Reader.entries fields second) := by
  induction first generalizing slots with
  | zero =>
    rw [Nat.zero_add]
    exact (pure_bind slots _).symm
  | succ first inductionHypothesis =>
    rw [Nat.succ_add]
    unfold Reader.entries
    rw [bind_assoc]
    refine congrArg _ (funext fun named => ?_)
    cases named with
    | some index =>
      dsimp only
      rw [bind_assoc]
      exact congrArg (Slots.read fields index slots >>= ·) (funext inductionHypothesis)
    | none =>
      dsimp only
      rw [bind_assoc]
      exact congrArg (Reader.skip (Reader.depthLimit - 1) 1 >>= ·)
        (funext fun _ => inductionHypothesis slots)

/-- A map is refused for a value that its field refuses, if the entries before it hold values of
their fields. -/
theorem Shape.decode_of_refused {shape : Shape} (distinct : (shape.fields.map Field.name).Nodup)
    {values : Values shape.fields} {before after : List (Bytes × Bytes)} {entry : Bytes × Bytes}
    (each : ∀ other ∈ before,
      (∃ index, Names shape.fields index other.1 ∧ values.Spelled shape.fields index other.2) ∨
        (Strange shape.fields other.1 ∧ WellFormed (Reader.depthLimit - 1) 1 other.2))
    (once : NamesOnce shape.fields (before ++ entry :: after)) {index : Nat}
    (names : Names shape.fields index entry.1) {field : Field}
    (place : shape.fields[index]? = some field) {fault : Fault}
    (refused : Gives field.kind.read entry.2 (.error fault)) {octets : Bytes}
    (map : BeginsMap (before ++ entry :: after) octets) : shape.decode octets = .error fault := by
  obtain ⟨onceBefore, -, apart⟩ := List.pairwise_append.mp once
  -- Everything before the entry is read, and does not name its field.
  obtain ⟨later, reads, complete⟩ := @reads_told _ distinct values before each onceBefore
    (fun _ => false) (fun _ _ _ _ => rfl)
  rw [Slots.among_none] at reads
  have unknown : later index = false := (complete index).mpr
    ⟨rfl, fun other member names' => apart other member entry List.mem_cons_self index names' names⟩
  have stops : Gives (Reader.entries shape.fields (before ++ entry :: after).length
      (Slots.empty shape.fields)) ((before ++ entry :: after).flatMap fun entry => entry.1 ++ entry.2)
      (.error fault) := by
    rw [List.length_append, List.length_cons, entries_add, List.flatMap_append, List.flatMap_cons,
      List.append_assoc]
    exact Gives.bind reads (Gives.bind (names.reads distinct)
      ((gives_slot_of_refused place refused unknown).bind_error _ _))
  obtain ⟨front, trailing, opens, rfl⟩ := map
  have gives : Gives (Reader.record shape) (front ++
      (((before ++ entry :: after).flatMap fun entry => entry.1 ++ entry.2) ++ [])) (.error fault) :=
    Gives.bind opens.reads (stops.bind_error _ [])
  rw [List.append_nil] at gives
  rw [Shape.decode, gives trailing]
  rfl

/-- A value of a field is read by the field. -/
theorem Values.Spelled.reads {values : Values fields} {index : Nat} {octets : Bytes}
    (spelled : values.Spelled fields index octets) {field : Field}
    (place : fields[index]? = some field) : ∃ value, Reads field.kind.read octets value := by
  induction fields generalizing index with
  | nil => cases place
  | cons first fields inductionHypothesis =>
    cases index with
    | zero =>
      cases place
      exact ⟨_, FieldKind.Spelled.reads spelled⟩
    | succ index => exact inductionHypothesis spelled place

/-- An array is refused for a value that its field refuses, if the values before it are read. -/
theorem gives_elements_of_refused (shape : Shape) {position : Nat} {field : Field}
    {spellings : List Bytes} {spelling : Bytes} {fault : Fault}
    (reads : ∀ earlier < position, ∀ field octets, fields[earlier]? = some field →
      spellings[earlier]? = some octets → ∃ value, Reads field.kind.read octets value)
    (place : fields[position]? = some field) (told : spellings[position]? = some spelling)
    (refused : Gives field.kind.read spelling (.error fault)) (index : Nat) :
    Gives (Reader.elements shape fields index spellings.length) spellings.flatten
      (.error fault) := by
  induction position generalizing fields spellings index with
  | zero =>
    match fields, spellings with
    | [], _ => cases place
    | _, [] => cases told
    | _ :: _, _ :: later =>
      cases place
      cases told
      exact refused.bind_error _ later.flatten
  | succ position inductionHypothesis =>
    match fields, spellings with
    | [], _ => cases place
    | _, [] => cases told
    | first :: fields, octets :: later =>
      obtain ⟨_, readsFirst⟩ := reads 0 (Nat.succ_pos position) first octets rfl rfl
      have behind := inductionHypothesis
        (fun earlier below => reads (earlier + 1) (Nat.succ_lt_succ below)) place told (index + 1)
      refine Gives.bind readsFirst ?_
      rw [← List.append_nil later.flatten]
      exact behind.bind_error _ []

theorem Shape.decode_of_refused_elements {shape : Shape} {spellings : List Bytes} {fault : Fault}
    (refused : Gives (Reader.elements shape shape.fields 0 spellings.length) spellings.flatten
      (.error fault)) {octets : Bytes} (array : BeginsArray spellings octets) :
    shape.decode octets = .error fault := by
  obtain ⟨front, trailing, opens, rfl⟩ := array
  have gives : Gives (Reader.record shape) (front ++ (spellings.flatten ++ [])) (.error fault) :=
    Gives.bind opens.reads (refused.bind_error _ [])
  rw [List.append_nil] at gives
  rw [Shape.decode, gives trailing]
  rfl

end RemoteAgent.MessagePack

namespace RemoteAgent

open MessagePack (Quotes Counts Names NamesOnce Strange WellFormed BeginsMap BeginsArray Gives
  RespelledEntry)

/-! ## Metadata as they are told -/

/-- Metadata of a file as they are told. The numbers may be beyond those that metadata hold. -/
structure FileInfo.Report where
  path : String
  size : Int
  mode : Int
  modifiedAt : Int

namespace FileInfo.Report

/-- Every number is in the range of its field. -/
structure InRange (report : Report) : Prop where
  size : 0 ≤ report.size ∧ report.size ≤ 0xFFFFFFFFFFFFFFFF
  mode : 0 ≤ report.mode ∧ report.mode ≤ 0xFFFFFFFF
  modifiedAt : -0x8000000000000000 ≤ report.modifiedAt ∧ report.modifiedAt ≤ 0x7FFFFFFFFFFFFFFF

/-- The number of the field at `index` is beyond the range, where something else is expected. -/
inductive Beyond (report : Report) : (index : Nat) → (number : Int) → MessagePack.Expected → Prop
  | size (outside : ¬ (0 ≤ report.size ∧ report.size ≤ 0xFFFFFFFFFFFFFFFF)) :
    Beyond report 1 report.size .unsigned64
  | mode (outside : ¬ (0 ≤ report.mode ∧ report.mode ≤ 0xFFFFFFFF)) :
    Beyond report 2 report.mode .unsigned32
  | modifiedAt (outside : ¬ (-0x8000000000000000 ≤ report.modifiedAt ∧
      report.modifiedAt ≤ 0x7FFFFFFFFFFFFFFF)) :
    Beyond report 3 report.modifiedAt .signed64

/-- Metadata hold what is told. -/
structure Is (report : Report) (info : FileInfo) : Prop where
  path : report.path = info.path
  size : report.size = info.size.toNat
  mode : report.mode = info.mode.toNat
  modifiedAt : report.modifiedAt = info.modifiedAt.toInt

/-- The octets of what is told of the field at `index`. A number may stand in any form. -/
def Spelled (report : Report) : (index : Nat) → Bytes → Prop
  | 0, octets => Quotes (Utf8.encode report.path) octets
  | 1, octets => Counts report.size octets
  | 2, octets => Counts report.mode octets
  | 3, octets => Counts report.modifiedAt octets
  | _, _ => False

/-- Entries of a map that tell metadata, in any order and among any others. Only the mode may be left
out, when it is zero. -/
structure Told (report : Report) (entries : List (Bytes × Bytes)) : Prop where
  each : ∀ entry ∈ entries,
    (∃ index, Names fields index entry.1 ∧ report.Spelled index entry.2) ∨
      (Strange fields entry.1 ∧ WellFormed (MessagePack.Reader.depthLimit - 1) 1 entry.2)
  once : NamesOnce fields entries
  omitted : ∀ index < 4, (∀ entry ∈ entries, ¬ Names fields index entry.1) →
    index = 2 ∧ report.mode = 0

/-- The spellings of what is told, in the order of the fields. -/
structure InOrder (report : Report) (spellings : List Bytes) : Prop where
  length : spellings.length = 4
  each : ∀ index octets, spellings[index]? = some octets → report.Spelled index octets

/-- What is told is decoded as it is told, or refused for a number that is beyond its range. -/
structure IsExactly (report : Report) (answer : Except MessagePack.Fault FileInfo) : Prop where
  inside : report.InRange → ∃ info, report.Is info ∧ answer = .ok info
  outside : ¬ report.InRange → ∃ index number expected, report.Beyond index number expected ∧
    answer = .error (.invalidValue (.integer number) expected)

variable {report : Report}

theorem inRange_iff :
    report.InRange ↔ ∀ index number expected, ¬ report.Beyond index number expected := by
  constructor
  · rintro inRange index number expected (outside | outside | outside)
    · exact outside inRange.size
    · exact outside inRange.mode
    · exact outside inRange.modifiedAt
  · intro within
    exact ⟨Classical.not_not.mp fun outside => within _ _ _ (.size outside),
      Classical.not_not.mp fun outside => within _ _ _ (.mode outside),
      Classical.not_not.mp fun outside => within _ _ _ (.modifiedAt outside)⟩

/-- Metadata that hold every number that is in its range. -/
def nearest (report : Report) : FileInfo :=
  ⟨report.path, UInt64.ofNat report.size.toNat, UInt32.ofNat report.mode.toNat,
    Int64.ofInt report.modifiedAt⟩

theorem toNat_size (inside : 0 ≤ report.size ∧ report.size ≤ 0xFFFFFFFFFFFFFFFF) :
    report.size = report.nearest.size.toNat := by
  have small : report.size.toNat < UInt64.size := by
    change report.size.toNat < 18446744073709551616
    omega
  rw [nearest, UInt64.toNat_ofNat_of_lt' small]
  omega

theorem toNat_mode (inside : 0 ≤ report.mode ∧ report.mode ≤ 0xFFFFFFFF) :
    report.mode = report.nearest.mode.toNat := by
  have small : report.mode.toNat < UInt32.size := by
    change report.mode.toNat < 4294967296
    omega
  rw [nearest, UInt32.toNat_ofNat_of_lt' small]
  omega

theorem toInt_modifiedAt (inside : -0x8000000000000000 ≤ report.modifiedAt ∧
    report.modifiedAt ≤ 0x7FFFFFFFFFFFFFFF) :
    report.modifiedAt = report.nearest.modifiedAt.toInt :=
  (Int64.toInt_ofInt_of_le (by omega) (by omega)).symm

theorem InRange.is_nearest (inRange : report.InRange) : report.Is report.nearest :=
  ⟨rfl, toNat_size inRange.size, toNat_mode inRange.mode, toInt_modifiedAt inRange.modifiedAt⟩

/-- What is told of a field is its value, if it is in the range. -/
theorem spelled_nearest {index : Nat} {octets : Bytes} (spelled : report.Spelled index octets)
    (within : ∀ number expected, ¬ report.Beyond index number expected) :
    report.nearest.record.Spelled fields index octets := by
  match index with
  | 0 => exact spelled
  | 1 =>
    have inside := Classical.not_not.mp fun outside => within _ _ (.size outside)
    change Counts (report.nearest.size.toNat : Int) octets
    rwa [← toNat_size inside]
  | 2 =>
    have inside := Classical.not_not.mp fun outside => within _ _ (.mode outside)
    change Counts (report.nearest.mode.toNat : Int) octets
    rwa [← toNat_mode inside]
  | 3 =>
    have inside := Classical.not_not.mp fun outside => within _ _ (.modifiedAt outside)
    change Counts report.nearest.modifiedAt.toInt octets
    rwa [← toInt_modifiedAt inside]
  | _ + 4 => exact spelled.elim

/-- A number beyond the range is refused, whatever its form. -/
theorem Beyond.gives {index : Nat} {number : Int} {expected : MessagePack.Expected}
    (beyond : report.Beyond index number expected) {octets : Bytes}
    (spelled : report.Spelled index octets) :
    ∃ field : MessagePack.Field, fields[index]? = some field ∧
      Gives field.kind.read octets (.error (.invalidValue (.integer number) expected)) := by
  have mapped : ∀ {α : Type} {least greatest : Int} {expected : MessagePack.Expected} {value : Int}
      (make : Int → α), Counts value octets → ¬ (least ≤ value ∧ value ≤ greatest) →
        Gives (do return make (← MessagePack.Reader.integer least greatest expected)) octets
          (.error (.invalidValue (.integer value) expected)) := by
    intro α least greatest expected value make counts outside
    have refused := MessagePack.gives_integer counts expected outside
    exact List.append_nil octets ▸ refused.bind_error _ []
  cases beyond with
  | size outside => exact ⟨_, rfl, mapped _ spelled outside⟩
  | mode outside => exact ⟨_, rfl, mapped _ spelled outside⟩
  | modifiedAt outside => exact ⟨_, rfl, mapped _ spelled outside⟩

theorem Beyond.lt {index : Nat} {number : Int} {expected : MessagePack.Expected}
    (beyond : report.Beyond index number expected) : index < 4 := by
  cases beyond <;> decide

open scoped Classical in
/-- There is a first number beyond its range. -/
theorem first_beyond (outside : ¬ report.InRange) :
    ∃ index number expected, report.Beyond index number expected ∧
      ∀ earlier < index, ∀ number expected, ¬ report.Beyond earlier number expected := by
  have some : ∃ index number expected, report.Beyond index number expected := by
    simpa [inRange_iff] using outside
  obtain ⟨number, expected, beyond⟩ := Nat.find_spec some
  refine ⟨Nat.find some, number, expected, beyond, fun earlier below number expected sooner => ?_⟩
  exact Nat.find_min some below ⟨number, expected, sooner⟩

/-- Entries before the first that names a number beyond its range hold values of their fields. -/
theorem each_nearest {entries : List (Bytes × Bytes)}
    (each : ∀ entry ∈ entries,
      (∃ index, Names fields index entry.1 ∧ report.Spelled index entry.2) ∨
        (Strange fields entry.1 ∧ WellFormed (MessagePack.Reader.depthLimit - 1) 1 entry.2))
    (within : ∀ entry ∈ entries, ∀ index number expected, Names fields index entry.1 →
      ¬ report.Beyond index number expected) :
    ∀ entry ∈ entries,
      (∃ index, Names fields index entry.1 ∧ report.nearest.record.Spelled fields index entry.2) ∨
        (Strange fields entry.1 ∧ WellFormed (MessagePack.Reader.depthLimit - 1) 1 entry.2) := by
  intro entry member
  rcases each entry member with ⟨index, names, spelled⟩ | strange
  · refine .inl ⟨index, names, spelled_nearest spelled fun number expected => ?_⟩
    exact within entry member index number expected names
  · exact .inr strange

/-- What is told within the ranges is told of metadata. -/
theorem Told.nearest {entries : List (Bytes × Bytes)} (told : report.Told entries)
    (inRange : report.InRange) : report.nearest.record.Told entries where
  each := each_nearest told.each fun _ _ index number expected _ =>
    inRange_iff.mp inRange index number expected
  once := told.once
  omitted index unnamed := by
    by_cases inside : index < 4
    · obtain ⟨rfl, none⟩ := told.omitted index inside unnamed
      change some (0 : UInt32) = some (UInt32.ofNat report.mode.toNat)
      rw [none]
      rfl
    · exact MessagePack.Values.isDefault_of_le (Nat.le_of_not_lt inside)

open scoped Classical in
/-- A number beyond its range is told by an entry, and there is a first such entry. -/
theorem Told.first_beyond {entries : List (Bytes × Bytes)} (told : report.Told entries)
    (outside : ¬ report.InRange) :
    ∃ before entry after index number expected, entries = before ++ entry :: after ∧
      Names fields index entry.1 ∧ report.Beyond index number expected ∧
        ∀ other ∈ before, ∀ index number expected, Names fields index other.1 →
          ¬ report.Beyond index number expected := by
  let tells (entry : Bytes × Bytes) : Prop := ∃ index number expected,
    Names fields index entry.1 ∧ report.Beyond index number expected
  cases found : entries.find? fun entry => decide (tells entry) with
  | some entry =>
    obtain ⟨isBeyond, before, after, same, earlier⟩ := List.find?_eq_some_iff_append.mp found
    obtain ⟨index, number, expected, names, beyond⟩ := of_decide_eq_true isBeyond
    refine ⟨before, entry, after, index, number, expected, same, names, beyond, ?_⟩
    intro other member third numberToo expectedToo namesThird beyondToo
    have free := earlier other member
    rw [Bool.not_eq_true', decide_eq_false_iff_not] at free
    exact free ⟨third, numberToo, expectedToo, namesThird, beyondToo⟩
  | none =>
    refine absurd (inRange_iff.mpr fun index number expected beyond => ?_) outside
    have unnamed : ∀ entry ∈ entries, ¬ Names fields index entry.1 := by
      intro entry member names
      have free := List.find?_eq_none.mp found entry member
      rw [decide_eq_true_eq] at free
      exact free ⟨index, number, expected, names, beyond⟩
    cases beyond with
    | size outside => cases (told.omitted 1 (by decide) unnamed).1
    | mode outside =>
      have none := (told.omitted 2 (by decide) unnamed).2
      exact outside (by omega)
    | modifiedAt outside => cases (told.omitted 3 (by decide) unnamed).1

end FileInfo.Report

open FileInfo in
/-- A map that tells metadata is decoded as exactly what it tells. -/
theorem FileInfo.Report.Told.isExactly {report : Report} {entries : List (Bytes × Bytes)}
    (told : report.Told entries) {octets : Bytes} (map : BeginsMap entries octets) :
    report.IsExactly (FileInfo.decode octets) where
  inside inRange := by
    refine ⟨report.nearest, inRange.is_nearest, ?_⟩
    rw [decode_eq_map, MessagePack.Shape.decode_of_told (by decide) (told.nearest inRange) map]
    rfl
  outside outside := by
    obtain ⟨before, entry, after, index, number, expected, rfl, names, beyond, within⟩ :=
      told.first_beyond outside
    rcases told.each entry (by simp) with ⟨another, namesToo, spelled⟩ | ⟨strange, -⟩
    · have distinct : (FileInfo.fields.map MessagePack.Field.name).Nodup := by decide
      cases namesToo.unique distinct names
      obtain ⟨field, place, refused⟩ := beyond.gives spelled
      have each := each_nearest (fun other member => told.each other (by simp [member])) within
      refine ⟨_, number, expected, beyond, ?_⟩
      rw [decode_eq_map,
        MessagePack.Shape.decode_of_refused distinct each told.once names place refused map]
      rfl
    · exact absurd names (strange.names_none (by decide))

open FileInfo in
/-- An array that tells metadata is decoded as exactly what it tells. -/
theorem FileInfo.Report.InOrder.isExactly {report : Report} {spellings : List Bytes}
    (ordered : report.InOrder spellings) {octets : Bytes} (array : BeginsArray spellings octets) :
    report.IsExactly (FileInfo.decode octets) where
  inside inRange := by
    have spelled : ∀ index octets, spellings[index]? = some octets →
        report.nearest.record.Spelled fields index octets := fun index octets told =>
      spelled_nearest (ordered.each index octets told) fun number expected =>
        inRange_iff.mp inRange index number expected
    have inOrder : report.nearest.record.InOrder fields spellings := by
      match spellings, ordered.length with
      | [path, size, mode, modifiedAt], _ =>
        exact ⟨spelled 0 path rfl, spelled 1 size rfl, spelled 2 mode rfl,
          spelled 3 modifiedAt rfl, rfl⟩
    refine ⟨report.nearest, inRange.is_nearest, ?_⟩
    rw [decode_eq_map, MessagePack.Shape.decode_of_inOrder inOrder array]
    rfl
  outside outside := by
    obtain ⟨index, number, expected, beyond, within⟩ := first_beyond outside
    have below : index < spellings.length := ordered.length ▸ beyond.lt
    have told : spellings[index]? = some spellings[index] :=
      List.getElem?_eq_getElem _
    obtain ⟨field, place, refused⟩ := beyond.gives (ordered.each index _ told)
    have stops := MessagePack.gives_elements_of_refused shape
      (fun earlier below field octets place told =>
        (spelled_nearest (ordered.each earlier octets told) (within earlier below)).reads place)
      place told refused 0
    refine ⟨index, number, expected, beyond, ?_⟩
    rw [decode_eq_map, MessagePack.Shape.decode_of_refused_elements stops array]
    rfl

/-! ## Exactness -/

/-- The path of metadata that a map tells is of a length that can be written. -/
theorem FileInfo.fits_of_told {info : FileInfo} {entries : List (Bytes × Bytes)}
    (told : info.record.Told entries) : (Utf8.encode info.path).length < Bytes.span 4 := by
  have named : ∃ entry ∈ entries, Names FileInfo.fields 0 entry.1 := by
    apply Classical.byContradiction
    intro unnamed
    have omitted := told.omitted 0 fun entry member names => unnamed ⟨entry, member, names⟩
    cases omitted
  obtain ⟨entry, member, names⟩ := named
  have distinct : (FileInfo.fields.map MessagePack.Field.name).Nodup := by decide
  rcases told.each entry member with ⟨index, namesToo, spelled⟩ | ⟨strange, -⟩
  · cases namesToo.unique distinct names
    obtain ⟨front, -, opens | opens⟩ := spelled
    · exact MessagePack.makes_head _ _ _ (opens.reads [])
    · exact MessagePack.makes_head _ _ _ (opens.reads [])
  · exact absurd names (strange.names_none distinct)

/-- The numbers of metadata are decoded exactly, or refused. So maps that differ in the forms of whole
numbers are decoded alike, as long as a key keeps its sign, and metadata that are told in any form are
decoded like those that are written. -/
theorem FileInfo.numbers_are_exact :
    (∀ report entries octets, Report.Told report entries → BeginsMap entries octets →
      report.IsExactly (FileInfo.decode octets)) ∧
    (∀ report spellings octets, Report.InOrder report spellings → BeginsArray spellings octets →
      report.IsExactly (FileInfo.decode octets)) ∧
    (∀ entries others octets octetsToo, List.Forall₂ RespelledEntry entries others →
      BeginsMap entries octets → BeginsMap others octetsToo →
        FileInfo.decode octets = FileInfo.decode octetsToo) ∧
    ∀ info entries octets, (FileInfo.record info).Told entries → BeginsMap entries octets →
      FileInfo.decode octets = .ok info ∧ FileInfo.decode info.encode = .ok info := by
  refine ⟨fun report entries octets told map => told.isExactly map,
    fun report spellings octets ordered array => ordered.isExactly array, ?_, ?_⟩
  · intro entries others octets octetsToo respelled map mapToo
    rw [FileInfo.decode_eq_map, FileInfo.decode_eq_map,
      FileInfo.shape.decode_eq_of_respelled respelled map mapToo]
  · intro info entries octets told map
    have written : FileInfo.shape.decode info.encode = .ok info.record :=
      MessagePack.Shape.decode_encode (by decide) (by decide) (by decide)
        ⟨FileInfo.fits_of_told told, trivial, trivial, trivial, trivial⟩
    rw [FileInfo.decode_eq_map, FileInfo.decode_eq_map,
      MessagePack.Shape.decode_of_told (by decide) told map, written]
    exact ⟨rfl, rfl⟩

/-- A size is decoded in eight octets and a mode with a sign like both in one, under a number of two
octets; a size below zero is refused. -/
theorem FileInfo.numbers_are_exact_of_forms :
    FileInfo.decode [0x83, 0x00, 0xA1, 0x61, 0xCC, 0x01, 0xCF, 0x00, 0x00, 0x00, 0x00, 0x00, 0x00,
      0x00, 0x05, 0x03, 0xD1, 0x00, 0x07] = .ok ⟨"a", 5, 0, 7⟩ ∧
    FileInfo.decode [0x94, 0xA1, 0x61, 0xD0, 0xFF, 0x00, 0x00] =
      .error (.invalidValue (.integer (-1)) .unsigned64) := by
  have small : ∀ number : Nat, number < 0x80 → Counts number [UInt8.ofNat number] :=
    fun number below => .inr ⟨number, rfl, .fixPositive below⟩
  have name : Quotes (Utf8.encode "a") [0xA1, 0x61] := ⟨[0xA1], rfl, .inl (.fixText (by decide))⟩
  have below : Counts (-1) [0xD0, 0xFF] := .inl (.signed .one (by decide) (by decide))
  constructor
  · -- The map in the shortest forms.
    have shortest : FileInfo.decode [0x83, 0x00, 0xA1, 0x61, 0x01, 0x05, 0x03, 0x07] =
        .ok ⟨"a", 5, 0, 7⟩ := by decide +kernel
    have size : Counts 5 [0xCF, 0x00, 0x00, 0x00, 0x00, 0x00, 0x00, 0x00, 0x05] :=
      .inr ⟨5, rfl, .unsigned .eight (by decide)⟩
    have time : Counts 7 [0xD1, 0x00, 0x07] := .inl (.signed .two (by decide) (by decide))
    have key : ∀ number : Nat, number < 0x80 →
        (MessagePack.Scalar.unsigned number).Spelled [UInt8.ofNat number] :=
      fun number below => .fixPositive below
    have wide : (MessagePack.Scalar.unsigned 1).Spelled [0xCC, 0x01] := .unsigned .one (by decide)
    have respelled : List.Forall₂ RespelledEntry
        [([0x00], [0xA1, 0x61]),
          ([0xCC, 0x01], [0xCF, 0x00, 0x00, 0x00, 0x00, 0x00, 0x00, 0x00, 0x05]),
          ([0x03], [0xD1, 0x00, 0x07])]
        [([0x00], [0xA1, 0x61]), ([0x01], [0x05]), ([0x03], [0x07])] :=
      .cons ⟨.of_spelled (key 0 (by decide)) (key 0 (by decide)), .of_quotes name⟩
        (.cons ⟨.of_spelled wide (key 1 (by decide)), .of_counts size (small 5 (by decide))⟩
          (.cons ⟨.of_spelled (key 3 (by decide)) (key 3 (by decide)),
            .of_counts time (small 7 (by decide))⟩ .nil))
    rw [← shortest]
    exact FileInfo.numbers_are_exact.2.2.1 _ _ _ _ respelled
      ⟨[0x83], [], .fixMap (by decide), rfl⟩ ⟨[0x83], [], .fixMap (by decide), rfl⟩
  · have ordered : Report.InOrder ⟨"a", -1, 0, 0⟩ [[0xA1, 0x61], [0xD0, 0xFF], [0x00], [0x00]] := by
      refine ⟨rfl, fun index octets place => ?_⟩
      match index with
      | 0 => cases place; exact name
      | 1 => cases place; exact below
      | 2 => cases place; exact small 0 (by decide)
      | 3 => cases place; exact small 0 (by decide)
    have outside : ¬ Report.InRange ⟨"a", -1, 0, 0⟩ := fun inRange =>
      absurd inRange.size.1 (by decide)
    obtain ⟨index, number, expected, beyond, refused⟩ :=
      (FileInfo.numbers_are_exact.2.1 _ _ _ ordered
        ⟨[0x94], [], .fixArray (by decide), rfl⟩).outside outside
    refine refused.trans ?_
    cases beyond with
    | size outside => rfl
    | mode outside => exact absurd ⟨by decide, by decide⟩ outside
    | modifiedAt outside => exact absurd ⟨by decide, by decide⟩ outside

/-- Two maps that differ only in the form of one number, which is a key. Without a sign it is the number
of a field; with a sign it is refused. -/
theorem signed_key_is_refused :
    let plain : Bytes := [0x84, 0x00, 0xA1, 0x61, 0x01, 0x05, 0x02, 0x00, 0x03, 0x00]
    let signed : Bytes := [0x84, 0x00, 0xA1, 0x61, 0xD0, 0x01, 0x05, 0x02, 0x00, 0x03, 0x00]
    MessagePack.Respelled 1 plain signed ∧ FileInfo.decode plain = .ok ⟨"a", 5, 0, 0⟩ ∧
      FileInfo.decode signed = .error (.invalidType (.integer 1) .fieldName) := by
  intro plain signed
  have small : ∀ {count : Nat} {later laterOther : Bytes} (number : Nat), number < 0x80 →
      MessagePack.Respelled count later laterOther →
        MessagePack.Respelled (count + 1) (UInt8.ofNat number :: later)
          (UInt8.ofNat number :: laterOther) := by
    intro count later laterOther number below rest
    exact MessagePack.Respelled.scalar (.fixPositive below) rest
  have key : Counts 1 [0x01] := .inr ⟨1, rfl, .fixPositive (by decide)⟩
  have keySigned : Counts 1 [0xD0, 0x01] := .inl (.signed .one (by decide) (by decide))
  have values : MessagePack.Respelled 5 [0x05, 0x02, 0x00, 0x03, 0x00]
      [0x05, 0x02, 0x00, 0x03, 0x00] :=
    small 5 (by decide) (small 2 (by decide) (small 0 (by decide) (small 3 (by decide)
      (small 0 (by decide) .done))))
  have keyed : MessagePack.Respelled 6 [0x01, 0x05, 0x02, 0x00, 0x03, 0x00]
      [0xD0, 0x01, 0x05, 0x02, 0x00, 0x03, 0x00] := .number key keySigned values
  have named : MessagePack.Respelled 7 [0xA1, 0x61, 0x01, 0x05, 0x02, 0x00, 0x03, 0x00]
      [0xA1, 0x61, 0xD0, 0x01, 0x05, 0x02, 0x00, 0x03, 0x00] :=
    @MessagePack.Respelled.text 6 [0xA1] [0x61] _ _ (.fixText (by decide)) keyed
  have whole : MessagePack.Respelled 1 plain signed :=
    @MessagePack.Respelled.map 0 4 [0x84] _ _ [] [] (.fixMap (by decide))
      (small 0 (by decide) named) .done
  exact ⟨whole, by decide +kernel, by decide +kernel⟩

end RemoteAgent
