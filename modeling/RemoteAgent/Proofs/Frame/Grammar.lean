import RemoteAgent.Proofs.Frame.Files
import RemoteAgent.Proofs.Text.Fronts

/-!
# What octets are, as frames

Octets spell a frame, or their layout is broken, or a path in a sound layout is no text, or a record
cannot be read. A `Grammar` says the four of the octets alone, without a reader. A reader that has
the right answer for each class tells the classes apart (`Grammar.Decides.classifies`), because it
has one answer for any octets, and some class applies to them.
-/

namespace RemoteAgent

/-! ## Parts of a payload -/

namespace Layout

/-- The number at the front of a header. -/
theorem field_first {width : Nat} {first : Bytes} (whole : first.length = width) (rest : Bytes) :
    field (first ++ rest) 0 width = Bytes.ofLittleEndian first := by
  rw [field, List.drop_zero, List.take_left' whole]

/-- The number behind the first one of a header. -/
theorem field_second {position width : Nat} {first second : Bytes}
    (before : first.length = position) (whole : second.length = width) :
    field (first ++ second) position width = Bytes.ofLittleEndian second := by
  rw [field, List.drop_left' before, List.take_of_length_le (Nat.le_of_eq whole)]

theorem header_of_short (kind : String) {needed : Nat} {payload : Bytes}
    (short : payload.length < needed) :
    header kind needed payload = .error (.protocol (.truncated kind needed payload.length)) := by
  have missing : payload.split needed = none := by
    rw [Bytes.split, if_neg]
    rw [List.length_take]
    omega
  rw [header, missing]

theorem path_of_fault {octets : Bytes} {fault : Utf8.Fault}
    (refused : Utf8.decode octets = .error fault) :
    path octets = .error (.codec (.badPath fault)) := by
  rw [path, refused]

/-- Octets that are not too few begin with so many. -/
theorem exists_front {count : Nat} {payload : Bytes} (enough : ¬ payload.length < count) :
    ∃ front rest : Bytes, payload = front ++ rest ∧ front.length = count := by
  refine ⟨payload.take count, payload.drop count, (List.take_append_drop _ _).symm, ?_⟩
  rw [List.length_take]
  omega

/-- Octets that are not too few begin with a header of two numbers. -/
theorem exists_header {first second : Nat} {payload : Bytes}
    (enough : ¬ payload.length < first + second) :
    ∃ front behind rest : Bytes, payload = front ++ behind ++ rest ∧ front.length = first ∧
      behind.length = second := by
  obtain ⟨header, rest, rfl, whole⟩ := exists_front enough
  obtain ⟨front, behind, rfl, counted⟩ :=
    exists_front (show ¬ header.length < first by omega)
  refine ⟨front, behind, rest, rfl, counted, ?_⟩
  rw [List.length_append] at whole
  omega

/-- Octets that are not too few end with so many. -/
theorem exists_trailing {length : Nat} {body : Bytes} (enough : ¬ body.length < length) :
    ∃ path data : Bytes, body = path ++ data ∧ length = data.length := by
  refine ⟨body.take (body.length - length), body.drop (body.length - length),
    (List.take_append_drop _ _).symm, ?_⟩
  rw [List.length_drop]
  omega

section Chunk

variable {α : Type} (kind : String) (frame : String → Chunk → α)

/-- Reads a chunk of a file, in a frame of either direction. -/
def chunk (payload : Bytes) : Except Failure α := do
  let (header, body) ← Layout.header kind 16 payload
  let (path, data) ← Layout.trailing kind (Layout.field header 8 8) body
  return frame (← Layout.path path) ⟨UInt64.ofNat (Layout.field header 0 8), data⟩

theorem chunk_of_short {payload : Bytes} (short : payload.length < 16) :
    chunk kind frame payload = .error (.protocol (.truncated kind 16 payload.length)) := by
  rw [chunk, header_of_short kind short]
  rfl

variable {offset length : Bytes} (wholeOffset : offset.length = 8) (wholeLength : length.length = 8)

include wholeOffset wholeLength

theorem header_of_two (rest : Bytes) :
    header kind 16 (offset ++ length ++ rest) = .ok (offset ++ length, rest) :=
  header_append kind rest (by rw [List.length_append, wholeOffset, wholeLength])

theorem chunk_of_overlong {body : Bytes} (exceeds : body.length < Bytes.ofLittleEndian length) :
    chunk kind frame (offset ++ length ++ body) =
      .error (.protocol (.overlong kind (Bytes.ofLittleEndian length) body.length)) := by
  simp only [chunk, header_of_two kind wholeOffset wholeLength, bind, Except.bind,
    field_second wholeOffset wholeLength, trailing, Nat.not_le.mpr exceeds, if_false]

/-- With as much data as the header says, reading a chunk comes down to reading the path. -/
theorem chunk_of_parts {path data : Bytes} (counted : Bytes.ofLittleEndian length = data.length) :
    chunk kind frame (offset ++ length ++ path ++ data) =
      (do return frame (← Layout.path path) ⟨UInt64.ofNat (Bytes.ofLittleEndian offset), data⟩) := by
  rw [List.append_assoc (offset ++ length), chunk, header_of_two kind wholeOffset wholeLength]
  simp only [bind, Except.bind, field_second wholeOffset wholeLength,
    field_first wholeOffset, counted, trailing_append]

end Chunk

end Layout

/-! ## Readers and what they read -/

/-- What octets are, as frames of some sort. -/
structure Grammar (α : Type) where
  /-- The octets spell the frame. -/
  Spells : Bytes → α → Prop
  /-- The layout of the octets is broken in this way. -/
  Misshapen : Bytes → ProtocolFault → Prop
  /-- The layout is sound, and these octets stand for the path, but are no text. -/
  Illegible : (frame path : Bytes) → Prop
  /-- The octets carry a record that is refused with this fault. -/
  Garbled : Bytes → MessagePack.Fault → Prop

variable {α : Type}

/-- A reader accepts what spells a frame and nothing else, and its failures tell the other classes
apart. -/
structure Grammar.Classifies (grammar : Grammar α) (read : Bytes → Except Failure α) : Prop where
  accepts : ∀ octets frame, read octets = .ok frame ↔ grammar.Spells octets frame
  misshapen : ∀ octets fault,
    read octets = .error (.protocol fault) ↔ grammar.Misshapen octets fault
  illegible : ∀ octets,
    (∃ fault, read octets = .error (.codec fault)) ↔ ∃ path, grammar.Illegible octets path
  /-- The wording of a bad path ends with the length of its longest front that is text. -/
  index : ∀ octets path, grammar.Illegible octets path → ∃ fault words length,
    read octets = .error (.codec fault) ∧ Utf8.LongestText path length ∧
      (Failure.codec fault).message = words ++ " from index " ++ toString length
  garbled : ∀ octets fault, read octets = .error (.payload fault) ↔ grammar.Garbled octets fault
  /-- Whatever is in no other class is a frame. -/
  otherwise : ∀ octets, (∃ frame, read octets = .ok frame) ↔
    (∀ fault, ¬ grammar.Misshapen octets fault) ∧ (∀ path, ¬ grammar.Illegible octets path) ∧
      ∀ fault, ¬ grammar.Garbled octets fault

/-- What a reader makes of each class, and that some class applies to all octets. -/
structure Grammar.Decides (grammar : Grammar α) (read : Bytes → Except Failure α) : Prop where
  spelled : ∀ {octets frame}, grammar.Spells octets frame → read octets = .ok frame
  misshapen : ∀ {octets fault},
    grammar.Misshapen octets fault → read octets = .error (.protocol fault)
  illegible : ∀ {octets path}, grammar.Illegible octets path →
    ∃ fault, Utf8.decode path = .error fault ∧ read octets = .error (.codec (.badPath fault))
  garbled : ∀ {octets fault}, grammar.Garbled octets fault → read octets = .error (.payload fault)
  covers : ∀ octets, (∃ frame, grammar.Spells octets frame) ∨
    (∃ fault, grammar.Misshapen octets fault) ∨ (∃ path, grammar.Illegible octets path) ∨
      ∃ fault, grammar.Garbled octets fault

/-- The wording of a bad path ends with the index that strict reading gives. -/
theorem message_badPath (fault : Utf8.Fault) : ∃ words,
    (Failure.codec (.badPath fault)).message =
      words ++ " from index " ++ toString fault.index := by
  obtain ⟨words, same⟩ := fault.message_index
  have regroup : ∀ outer inner front middle number : String,
      outer ++ (inner ++ (front ++ middle ++ number)) =
        (outer ++ (inner ++ front)) ++ middle ++ number := by
    intro outer inner front middle number
    simp only [String.append_assoc]
  exact ⟨"Codec error: " ++ ("path is not valid UTF-8: " ++ words),
    (congrArg (fun wording => "Codec error: " ++ ("path is not valid UTF-8: " ++ wording)) same).trans
      (regroup _ _ _ _ _)⟩

/-- What an answer of a reader says of the octets. -/
def Grammar.Holds (grammar : Grammar α) (octets : Bytes) : Except Failure α → Prop
  | .ok frame => grammar.Spells octets frame
  | .error (.protocol fault) => grammar.Misshapen octets fault
  | .error (.codec _) => ∃ path, grammar.Illegible octets path
  | .error (.payload fault) => grammar.Garbled octets fault
  | .error _ => False

namespace Grammar.Decides

variable {grammar : Grammar α} {read : Bytes → Except Failure α} (decides : grammar.Decides read)

include decides

/-- Some class applies to the octets, and the answer is the one for that class. -/
theorem holds (octets : Bytes) : grammar.Holds octets (read octets) := by
  rcases decides.covers octets with
    ⟨frame, spelled⟩ | ⟨fault, misshapen⟩ | ⟨path, illegible⟩ | ⟨fault, garbled⟩
  · rw [decides.spelled spelled]
    exact spelled
  · rw [decides.misshapen misshapen]
    exact misshapen
  · obtain ⟨fault, _, refused⟩ := decides.illegible illegible
    rw [refused]
    exact ⟨path, illegible⟩
  · rw [decides.garbled garbled]
    exact garbled

theorem holds_of_eq {octets : Bytes} {answer : Except Failure α} (gives : read octets = answer) :
    grammar.Holds octets answer :=
  gives ▸ decides.holds octets

theorem otherwise (octets : Bytes) : (∃ frame, read octets = .ok frame) ↔
    (∀ fault, ¬ grammar.Misshapen octets fault) ∧ (∀ path, ¬ grammar.Illegible octets path) ∧
      ∀ fault, ¬ grammar.Garbled octets fault := by
  constructor
  · rintro ⟨frame, accepted⟩
    refine ⟨fun fault misshapen => ?_, fun path illegible => ?_, fun fault garbled => ?_⟩
    · cases accepted.symm.trans (decides.misshapen misshapen)
    · obtain ⟨fault, _, refused⟩ := decides.illegible illegible
      cases accepted.symm.trans refused
    · cases accepted.symm.trans (decides.garbled garbled)
  · rintro ⟨sound, legible, whole⟩
    rcases decides.covers octets with
      ⟨frame, spelled⟩ | ⟨fault, misshapen⟩ | ⟨path, illegible⟩ | ⟨fault, garbled⟩
    · exact ⟨frame, decides.spelled spelled⟩
    · exact absurd misshapen (sound fault)
    · exact absurd illegible (legible path)
    · exact absurd garbled (whole fault)

/-- A reader gives one answer, so that what it makes of each class tells the classes apart. -/
theorem classifies : grammar.Classifies read where
  accepts _ _ := ⟨decides.holds_of_eq, decides.spelled⟩
  misshapen _ _ := ⟨decides.holds_of_eq, decides.misshapen⟩
  illegible octets := by
    constructor
    · rintro ⟨fault, refused⟩
      exact decides.holds_of_eq refused
    · rintro ⟨path, illegible⟩
      obtain ⟨fault, _, refused⟩ := decides.illegible illegible
      exact ⟨_, refused⟩
  index octets path illegible := by
    obtain ⟨fault, noText, refused⟩ := decides.illegible illegible
    obtain ⟨words, wording⟩ := message_badPath fault
    exact ⟨_, words, fault.index, refused, Utf8.longestText_of_decode noText, wording⟩
  garbled _ _ := ⟨decides.holds_of_eq, decides.garbled⟩
  otherwise := decides.otherwise

end Grammar.Decides

end RemoteAgent
