import RemoteAgent.Text.Utf8.RoundTrip

/-!
# Where octets stop being text

Strict reading refuses octets exactly when they are the writing of no text, and the index in the
fault is the length of the longest front of them that is the writing of one
(`longestText_of_decode`). Pieces carry the argument: a front that is text is a run of characters
among the pieces, so that it ends before the first piece that is no character.
-/

namespace RemoteAgent.Utf8

/-- Octets are the writing of a text. -/
def IsText (octets : Bytes) : Prop := ∃ text, octets = encode text

/-- The front of this length is the writing of a text, and no longer one is. -/
structure LongestText (octets : Bytes) (length : Nat) : Prop where
  within : length ≤ octets.length
  isText : IsText (octets.take length)
  longest : ∀ other ≤ octets.length, IsText (octets.take other) → other ≤ length

/-- Where the octets stop being text, as a fault has it. -/
def Fault.index : Fault → Nat
  | .invalid _ index => index
  | .incomplete index => index

/-- The wording of a fault ends with its index. -/
theorem Fault.message_index (fault : Fault) :
    ∃ words, fault.message = words ++ " from index " ++ toString fault.index := by
  cases fault with
  | invalid width index =>
    have words : " bytes from index " = " bytes" ++ " from index " := by decide
    have regroup : ∀ front width bytes middle : String,
        front ++ width ++ (bytes ++ middle) = front ++ width ++ bytes ++ middle := by
      intro front width bytes middle
      simp only [String.append_assoc]
    refine ⟨"invalid utf-8 sequence of " ++ toString width ++ " bytes", ?_⟩
    refine congrArg (· ++ toString index) ?_
    exact (congrArg ("invalid utf-8 sequence of " ++ toString width ++ ·) words).trans
      (regroup _ _ _ _)
  | incomplete index =>
    have words : "incomplete utf-8 byte sequence from index " =
        "incomplete utf-8 byte sequence" ++ " from index " := by decide
    exact ⟨"incomplete utf-8 byte sequence", congrArg (· ++ toString index) words⟩

/-- Strict reading accepts exactly the octets of texts. -/
theorem isText_iff {octets : Bytes} : IsText octets ↔ ∃ text, decode octets = .ok text := by
  simp only [IsText, decode_eq_ok_iff]

/-- Octets that are no text are refused. -/
theorem decode_of_not_isText {octets : Bytes} (noText : ¬ IsText octets) :
    ∃ fault, decode octets = .error fault := by
  cases read : decode octets with
  | ok text => exact absurd (isText_iff.mpr ⟨text, read⟩) noText
  | error fault => exact ⟨fault, rfl⟩

/-! ## Characters in front -/

theorem pieces_flatMap_append (chars : List Char) (rest : Bytes) :
    pieces (chars.flatMap String.utf8EncodeChar ++ rest) = chars.map .char ++ pieces rest := by
  induction chars with
  | nil => rfl
  | cons c chars inductionHypothesis =>
    rw [List.flatMap_cons, List.append_assoc, pieces_encodeChar_append, inductionHypothesis,
      List.map_cons, List.cons_append]

/-- Characters in front of other pieces come from the octets of these characters. -/
theorem append_of_pieces {bytes : Bytes} {chars : List Char} {later : List Piece}
    (found : pieces bytes = chars.map .char ++ later) :
    ∃ rest, bytes = chars.flatMap String.utf8EncodeChar ++ rest := by
  induction chars generalizing bytes with
  | nil => exact ⟨bytes, rfl⟩
  | cons c chars inductionHypothesis =>
    cases bytes with
    | nil => simp at found
    | cons first rest =>
      rw [pieces_cons, List.map_cons, List.cons_append, List.cons.injEq] at found
      have one : scan first rest = (.char c, (scan first rest).2) := Prod.ext found.1 rfl
      obtain ⟨behind, same⟩ := inductionHypothesis found.2
      refine ⟨behind, ?_⟩
      rw [eq_encodeChar_of_scan one, same, List.flatMap_cons, List.append_assoc]

/-- What stops strict reading is the first piece that is no character, and the index in the fault
counts the octets of the characters in front of it. -/
theorem index_of_collect {index : Nat} {read : List Char} {found : List Piece} {fault : Fault}
    (collected : collect index read found = .error fault) :
    ∃ (chars : List Char) (piece : Piece) (later : List Piece),
      found = chars.map .char ++ piece :: later ∧ (∀ c, piece ≠ .char c) ∧
        fault.index = index + (chars.flatMap String.utf8EncodeChar).length := by
  induction found generalizing index read with
  | nil => cases collected
  | cons piece found inductionHypothesis =>
    cases piece with
    | char c =>
      obtain ⟨chars, piece, later, rfl, noChar, counted⟩ := inductionHypothesis collected
      refine ⟨c :: chars, piece, later, rfl, noChar, ?_⟩
      rw [counted, List.flatMap_cons, List.length_append, String.length_utf8EncodeChar]
      omega
    | broken width =>
      cases collected
      exact ⟨[], .broken width, found, rfl, by simp, rfl⟩
    | cut width =>
      cases collected
      exact ⟨[], .cut width, found, rfl, by simp, rfl⟩

/-- Characters that lead some pieces come before any piece that is none. -/
theorem prefix_of_map_char {chars others : List Char} {piece : Piece}
    {later rest : List Piece} (noChar : ∀ c, piece ≠ .char c)
    (same : chars.map .char ++ piece :: later = others.map .char ++ rest) : others <+: chars := by
  induction others generalizing chars with
  | nil => exact List.nil_prefix
  | cons other others inductionHypothesis =>
    cases chars with
    | nil =>
      rw [List.map_cons, List.map_nil, List.nil_append, List.cons_append, List.cons.injEq] at same
      exact absurd same.1 (noChar other)
    | cons c chars =>
      simp only [List.map_cons, List.cons_append, List.cons.injEq, Piece.char.injEq] at same
      obtain ⟨rfl, same⟩ := same
      exact (List.prefix_cons_inj _).mpr (inductionHypothesis same)

/-- The index in a fault is the length of the longest front that is text. -/
theorem longestText_of_decode {octets : Bytes} {fault : Fault}
    (refused : decode octets = .error fault) : LongestText octets fault.index := by
  unfold decode at refused
  split at refused
  · cases refused
  · next fault collected =>
    cases refused
    obtain ⟨chars, piece, later, found, noChar, counted⟩ := index_of_collect collected
    obtain ⟨rest, whole⟩ := append_of_pieces found
    rw [Nat.zero_add] at counted
    refine ⟨?_, ?_, ?_⟩
    · rw [counted, whole, List.length_append]
      exact Nat.le_add_right _ _
    · refine ⟨String.ofList chars, ?_⟩
      rw [counted, whole, List.take_left, encode, String.toList_ofList]
    · rintro other within ⟨text, front⟩
      have split : octets = encode text ++ octets.drop other := by
        rw [← front, List.take_append_drop]
      have pieced : pieces octets = text.toList.map .char ++ pieces (octets.drop other) := by
        rw [← pieces_flatMap_append, ← encode, ← split]
      have leads := prefix_of_map_char noChar (found.symm.trans pieced)
      obtain ⟨more, rfl⟩ := leads
      have length : other = (encode text).length := by
        rw [← front, List.length_take_of_le within]
      rw [counted, length, List.flatMap_append, List.length_append, encode]
      exact Nat.le_add_right _ _

end RemoteAgent.Utf8
