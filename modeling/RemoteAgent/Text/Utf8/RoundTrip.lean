import RemoteAgent.Text.Utf8

/-!
# Reading UTF-8 undoes writing it

`pieces_encode` says that written text is cut into exactly its characters, `decode_encode`
that strict reading gives the text back, and `decode_eq_ok_iff` that strict reading
accepts nothing but written text.
-/

namespace RemoteAgent.Utf8

/-! ## One written character -/

theorem scan_one {code : Nat} (small : code < 0x80) (rest : Bytes) :
    scan (UInt8.ofNat code) rest = (.char (Char.ofNat code), rest) := by
  have value : (UInt8.ofNat code).toNat = code := by simp [UInt8.toNat_ofNat']; omega
  simp [scan, value, small]

theorem scan_two {code : Nat} (low : 0x80 ≤ code) (high : code < 0x800) (rest : Bytes) :
    scan (UInt8.ofNat (code / 64 % 0x20 + 0xc0)) (UInt8.ofNat (code % 0x40 + 0x80) :: rest) =
      (.char (Char.ofNat code), rest) := by
  have first : (UInt8.ofNat (code / 64 % 0x20 + 0xc0)).toNat = code / 64 + 0xc0 := by
    simp [UInt8.toNat_ofNat']; omega
  have second : (UInt8.ofNat (code % 0x40 + 0x80)).toNat = code % 0x40 + 0x80 := by
    simp [UInt8.toNat_ofNat']; omega
  have notOne : ¬ (code / 64 + 0xc0 < 0x80) := by omega
  have isTwo : 0xC2 ≤ code / 64 + 0xc0 ∧ code / 64 + 0xc0 ≤ 0xDF := by omega
  have isTail : 0x80 ≤ code % 0x40 + 0x80 ∧ code % 0x40 + 0x80 ≤ 0xBF := by omega
  have sum : (code / 64 + 0xc0) % 0x20 * 0x40 + (code % 0x40 + 0x80) % 0x40 = code := by omega
  simp only [scan, Utf8.isTail, tailBits, first, second, notOne, isTwo, isTail, sum, if_true,
    if_false, decide_true, Bool.and_self]

theorem scan_three {code : Nat} (low : 0x800 ≤ code) (high : code < 0x10000)
    (noSurrogate : code < 0xD800 ∨ 0xDFFF < code) (rest : Bytes) :
    scan (UInt8.ofNat (code / 4096 % 0x10 + 0xe0))
        (UInt8.ofNat (code / 64 % 0x40 + 0x80) :: UInt8.ofNat (code % 0x40 + 0x80) :: rest) =
      (.char (Char.ofNat code), rest) := by
  have first : (UInt8.ofNat (code / 4096 % 0x10 + 0xe0)).toNat = code / 4096 + 0xe0 := by
    simp [UInt8.toNat_ofNat']; omega
  have second : (UInt8.ofNat (code / 64 % 0x40 + 0x80)).toNat = code / 64 % 0x40 + 0x80 := by
    simp [UInt8.toNat_ofNat']; omega
  have third : (UInt8.ofNat (code % 0x40 + 0x80)).toNat = code % 0x40 + 0x80 := by
    simp [UInt8.toNat_ofNat']; omega
  have notOne : ¬ (code / 4096 + 0xe0 < 0x80) := by omega
  have notTwo : ¬ (code / 4096 + 0xe0 ≤ 0xDF) := by omega
  have isThree : 0xE0 ≤ code / 4096 + 0xe0 ∧ code / 4096 + 0xe0 ≤ 0xEF := by omega
  have isSecond : isSecondOfThree (UInt8.ofNat (code / 4096 % 0x10 + 0xe0))
      (UInt8.ofNat (code / 64 % 0x40 + 0x80)) = true := by
    simp only [isSecondOfThree, first, second, Bool.and_eq_true, decide_eq_true_eq]
    split <;> split <;> omega
  have isTail : 0x80 ≤ code % 0x40 + 0x80 ∧ code % 0x40 + 0x80 ≤ 0xBF := by omega
  have sum : ((code / 4096 + 0xe0) % 0x10 * 0x40 + (code / 64 % 0x40 + 0x80) % 0x40) * 0x40 +
      (code % 0x40 + 0x80) % 0x40 = code := by omega
  simp only [scan, isSecond, Utf8.isTail, tailBits, first, second, third, notOne, notTwo, isThree,
    isTail, sum, if_true, if_false, decide_true, decide_false, Bool.and_self, Bool.and_false,
    Bool.false_eq_true]

theorem scan_four {code : Nat} (low : 0x10000 ≤ code) (high : code < 0x110000) (rest : Bytes) :
    scan (UInt8.ofNat (code / 262144 % 0x08 + 0xf0))
        (UInt8.ofNat (code / 4096 % 0x40 + 0x80) :: UInt8.ofNat (code / 64 % 0x40 + 0x80) ::
          UInt8.ofNat (code % 0x40 + 0x80) :: rest) =
      (.char (Char.ofNat code), rest) := by
  have first : (UInt8.ofNat (code / 262144 % 0x08 + 0xf0)).toNat = code / 262144 + 0xf0 := by
    simp [UInt8.toNat_ofNat']; omega
  have second : (UInt8.ofNat (code / 4096 % 0x40 + 0x80)).toNat = code / 4096 % 0x40 + 0x80 := by
    simp [UInt8.toNat_ofNat']; omega
  have third : (UInt8.ofNat (code / 64 % 0x40 + 0x80)).toNat = code / 64 % 0x40 + 0x80 := by
    simp [UInt8.toNat_ofNat']; omega
  have fourth : (UInt8.ofNat (code % 0x40 + 0x80)).toNat = code % 0x40 + 0x80 := by
    simp [UInt8.toNat_ofNat']; omega
  have notOne : ¬ (code / 262144 + 0xf0 < 0x80) := by omega
  have notTwo : ¬ (code / 262144 + 0xf0 ≤ 0xDF) := by omega
  have notThree : ¬ (code / 262144 + 0xf0 ≤ 0xEF) := by omega
  have isFour : 0xF0 ≤ code / 262144 + 0xf0 ∧ code / 262144 + 0xf0 ≤ 0xF4 := by omega
  have isSecond : isSecondOfFour (UInt8.ofNat (code / 262144 % 0x08 + 0xf0))
      (UInt8.ofNat (code / 4096 % 0x40 + 0x80)) = true := by
    simp only [isSecondOfFour, first, second, Bool.and_eq_true, decide_eq_true_eq]
    split <;> split <;> omega
  have isThird : 0x80 ≤ code / 64 % 0x40 + 0x80 ∧ code / 64 % 0x40 + 0x80 ≤ 0xBF := by omega
  have isTail : 0x80 ≤ code % 0x40 + 0x80 ∧ code % 0x40 + 0x80 ≤ 0xBF := by omega
  have sum : (((code / 262144 + 0xf0) % 0x08 * 0x40 + (code / 4096 % 0x40 + 0x80) % 0x40) * 0x40 +
      (code / 64 % 0x40 + 0x80) % 0x40) * 0x40 + (code % 0x40 + 0x80) % 0x40 = code := by omega
  simp only [scan, isSecond, Utf8.isTail, tailBits, first, second, third, fourth, notOne, notTwo,
    notThree, isFour, isThird, isTail, sum, if_true, if_false, decide_true, decide_false,
    Bool.and_self, Bool.and_false, Bool.false_eq_true]

/-- No character has a code between the surrogates' bounds or above the last one. -/
theorem code_valid (c : Char) :
    c.toNat < 0xD800 ∨ (0xDFFF < c.toNat ∧ c.toNat < 0x110000) := c.valid

/-- The octets of one character are one piece, whatever follows them. -/
theorem pieces_encodeChar_append (c : Char) (rest : Bytes) :
    pieces (String.utf8EncodeChar c ++ rest) = .char c :: pieces rest := by
  have valid := code_valid c
  have same : Char.ofNat c.toNat = c := Char.ofNat_toNat c
  have code : c.val.toNat = c.toNat := rfl
  simp only [String.utf8EncodeChar, code]
  split
  · rw [List.singleton_append, pieces_cons, scan_one (by omega), same]
  · split
    · rw [List.cons_append, List.singleton_append, pieces_cons, scan_two (by omega) (by omega),
        same]
    · split
      · rw [List.cons_append, List.cons_append, List.singleton_append, pieces_cons,
          scan_three (by omega) (by omega) (by omega), same]
      · rw [List.cons_append, List.cons_append, List.cons_append, List.singleton_append,
          pieces_cons, scan_four (by omega) (by omega), same]

/-- Characters that are written one after the other are read one after the other. -/
theorem pieces_flatMap_encodeChar (chars : List Char) :
    pieces (chars.flatMap String.utf8EncodeChar) = chars.map .char := by
  induction chars with
  | nil => simp
  | cons c chars inductionHypothesis =>
    rw [List.flatMap_cons, pieces_encodeChar_append, inductionHypothesis, List.map_cons]

/-- Written text is cut into its characters. -/
theorem pieces_encode (text : String) : pieces (encode text) = text.toList.map .char :=
  pieces_flatMap_encodeChar text.toList

/-- Pieces that are all characters are collected. -/
theorem collect_map_char (index : Nat) (read chars : List Char) :
    collect index read (chars.map .char) = .ok (read.reverse ++ chars) := by
  induction chars generalizing index read with
  | nil => simp [collect]
  | cons c chars inductionHypothesis => simp [collect, inductionHypothesis]

/-- Strict reading gives written text back. -/
theorem decode_encode (text : String) : decode (encode text) = .ok text := by
  simp [decode, pieces_encode, collect_map_char]

/-- Lenient reading gives written text back. -/
theorem decodeLossy_encode (text : String) : decodeLossy (encode text) = text := by
  have shown : Piece.shown ∘ Piece.char = id := rfl
  simp [decodeLossy, pieces_encode, List.map_map, shown]

/-- Different texts have different octets. -/
theorem encode_injective {first second : String} (same : encode first = encode second) :
    first = second := by
  rw [← decodeLossy_encode first, same, decodeLossy_encode]

/-! ## Every character that is read was written -/

theorem octet_ofNat (octet : UInt8) {value : Nat} (same : octet.toNat = value) :
    UInt8.ofNat value = octet := by
  rw [← same]; exact UInt8.ofNat_toNat

theorem toNat_ofNat_of_valid {code : Nat}
    (valid : code < 0xD800 ∨ (0xDFFF < code ∧ code < 0x110000)) : (Char.ofNat code).toNat = code := by
  have isValid : code.isValidChar := valid
  rw [Char.ofNat, dif_pos isValid]
  rfl

section Lengths

variable {first second third fourth : UInt8}

theorem isTail_iff {octet : UInt8} :
    Utf8.isTail octet = true ↔ 0x80 ≤ octet.toNat ∧ octet.toNat ≤ 0xBF := by
  simp [Utf8.isTail]

/-- Writing the character that one octet stands for gives the octet back. -/
theorem encodeChar_of_one (small : first.toNat < 0x80) :
    String.utf8EncodeChar (Char.ofNat first.toNat) = [first] := by
  have code : (Char.ofNat first.toNat).val.toNat = first.toNat := toNat_ofNat_of_valid (by omega)
  rw [String.utf8EncodeChar, code]
  simp only [show first.toNat ≤ 0x7f by omega, if_true, UInt8.ofNat_toNat]

/-- Writing the character that two octets stand for gives them back. -/
theorem encodeChar_of_two (isTwo : 0xC2 ≤ first.toNat ∧ first.toNat ≤ 0xDF)
    (isTail : Utf8.isTail second = true) :
    String.utf8EncodeChar (Char.ofNat (first.toNat % 0x20 * 0x40 + tailBits second)) =
      [first, second] := by
  rw [isTail_iff] at isTail
  have code : (Char.ofNat (first.toNat % 0x20 * 0x40 + tailBits second)).val.toNat =
      first.toNat % 0x20 * 0x40 + second.toNat % 0x40 :=
    toNat_ofNat_of_valid (by simp only [tailBits]; omega)
  rw [String.utf8EncodeChar, code, if_neg (by omega), if_pos (by omega),
    octet_ofNat first (by omega), octet_ofNat second (by omega)]

/-- Writing the character that three octets stand for gives them back: with such a second one it cannot
be written shorter, and is no surrogate. -/
theorem encodeChar_of_three (isThree : 0xE0 ≤ first.toNat ∧ first.toNat ≤ 0xEF)
    (isSecond : isSecondOfThree first second = true) (isTail : Utf8.isTail third = true) :
    String.utf8EncodeChar (Char.ofNat
        ((first.toNat % 0x10 * 0x40 + tailBits second) * 0x40 + tailBits third)) =
      [first, second, third] := by
  rw [isTail_iff] at isTail
  have bounds : 0x80 ≤ second.toNat ∧ second.toNat ≤ 0xBF ∧
      (first.toNat = 0xE0 → 0xA0 ≤ second.toNat) ∧
      (first.toNat = 0xED → second.toNat ≤ 0x9F) := by
    simp only [isSecondOfThree, Bool.and_eq_true, decide_eq_true_eq] at isSecond
    split at isSecond <;> split at isSecond <;> omega
  have code : (Char.ofNat
      ((first.toNat % 0x10 * 0x40 + tailBits second) * 0x40 + tailBits third)).val.toNat =
      (first.toNat % 0x10 * 0x40 + second.toNat % 0x40) * 0x40 + third.toNat % 0x40 :=
    toNat_ofNat_of_valid (by simp only [tailBits]; omega)
  rw [String.utf8EncodeChar, code, if_neg (by omega), if_neg (by omega), if_pos (by omega),
    octet_ofNat first (by omega), octet_ofNat second (by omega), octet_ofNat third (by omega)]

/-- Writing the character that four octets stand for gives them back: with such a second one it cannot
be written shorter, and there is one. -/
theorem encodeChar_of_four (isFour : 0xF0 ≤ first.toNat ∧ first.toNat ≤ 0xF4)
    (isSecond : isSecondOfFour first second = true) (isThird : Utf8.isTail third = true)
    (isTail : Utf8.isTail fourth = true) :
    String.utf8EncodeChar (Char.ofNat (((first.toNat % 0x08 * 0x40 + tailBits second) * 0x40 +
        tailBits third) * 0x40 + tailBits fourth)) = [first, second, third, fourth] := by
  rw [isTail_iff] at isThird isTail
  have bounds : 0x80 ≤ second.toNat ∧ second.toNat ≤ 0xBF ∧
      (first.toNat = 0xF0 → 0x90 ≤ second.toNat) ∧
      (first.toNat = 0xF4 → second.toNat ≤ 0x8F) := by
    simp only [isSecondOfFour, Bool.and_eq_true, decide_eq_true_eq] at isSecond
    split at isSecond <;> split at isSecond <;> omega
  have code : (Char.ofNat (((first.toNat % 0x08 * 0x40 + tailBits second) * 0x40 +
      tailBits third) * 0x40 + tailBits fourth)).val.toNat =
      ((first.toNat % 0x08 * 0x40 + second.toNat % 0x40) * 0x40 + third.toNat % 0x40) * 0x40 +
        fourth.toNat % 0x40 :=
    toNat_ofNat_of_valid (by simp only [tailBits]; omega)
  rw [String.utf8EncodeChar, code, if_neg (by omega), if_neg (by omega), if_neg (by omega),
    octet_ofNat first (by omega), octet_ofNat second (by omega), octet_ofNat third (by omega),
    octet_ofNat fourth (by omega)]

end Lengths

/-- A piece that is a character consists of the octets of that character. -/
theorem eq_encodeChar_of_scan {first : UInt8} {rest after : Bytes} {c : Char}
    (found : scan first rest = (.char c, after)) :
    first :: rest = String.utf8EncodeChar c ++ after := by
  unfold scan at found
  simp only [Bool.and_eq_true, decide_eq_true_eq] at found
  repeat' split at found
  -- A branch for each length is left: the others find no character.
  all_goals cases found
  · next small => rw [encodeChar_of_one small, List.singleton_append]
  · next isTwo _ second isTail =>
    rw [encodeChar_of_two isTwo isTail]
    rfl
  · next isThree _ second isSecond _ third isTail =>
    rw [encodeChar_of_three isThree isSecond isTail]
    rfl
  · next isFour _ second isSecond _ third isThird _ fourth isTail =>
    rw [encodeChar_of_four isFour isSecond isThird isTail]
    rfl

/-- Pieces that are all characters come from the octets of these characters. -/
theorem eq_flatMap_of_pieces {bytes : Bytes} {chars : List Char}
    (found : pieces bytes = chars.map .char) : bytes = chars.flatMap String.utf8EncodeChar := by
  induction chars generalizing bytes with
  | nil =>
    cases bytes with
    | nil => rfl
    | cons first rest => simp [pieces_cons] at found
  | cons c chars inductionHypothesis =>
    cases bytes with
    | nil => simp at found
    | cons first rest =>
      rw [pieces_cons, List.map_cons, List.cons.injEq] at found
      have one : scan first rest = (.char c, (scan first rest).2) := Prod.ext found.1 rfl
      rw [eq_encodeChar_of_scan one, inductionHypothesis found.2, List.flatMap_cons]

/-- Only pieces that are all characters are collected. -/
theorem eq_map_char_of_collect {index : Nat} {read chars : List Char} {found : List Piece}
    (collected : collect index read found = .ok chars) :
    ∃ later, chars = read.reverse ++ later ∧ found = later.map .char := by
  induction found generalizing index read with
  | nil =>
    refine ⟨[], ?_, rfl⟩
    simpa [collect, eq_comm] using collected
  | cons piece found inductionHypothesis =>
    cases piece with
    | char c =>
      obtain ⟨later, whole, rest⟩ := inductionHypothesis collected
      exact ⟨c :: later, by simpa using whole, by simp [rest]⟩
    | broken width => simp [collect] at collected
    | cut width => simp [collect] at collected

/-- Strict reading accepts exactly what writing produces. -/
theorem decode_eq_ok_iff {bytes : Bytes} {text : String} :
    decode bytes = .ok text ↔ bytes = encode text := by
  constructor
  · intro read
    unfold decode at read
    split at read
    · next chars collected =>
      obtain ⟨later, whole, found⟩ := eq_map_char_of_collect collected
      obtain rfl : chars = later := by simpa using whole
      obtain rfl : String.ofList chars = text := by simpa using read
      rw [eq_flatMap_of_pieces found, encode]
      simp
    · simp at read
  · rintro rfl
    exact decode_encode text

end RemoteAgent.Utf8
