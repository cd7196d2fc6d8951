import RemoteAgent.Bytes

/-!
# UTF-8

Text travels as UTF-8. Octets are cut into pieces: each piece is one character, or a
maximal run of octets that begins no character, or a character that the end of the
octets cuts off. Strict reading stops at the first piece that is no character and says
where; lenient reading puts U+FFFD for each of them.

`pieces_cons` says that the pieces of octets are the first one and the pieces of what
follows it.
-/

namespace RemoteAgent.Utf8

/-- The octets of a text. -/
def encode (text : String) : Bytes := text.toList.flatMap String.utf8EncodeChar

/-- What a group of octets stands for. -/
inductive Piece where
  /-- One well-formed character. -/
  | char (c : Char)
  /-- Octets that begin no character, as many as could still have begun one. -/
  | broken (width : Nat)
  /-- The beginning of a character that the end of the octets cuts off. -/
  | cut (width : Nat)
  deriving DecidableEq, Repr

/-- How many octets a piece takes. -/
def Piece.width : Piece → Nat
  | .char c => c.utf8Size
  | .broken width => width
  | .cut width => width

/-- Octets `0x80` to `0xBF` continue a character. -/
def isTail (octet : UInt8) : Bool := 0x80 ≤ octet.toNat && octet.toNat ≤ 0xBF

/-- Which second octets a three-octet character admits: after `0xE0` none that could be
written shorter, after `0xED` no surrogate. -/
def isSecondOfThree (first second : UInt8) : Bool :=
  (if first.toNat = 0xE0 then 0xA0 else 0x80) ≤ second.toNat &&
    second.toNat ≤ (if first.toNat = 0xED then 0x9F else 0xBF)

/-- Which second octets a four-octet character admits: after `0xF0` none that could be
written shorter, after `0xF4` nothing above U+10FFFF. -/
def isSecondOfFour (first second : UInt8) : Bool :=
  (if first.toNat = 0xF0 then 0x90 else 0x80) ≤ second.toNat &&
    second.toNat ≤ (if first.toNat = 0xF4 then 0x8F else 0xBF)

/-- The low six bits of a continuation octet. -/
def tailBits (octet : UInt8) : Nat := octet.toNat % 0x40

/-- The first piece of `first :: rest`, and the octets after it. -/
def scan (first : UInt8) (rest : Bytes) : Piece × Bytes :=
  if first.toNat < 0x80 then (.char (Char.ofNat first.toNat), rest)
  else if 0xC2 ≤ first.toNat && first.toNat ≤ 0xDF then
    match rest with
    | [] => (.cut 1, [])
    | second :: rest₂ =>
      if isTail second then
        (.char (Char.ofNat (first.toNat % 0x20 * 0x40 + tailBits second)), rest₂)
      else (.broken 1, rest)
  else if 0xE0 ≤ first.toNat && first.toNat ≤ 0xEF then
    match rest with
    | [] => (.cut 1, [])
    | second :: rest₂ =>
      if isSecondOfThree first second then
        match rest₂ with
        | [] => (.cut 2, [])
        | third :: rest₃ =>
          if isTail third then
            (.char (Char.ofNat
              ((first.toNat % 0x10 * 0x40 + tailBits second) * 0x40 + tailBits third)), rest₃)
          else (.broken 2, rest₂)
      else (.broken 1, rest)
  else if 0xF0 ≤ first.toNat && first.toNat ≤ 0xF4 then
    match rest with
    | [] => (.cut 1, [])
    | second :: rest₂ =>
      if isSecondOfFour first second then
        match rest₂ with
        | [] => (.cut 2, [])
        | third :: rest₃ =>
          if isTail third then
            match rest₃ with
            | [] => (.cut 3, [])
            | fourth :: rest₄ =>
              if isTail fourth then
                (.char (Char.ofNat
                  (((first.toNat % 0x08 * 0x40 + tailBits second) * 0x40 + tailBits third) * 0x40
                    + tailBits fourth)), rest₄)
              else (.broken 3, rest₃)
          else (.broken 2, rest₂)
      else (.broken 1, rest)
  else (.broken 1, rest)

theorem length_scan_le (first : UInt8) (rest : Bytes) :
    (scan first rest).2.length ≤ rest.length := by
  unfold scan
  repeat' split
  all_goals simp
  all_goals omega

/-- The pieces of octets, behind those already found in reverse order. -/
def piecesAfter (found : List Piece) : Bytes → List Piece
  | [] => found.reverse
  | first :: rest => piecesAfter ((scan first rest).1 :: found) (scan first rest).2
termination_by bytes => bytes.length
decreasing_by
  have bound := length_scan_le first rest
  simp only [List.length_cons]
  omega

/-- The octets cut into pieces, in order. -/
def pieces (bytes : Bytes) : List Piece := piecesAfter [] bytes

/-- Why octets are no text. -/
inductive Fault where
  /-- At `index` stand `width` octets that begin no character. -/
  | invalid (width index : Nat)
  /-- The octets end inside the character that begins at `index`. -/
  | incomplete (index : Nat)
  deriving DecidableEq, Repr

/-- The wording of a fault. -/
def Fault.message : Fault → String
  | .invalid width index =>
    "invalid utf-8 sequence of " ++ toString width ++ " bytes from index " ++ toString index
  | .incomplete index => "incomplete utf-8 byte sequence from index " ++ toString index

/-- The characters of pieces that begin at `index`, behind those already read in reverse
order, unless a piece is no character. -/
def collect (index : Nat) (read : List Char) : List Piece → Except Fault (List Char)
  | [] => .ok read.reverse
  | .char c :: rest => collect (index + c.utf8Size) (c :: read) rest
  | .broken width :: _ => .error (.invalid width index)
  | .cut _ :: _ => .error (.incomplete index)

/-- Strict reading: the text of well-formed octets, or where they stop being well-formed. -/
def decode (bytes : Bytes) : Except Fault String :=
  match collect 0 [] (pieces bytes) with
  | .ok chars => .ok (String.ofList chars)
  | .error fault => .error fault

/-- The character that lenient reading puts for a piece. -/
def Piece.shown : Piece → Char
  | .char c => c
  | .broken _ => Char.ofNat 0xFFFD
  | .cut _ => Char.ofNat 0xFFFD

/-- Lenient reading: every piece that is no character becomes U+FFFD. -/
def decodeLossy (bytes : Bytes) : String := String.ofList ((pieces bytes).map Piece.shown)

/-! ## Reading is the inverse of writing -/

theorem piecesAfter_eq (found : List Piece) (bytes : Bytes) :
    piecesAfter found bytes = found.reverse ++ pieces bytes := by
  induction hn : bytes.length using Nat.strongRecOn generalizing found bytes with
  | ind n inductionHypothesis =>
    cases bytes with
    | nil => simp [pieces, piecesAfter]
    | cons first rest =>
      have shorter : (scan first rest).2.length < n := by
        have bound := length_scan_le first rest
        simp only [List.length_cons] at hn
        omega
      rw [pieces, piecesAfter, piecesAfter,
        inductionHypothesis _ shorter ((scan first rest).1 :: found) _ rfl,
        inductionHypothesis _ shorter [(scan first rest).1] _ rfl]
      simp

@[simp] theorem pieces_nil : pieces [] = [] := by simp [pieces, piecesAfter]

theorem pieces_cons (first : UInt8) (rest : Bytes) :
    pieces (first :: rest) = (scan first rest).1 :: pieces (scan first rest).2 := by
  rw [pieces, piecesAfter, piecesAfter_eq]
  simp

end RemoteAgent.Utf8
