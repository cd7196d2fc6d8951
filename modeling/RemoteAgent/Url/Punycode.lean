/-!
# Punycode

A label of a name beyond ASCII is written in ASCII by its Punycode: first the ASCII characters,
then for every other character, in ascending order, a number in digits of base 36 that tells
both the character and its position.
-/

namespace RemoteAgent.Url.Punycode

/-- The value of a digit. -/
def digit? (c : Char) : Option Nat :=
  if 'a' ≤ c && c ≤ 'z' then some (c.toNat - 'a'.toNat)
  else if '0' ≤ c && c ≤ '9' then some (c.toNat - '0'.toNat + 26)
  else none

/-- From which value on a digit at a position has another one behind it. -/
def threshold (position bias : Nat) : Nat :=
  if position ≤ bias then 1 else if bias + 26 ≤ position then 26 else position - bias

/-- Numbers have to fit 32 bits. -/
def limit : Nat := 0x100000000

/-- The number at the front of digits, added to `sum`, and the digits behind it. The position
grows by the base with every digit, and so does the weight by what the threshold leaves. -/
def number? (bias : Nat) : (position weight sum : Nat) → List Char → Option (Nat × List Char)
  | _, _, _, [] => none
  | position, weight, sum, c :: rest =>
    match digit? c with
    | none => none
    | some digit =>
      let reached := sum + digit * weight
      let least := threshold position bias
      if limit ≤ reached then none
      else if digit < least then some (reached, rest)
      else if limit ≤ weight * (36 - least) then none
      else number? bias (position + 36) (weight * (36 - least)) reached rest

theorem length_number?_lt {bias position weight sum value : Nat} {chars rest : List Char}
    (found : number? bias position weight sum chars = some (value, rest)) :
    rest.length < chars.length := by
  induction chars generalizing position weight sum with
  | nil => simp [number?] at found
  | cons c chars inductionHypothesis =>
    unfold number? at found
    split at found
    · cases found
    · dsimp only at found
      split at found
      · cases found
      · split at found
        · obtain ⟨_, rfl⟩ : _ ∧ chars = rest := by simpa using found
          simp
        · split at found
          · cases found
          · have bound := inductionHypothesis found
            simp only [List.length_cons]
            omega

/-- Divides by 35 until at most 455 is left, and counts 36 for every time. -/
def reduce (delta counted : Nat) : Nat × Nat :=
  if 455 < delta then reduce (delta / 35) (counted + 36) else (delta, counted)
termination_by delta
decreasing_by exact Nat.div_lt_self (by omega) (by omega)

/-- The bias after a number, by which the next one is expected to be as long. -/
def adapt (delta count : Nat) (isFirst : Bool) : Nat :=
  let damped := if isFirst then delta / 700 else delta / 2
  let reduced := reduce (damped + damped / count) 0
  reduced.2 + 36 * reduced.1 / (reduced.1 + 38)

/-- Inserts the characters that digits tell into `label`. The state of the reading is the last
code, the bias and the position of the last character. -/
def insertAll (label : List Char) (code bias position : Nat) (chars : List Char) :
    Option (List Char) :=
  match chars with
  | [] => some label
  | c :: later =>
    match found : number? bias 36 1 position (c :: later) with
    | none => none
    | some (reached, rest) =>
      let count := label.length + 1
      let next := code + reached / count
      let place := reached % count
      if next.isValidChar then
        insertAll (label.take place ++ Char.ofNat next :: label.drop place) next
          (adapt (reached - position) count (position == 0)) (place + 1) rest
      else none
termination_by chars.length
decreasing_by
  have shorter := length_number?_lt found
  simpa using shorter

/-- The characters before the last hyphen, and those behind it. -/
def splitLastHyphen (chars : List Char) : List Char × List Char :=
  if chars.contains '-' then
    let behind := (chars.reverse.takeWhile (· != '-')).reverse
    (chars.take (chars.length - behind.length - 1), behind)
  else ([], chars)

/-- The label that Punycode stands for. -/
def decode? (chars : List Char) : Option (List Char) :=
  let parts := splitLastHyphen chars
  if chars.head? = some '-' && parts.1.isEmpty then insertAll [] 128 72 0 chars
  else insertAll parts.1 128 72 0 parts.2

end RemoteAgent.Url.Punycode
