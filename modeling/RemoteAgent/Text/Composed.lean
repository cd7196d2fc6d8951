import RemoteAgent.Text.Composed.Order
import RemoteAgent.Text.Composed.Pairs

/-!
# Composed texts

The same letter can be written as one character or as a letter with marks. A text is composed
if it is what comes of taking it apart, putting its marks in order and joining again what can
be joined: then no other way of writing it is shorter or in a better order.
-/

namespace RemoteAgent.Text.Composed

/-- A code point taken apart, in at most so many steps. -/
def takeApart : (steps : Nat) → (code : Nat) → List Nat
  | 0, code => [code]
  | steps + 1, code =>
    match split? code with
    | some (first, second) => takeApart steps first ++ [second]
    | none => [code]

/-- Three steps take every character apart. -/
def maximalSteps : Nat := 3

/-- A text in its parts and in order. -/
def decompose (codes : List Nat) : List Nat :=
  arrange (codes.flatMap (takeApart maximalSteps))

/-- What stands between a character and a mark, last first, keeps them from joining: a mark of
the same class or of a higher one. -/
def isKeptApart (between : List Nat) (code : Nat) : Bool :=
  match between with
  | [] => false
  | last :: _ => combiningClass code ≤ combiningClass last

/-- Joins to `base` what follows it as far as it goes. What did not join is held, last first,
until the next character that marks belong to. -/
def joinTo (base : Nat) (held : List Nat) : List Nat → List Nat
  | [] => base :: held.reverse
  | code :: rest =>
    match if isKeptApart held code then none else join? base code with
    | some whole => joinTo whole held rest
    | none =>
      if combiningClass code = 0 then base :: (held.reverse ++ joinTo code [] rest)
      else joinTo base (code :: held) rest

/-- A text in order with everything joined that can be. -/
def compose : List Nat → List Nat
  | [] => []
  | code :: rest => joinTo code [] rest

/-- A text is composed. -/
def isComposed (text : List Char) : Bool :=
  let codes := text.map Char.toNat
  compose (decompose codes) == codes

end RemoteAgent.Text.Composed
