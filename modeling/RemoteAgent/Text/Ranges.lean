/-!
# Sets of characters

A table names a set of characters by the ranges of their code points, both ends included.
-/

namespace RemoteAgent.Text

/-- A code point lies in one of the ranges. -/
def inRanges (ranges : List (Nat × Nat)) (code : Nat) : Bool :=
  ranges.any fun range => range.1 ≤ code && code ≤ range.2

end RemoteAgent.Text
