/-!
# Lengths of time

A length of time counts nanoseconds. It is shown in the largest of the units second,
millisecond, microsecond and nanosecond in which it is at least one, with as many decimals
as it needs.
-/

namespace RemoteAgent

/-- A length of time. -/
structure Duration where
  nanoseconds : Nat
  deriving DecidableEq, Repr

namespace Duration

/-- So many milliseconds. -/
def ofMilliseconds (count : Nat) : Duration := ⟨count * 1000000⟩

/-- So many seconds. -/
def ofSeconds (count : Nat) : Duration := ⟨count * 1000000000⟩

/-- The whole milliseconds, in a word of 64 bits. -/
def milliseconds (duration : Duration) : Nat := duration.nanoseconds / 1000000 % 0x10000000000000000

/-- The decimals of a fraction below one that has `places` of them, without final zeros. -/
def decimals (places fraction : Nat) : List Char :=
  let shown := Nat.toDigits 10 fraction
  let padded := List.replicate (places - shown.length) '0' ++ shown
  (padded.reverse.dropWhile (· == '0')).reverse

/-- A count of units of `10 ^ places` nanoseconds. -/
def inUnit (nanoseconds places : Nat) (unit : String) : String :=
  let whole := toString (nanoseconds / Nat.pow 10 places)
  let fraction := nanoseconds % Nat.pow 10 places
  if fraction = 0 then whole ++ unit
  else whole ++ "." ++ String.ofList (decimals places fraction) ++ unit

/-- The form in which diagnostics show a length of time. -/
def text (duration : Duration) : String :=
  let nanoseconds := duration.nanoseconds
  if 1000000000 ≤ nanoseconds then inUnit nanoseconds 9 "s"
  else if 1000000 ≤ nanoseconds then inUnit nanoseconds 6 "ms"
  else if 1000 ≤ nanoseconds then inUnit nanoseconds 3 "µs"
  else inUnit nanoseconds 0 "ns"

end Duration

end RemoteAgent
