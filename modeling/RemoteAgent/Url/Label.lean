import RemoteAgent.Text.Composed
import RemoteAgent.Text.Direction
import RemoteAgent.Text.Joining
import RemoteAgent.Url.Label.Admitted
import RemoteAgent.Url.Punycode

/-!
# Labels of names

A name consists of labels between periods. A label beyond ASCII is written as `xn--` and its
Punycode, and is well written only if it is fit for a name: it has admitted characters, is
composed, does not begin with a mark, and has the invisible joiners only where they show.
In a name that has letters from right to left, every label runs in one direction.
-/

namespace RemoteAgent.Url.Label

open RemoteAgent.Text

/-- The character that keeps two letters from joining. -/
def nonJoiner : Char := '\u200c'

/-- The character that has two letters join. -/
def joiner : Char := '\u200d'

/-- The last character before a place is a virama. The characters are given last first. -/
def followsVirama (before : List Char) : Bool :=
  before.head?.any fun c => Composed.combiningClass c.toNat == Composed.virama

/-- Past what others join through, the characters begin with one that joins in one of the given
ways. -/
def joins (ways : List JoiningType) (chars : List Char) : Bool :=
  ((chars.dropWhile fun c => joiningType c == .transparent).head?.map joiningType).any ways.contains

/-- Every invisible joiner behind `before`, which is given last first, shows: it stands behind a
virama, or it keeps two letters from joining that otherwise do. -/
def joinersShow (before : List Char) : List Char → Bool
  | [] => true
  | c :: rest =>
    (if c == joiner then followsVirama before
      else if c == nonJoiner then
        followsVirama before || (joins [.left, .dual] before && joins [.right, .dual] rest)
      else true) && joinersShow (c :: before) rest

/-- The most characters of a label beyond ASCII. -/
def maximalLength : Nat := 1000

/-- The most characters that may follow `xn--` in the written form of a label. -/
def maximalWritten : Nat := 2000

/-- A label beyond ASCII is fit for a name. -/
def isFit (label : List Char) : Bool :=
  label.length ≤ maximalLength && label.any (0x80 ≤ ·.toNat) && label.all isAdmitted &&
    !label.head?.any isMark && Composed.isComposed label && joinersShow [] label

/-- The label that a written one stands for. The time that reading takes grows with the square
of the length, which is why the length has a bound. -/
def read? (written : List Char) : Option (List Char) :=
  match written with
  | 'x' :: 'n' :: '-' :: '-' :: code =>
    if code.length ≤ maximalWritten && code.getLast? != some '-' then
      (Punycode.decode? code).filter isFit
    else none
  | _ => some written

/-- A label has letters or numbers that are written from right to left. -/
def hasRightToLeft (label : List Char) : Bool :=
  label.any fun c => direction c == .rightToLeft || direction c == .arabicNumber

/-- The direction of the last character, past the marks on it. -/
def lastDirection? (label : List Char) : Option Direction :=
  (label.reverse.map direction).find? (· != .attached)

/-- A label runs in the direction of its first letter: all its characters may stand in a run of
that direction, the last one ends it, and numbers from right to left are of one kind. -/
def runsOneWay (label : List Char) : Bool :=
  let directions := label.map direction
  match directions with
  | [] => true
  | .leftToRight :: _ =>
    directions.all [.leftToRight, .europeanNumber, .neutral, .attached].contains &&
      (lastDirection? label).any [.leftToRight, .europeanNumber].contains
  | .rightToLeft :: _ =>
    directions.all
        [.rightToLeft, .arabicNumber, .europeanNumber, .neutral, .attached].contains &&
      (lastDirection? label).any [.rightToLeft, .arabicNumber, .europeanNumber].contains &&
      !(directions.contains .europeanNumber && directions.contains .arabicNumber)
  | _ => false

/-- The labels of a name in lower case are well written and fit together. -/
def areWellWritten (labels : List (List Char)) : Bool :=
  match labels.mapM read? with
  | none => false
  | some read => !read.any hasRightToLeft || read.all runsOneWay

end RemoteAgent.Url.Label
