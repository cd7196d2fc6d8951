import RemoteAgent.Url.Percent

/-!
# Paths

The path of a URL is a list of segments, never empty. A segment `.` is left out and a
segment `..` takes the one before it along, also when their points are escaped.
-/

namespace RemoteAgent.Url

/-- A path: its segments, with escapes. The root has one empty segment. -/
abbrev Path := List String

namespace Path

/-- A segment that stands for the path so far. -/
def isSingleDot (segment : String) : Bool := [".", "%2e", "%2E"].contains segment

/-- A segment that stands for the path without its last segment. -/
def isDoubleDot (segment : String) : Bool :=
  ["..", "%2e%2e", "%2e%2E", "%2E%2e", "%2E%2E", "%2e.", "%2E.", ".%2e", ".%2E"].contains segment

/-- A letter with a colon or a bar, which `..` does not take along. -/
def isDrive (segment : String) : Bool :=
  match segment.toList with
  | [letter, mark] => letter.isAlpha && (mark == ':' || mark == '|')
  | _ => false

/-- The path that `..` leaves. -/
def parent (path : Path) : Path :=
  match path.getLast? with
  | some last => if isDrive last then path else path.dropLast
  | none => path

/-- A path with one more segment, which is the last one or is followed by a slash. -/
def place (path : Path) (segment : String) (isLast : Bool) : Path :=
  if isDoubleDot segment then if isLast then path.parent ++ [""] else path.parent
  else if isSingleDot segment then if isLast then path ++ [""] else path
  else path ++ [segment]

/-- The path with all segments of a text placed one after another. -/
def placeAll (path : Path) : List String → Path
  | [] => path
  | [segment] => path.place segment true
  | segment :: rest => placeAll (path.place segment false) rest

/-- The path that characters stand for, in which a slash and a backslash end a segment. -/
def ofChars (chars : List Char) : Path :=
  placeAll [] (((chars.map fun c => if c = '\\' then '/' else c).splitOn '/').map fun segment =>
    Percent.encode Percent.path (String.ofList segment))

/-- The path without a final slash; the root stays. -/
def withoutSlash (path : Path) : Path :=
  if 1 < path.length && path.getLast? == some "" then path.dropLast else path

/-- Whether a character is dropped from every part of a URL. -/
def isDropped (c : Char) : Bool := c == '\t' || c == '\n' || c == '\r'

/-- The path with a segment added at its end. The segments `.` and `..` are not added. -/
def push (path : Path) (segment : String) : Path :=
  if segment = "." || segment = ".." then path
  else
    let start : Path := if path = [""] then [] else path
    start.place (Percent.encode Percent.segment
      (String.ofList (segment.toList.filter (!isDropped ·)))) true

/-- The written form of a path. -/
def text (path : Path) : String := "/" ++ "/".intercalate path

end Path

end RemoteAgent.Url
