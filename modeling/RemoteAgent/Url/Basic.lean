import RemoteAgent.Url.Form
import RemoteAgent.Url.Host
import RemoteAgent.Url.Path

/-!
# URLs

A URL of a web scheme has a scheme, credentials, a host, a port, a path and perhaps a
query. Reading one follows the URL standard: blanks and controls around the text do not
count, tabs and line ends inside it neither. A query and a fragment of the text are
dropped. Texts of other schemes are read as far as it takes to tell whether they are URLs.
-/

namespace RemoteAgent

/-- A URL of a web scheme. -/
structure Url where
  /-- The scheme in lower case. -/
  scheme : String
  /-- The user name, with escapes. -/
  username : String := ""
  /-- The password, with escapes. -/
  password : String := ""
  host : Url.Host
  /-- The port, unless it is the one of the scheme. -/
  port : Option Nat := none
  path : Url.Path := [""]
  /-- The query, with escapes. -/
  query : Option String := none
  deriving DecidableEq, Repr

namespace Url

/-- What a text stands for. -/
inductive Reading where
  /-- A URL of a web scheme. -/
  | web (url : Url)
  /-- A URL of another scheme. -/
  | other (scheme : String)
  deriving DecidableEq, Repr

/-! ## Writing -/

/-- The credentials before the host. -/
def credentials (url : Url) : String :=
  if url.username.isEmpty && url.password.isEmpty then ""
  else if url.password.isEmpty then url.username ++ "@"
  else url.username ++ ":" ++ url.password ++ "@"

/-- The port behind the host. -/
def portText (url : Url) : String :=
  match url.port with
  | none => ""
  | some port => ":" ++ toString port

/-- The URL up to its query, which is what diagnostics may show. -/
def redacted (url : Url) : String :=
  url.scheme ++ "://" ++ url.credentials ++ url.host.text ++ url.portText ++ url.path.text

/-- The path with the query, which is what a server is asked for. -/
def target (url : Url) : String :=
  match url.query with
  | none => url.path.text
  | some query => url.path.text ++ "?" ++ query

/-! ## Reading -/

/-- The schemes that know about hosts, with their ports. -/
def webSchemes : List (String × Nat) :=
  [("http", 80), ("https", 443), ("ws", 80), ("wss", 443), ("ftp", 21)]

/-- The port of a scheme. -/
def defaultPort (scheme : String) : Option Nat := webSchemes.lookup scheme

/-- Characters that count at neither end of a URL. -/
def isOuter (c : Char) : Bool := c.toNat ≤ 0x20

/-- The characters of a text that count. -/
def significant (text : String) : List Char :=
  let trimmed := ((text.toList.dropWhile isOuter).reverse.dropWhile isOuter).reverse
  trimmed.filter (!Path.isDropped ·)

/-- Characters of a scheme behind the first one. -/
def isSchemeChar (c : Char) : Bool := c.isAlphanum || c == '+' || c == '-' || c == '.'

/-- The scheme and what stands behind its colon. -/
def scheme? (chars : List Char) : Option (String × List Char) :=
  match chars with
  | first :: _ =>
    if first.isAlpha then
      match chars.dropWhile isSchemeChar with
      | ':' :: rest =>
        some (String.ofList ((chars.takeWhile isSchemeChar).map Char.toLower), rest)
      | _ => none
    else none
  | [] => none

/-- Characters that end the part with credentials, host and port. A backslash does so in web
schemes only. -/
def endsAuthority (web : Bool) (c : Char) : Bool :=
  c == '/' || c == '?' || c == '#' || (web && c == '\\')

/-- The characters before the last at sign and those behind it, if there is one. -/
def splitLastAt (chars : List Char) : Option (List Char × List Char) :=
  if chars.contains '@' then
    let behind := (chars.reverse.takeWhile (· != '@')).reverse
    some (chars.take (chars.length - behind.length - 1), behind)
  else none

/-- User name, password, and what follows the credentials. -/
def userinfo (web : Bool) (chars : List Char) : Except Fault (String × String × List Char) :=
  let authority := chars.takeWhile (!endsAuthority web ·)
  let rest := chars.drop authority.length
  match splitLastAt authority with
  | none => .ok ("", "", chars)
  | some ([], behind) =>
    if behind.isEmpty && !rest.isEmpty then .error .emptyHost else .ok ("", "", behind ++ rest)
  | some (shown, behind) =>
    let escaped (part : List Char) : String := Percent.encode Percent.userinfo (String.ofList part)
    .ok (escaped (shown.takeWhile (· != ':')), escaped ((shown.dropWhile (· != ':')).drop 1),
      behind ++ rest)

/-- How many characters the host at the front has, beside `count`. Colons count as part of
it in brackets. -/
def hostLength (web inside : Bool) (count : Nat) : List Char → Nat
  | [] => count
  | c :: rest =>
    if (c == ':' && !inside) || endsAuthority web c then count
    else hostLength web (c == '[' || (inside && c != ']')) (count + 1) rest

/-- The characters of the host at the front, and what follows. -/
def splitHost (web : Bool) (chars : List Char) : List Char × List Char :=
  chars.splitAt (hostLength web false 0 chars)

/-- Characters that may follow a port. -/
def endsPort (c : Char) : Bool := c == '/' || c == '\\' || c == '?' || c == '#'

/-- The port behind a host, unless it is the one of the scheme, and what follows. -/
def portOf (scheme : String) (chars : List Char) : Except Fault (Option Nat × List Char) :=
  match chars with
  | ':' :: rest =>
    let shown := rest.takeWhile Char.isDigit
    let behind := rest.drop shown.length
    let value := (Ipv4.digits? 10 shown).getD 0
    if 65535 < value || !behind.head?.all endsPort then .error .badPort
    else
      let implied := shown.isEmpty || defaultPort scheme == some value
      .ok (if implied then none else some value, behind)
  | _ => .ok (none, chars)

/-- The characters of the path behind the slash it begins with. -/
def pathChars (chars : List Char) : List Char :=
  let shown := chars.takeWhile fun c => c != '?' && c != '#'
  match shown with
  | '/' :: rest | '\\' :: rest => rest
  | _ => shown

/-- The URL of a web scheme behind the slashes. -/
def parseWeb (idna : Idna) (scheme : String) (chars : List Char) : Except Fault Url := do
  let (username, password, rest) ← userinfo true chars
  let (shown, rest) := splitHost true rest
  if shown.isEmpty then .error .emptyHost
  else
    let host ← Host.parse idna shown
    let (port, rest) ← portOf scheme rest
    return { scheme, username, password, host, port, path := Path.ofChars (pathChars rest) }

/-- Whether the text of a scheme that does not know about hosts is a URL. -/
def checkOpaque (scheme : String) (chars : List Char) : Except Fault Unit :=
  match chars with
  | '/' :: '/' :: rest => do
    let (username, password, rest) ← userinfo false rest
    let (shown, rest) := splitHost false rest
    let _ ← Host.parseOpaque shown
    if shown.isEmpty && (rest.head? == some ':' || !(username.isEmpty && password.isEmpty)) then
      .error .emptyHost
    else
      let _ ← portOf scheme rest
      return ()
  | _ => .ok ()

/-- A drive letter where a host could stand. -/
def isDriveHost (chars : List Char) : Bool := Path.isDrive (String.ofList chars)

/-- Whether the text of the scheme `file` is a URL. -/
def checkFile (idna : Idna) (chars : List Char) : Except Fault Unit :=
  let isSlash (c : Char) : Bool := c == '/' || c == '\\'
  match chars with
  | first :: second :: rest =>
    if isSlash first && isSlash second then
      let shown := rest.takeWhile fun c => !(isSlash c || c == '?' || c == '#')
      if shown.isEmpty || isDriveHost shown then .ok ()
      else do
        let _ ← Host.parse idna shown
        return ()
    else .ok ()
  | _ => .ok ()

/-- Reads a text as an absolute URL. -/
def parse (idna : Idna) (text : String) : Except Fault Reading :=
  match scheme? (significant text) with
  | none => .error .noScheme
  | some (scheme, rest) =>
    if (defaultPort scheme).isSome then do
      return .web (← parseWeb idna scheme (rest.dropWhile fun c => c == '/' || c == '\\'))
    else if scheme = "file" then do
      checkFile idna rest
      return .other scheme
    else do
      checkOpaque scheme rest
      return .other scheme

end Url

end RemoteAgent
