import Mathlib.Data.List.TakeWhile
import RemoteAgent.Proofs.Url.Segments
import RemoteAgent.Url.Basic

/-!
# What stands before a path

Scheme, credentials, host and port of a URL are read up to a slash, a question mark or a number
sign, and it makes no difference to them what follows (`upToPath_append`). What they leave for the
path is the end of the text (`upToPath_suffix`), and the URL is theirs with that path (`parse_parts`).
-/

namespace RemoteAgent.Url

/-! ## What follows a stretch of characters -/

section Stretches

variable {p : Char → Bool} {tail : List Char}

/-- A stretch of characters does not grow into what follows if that begins with another character.
-/
theorem takeWhile_append_of_head (stops : ∀ c ∈ tail.head?, p c = false) (chars : List Char) :
    (chars ++ tail).takeWhile p = chars.takeWhile p := by
  have none : tail.takeWhile p = [] := by
    cases tail with
    | nil => rfl
    | cons c rest => simp [stops c rfl]
  rw [List.takeWhile_append]
  split
  · next whole => rw [none, List.append_nil, (List.takeWhile_prefix p).eq_of_length whole]
  · rfl

/-- What is left behind a stretch of characters is followed by what followed them. -/
theorem dropWhile_append_of_head (stops : ∀ c ∈ tail.head?, p c = false) (chars : List Char) :
    (chars ++ tail).dropWhile p = chars.dropWhile p ++ tail := by
  have all : tail.dropWhile p = tail := by
    cases tail with
    | nil => rfl
    | cons c rest => simp [stops c rfl]
  rw [List.dropWhile_append]
  split
  · next none => rw [all, List.isEmpty_iff.mp none, List.nil_append]
  · rfl

end Stretches

/-- Characters that end what stands before a path. -/
def Ends (tail : List Char) : Prop := ∀ c ∈ tail.head?, endsAuthority true c = true

/-- A slash or a backslash. -/
def isSlash (c : Char) : Bool := c == '/' || c == '\\'

/-- There are two slashes. -/
theorem isSlash_iff {c : Char} : isSlash c = true ↔ c = '/' ∨ c = '\\' := by
  simp [isSlash]

variable {idna : Idna} {tail : List Char}

/-- What follows begins with no character that is apart from the four that end an authority. -/
theorem Ends.stops (ends : Ends tail) (p : Char → Bool)
    (apart : p '/' = false ∧ p '?' = false ∧ p '#' = false ∧ p '\\' = false) :
    ∀ c ∈ tail.head?, p c = false := by
  intro c first
  have stop := ends c first
  simp only [endsAuthority, Bool.true_and, Bool.or_eq_true, beq_iff_eq] at stop
  obtain ⟨slash, question, number, backslash⟩ := apart
  rcases stop with ((rfl | rfl) | rfl) | rfl <;> assumption

/-! ## Scheme -/

/-- A scheme does not depend on what follows. -/
theorem scheme?_append (ends : Ends tail) (chars : List Char) :
    scheme? (chars ++ tail) = (scheme? chars).map fun found => (found.1, found.2 ++ tail) := by
  have stops : ∀ c ∈ tail.head?, isSchemeChar c = false := ends.stops _ (by decide)
  cases chars with
  | nil =>
    cases tail with
    | nil => rfl
    | cons c rest =>
      have letter : c.isAlpha = false := ends.stops _ (by decide) c rfl
      simp [scheme?, letter]
  | cons first rest =>
    rw [List.cons_append]
    unfold scheme?
    simp only
    rw [← List.cons_append, dropWhile_append_of_head stops, takeWhile_append_of_head stops]
    split
    · cases (first :: rest).dropWhile isSchemeChar with
      | nil =>
        cases tail with
        | nil => rfl
        | cons c later =>
          have colon : (c == ':') = false := ends.stops (· == ':') (by decide) c rfl
          rw [List.nil_append]
          split
          · next same => simp [(List.cons.inj same).1] at colon
          · rfl
      | cons c later =>
        rw [List.cons_append]
        split
        · next same =>
          cases same
          rfl
        · next other =>
          split
          · next same => exact absurd (by rw [(List.cons.inj same).1]) (other (later ++ tail))
          · rfl
    · rfl

/-! ## Credentials, host and port -/

/-- Characters that end an authority are left for what follows it. Only where nothing stands behind
the at sign of the credentials do they matter, and there is no host in either case. -/
theorem userinfo_append (ends : Ends tail) (chars : List Char) :
    userinfo true (chars ++ tail) =
        (userinfo true chars).map (fun found => (found.1, found.2.1, found.2.2 ++ tail)) ∨
      userinfo true (chars ++ tail) = .error .emptyHost ∧
        userinfo true chars = .ok ("", "", []) := by
  have authority : (chars ++ tail).takeWhile (!endsAuthority true ·) =
      chars.takeWhile (!endsAuthority true ·) :=
    takeWhile_append_of_head (ends.stops (!endsAuthority true ·) (by decide)) chars
  have rest : (chars ++ tail).drop (chars.takeWhile (!endsAuthority true ·)).length =
      chars.drop (chars.takeWhile (!endsAuthority true ·)).length ++ tail :=
    List.drop_append_of_le_length (List.takeWhile_prefix _).length_le
  simp only [userinfo, authority, rest]
  split
  · exact .inl rfl
  · next behind _ =>
    generalize chars.drop (chars.takeWhile (!endsAuthority true ·)).length = later
    cases behind with
    | cons c others => exact .inl (by simp [Except.map])
    | nil =>
      cases later with
      | cons c others => exact .inl rfl
      | nil =>
        cases tail with
        | nil => exact .inl rfl
        | cons c others => exact .inr ⟨rfl, rfl⟩
  · refine .inl ?_
    simp only [Except.map, List.append_assoc]

/-- The length of a host does not depend on what follows. -/
theorem hostLength_append (ends : Ends tail) (inside : Bool) (count : Nat) (chars : List Char) :
    hostLength true inside count (chars ++ tail) = hostLength true inside count chars := by
  induction chars generalizing inside count with
  | nil =>
    cases tail with
    | nil => rfl
    | cons c rest =>
      have stop := ends c rfl
      simp [hostLength, stop]
  | cons c rest inductionHypothesis =>
    rw [List.cons_append, hostLength, hostLength, inductionHypothesis]

/-- A host has no more characters than there are. -/
theorem hostLength_le (inside : Bool) (count : Nat) (chars : List Char) :
    hostLength true inside count chars ≤ count + chars.length := by
  induction chars generalizing inside count with
  | nil => exact Nat.le_refl _
  | cons c rest inductionHypothesis =>
    rw [hostLength, List.length_cons]
    split
    · omega
    · have bound := inductionHypothesis (c == '[' || (inside && c != ']')) (count + 1)
      omega

/-- A host does not depend on what follows. -/
theorem splitHost_append (ends : Ends tail) (chars : List Char) :
    splitHost true (chars ++ tail) =
      ((splitHost true chars).1, (splitHost true chars).2 ++ tail) := by
  have bound := hostLength_le false 0 chars
  simp only [splitHost, hostLength_append ends, List.splitAt_eq]
  rw [List.take_append_of_le_length (by omega), List.drop_append_of_le_length (by omega)]

/-- Without a colon, there is no port. -/
theorem portOf_of_apart {chars : List Char} (apart : ∀ rest, chars ≠ ':' :: rest)
    (scheme : String) : portOf scheme chars = .ok (none, chars) := by
  unfold portOf
  split
  · exact absurd rfl (apart _)
  · rfl

/-- A port does not depend on what follows. -/
theorem portOf_append (ends : Ends tail) (scheme : String) (chars : List Char) :
    portOf scheme (chars ++ tail) =
      (portOf scheme chars).map fun found => (found.1, found.2 ++ tail) := by
  by_cases colon : ∃ rest, chars = ':' :: rest
  · obtain ⟨rest, rfl⟩ := colon
    have shown : (rest ++ tail).takeWhile Char.isDigit = rest.takeWhile Char.isDigit :=
      takeWhile_append_of_head (ends.stops Char.isDigit (by decide)) rest
    have behind : (rest ++ tail).drop (rest.takeWhile Char.isDigit).length =
        rest.drop (rest.takeWhile Char.isDigit).length ++ tail :=
      List.drop_append_of_le_length (List.takeWhile_prefix _).length_le
    have stops : ∀ later : List Char,
        (later ++ tail).head?.all endsPort = later.head?.all endsPort := by
      intro later
      cases later with
      | cons c others => rfl
      | nil =>
        cases tail with
        | nil => rfl
        | cons c others => simpa using ends.stops (!endsPort ·) (by decide) c rfl
    simp only [portOf, List.cons_append, shown, behind, stops]
    split <;> rfl
  · have apart : ∀ rest, chars ++ tail ≠ ':' :: rest := by
      intro rest same
      cases chars with
      | nil =>
        subst same
        exact absurd (ends.stops (· == ':') (by decide) ':' rfl) (by decide)
      | cons c later => exact colon ⟨later, by rw [(List.cons.inj same).1]⟩
    rw [portOf_of_apart (not_exists.mp colon), portOf_of_apart apart]
    rfl

/-- What stands before the path, and the characters that follow. -/
def upToPath (idna : Idna) (scheme : String) (chars : List Char) : Except Fault (Url × List Char) := do
  let (username, password, rest) ← userinfo true chars
  let (shown, rest) := splitHost true rest
  if shown.isEmpty then .error .emptyHost
  else
    let host ← Host.parse idna shown
    let (port, rest) ← portOf scheme rest
    return ({ scheme, username, password, host, port }, rest)

/-- The URL of a web scheme comes from what stands before its path, and from the path. -/
theorem parseWeb_eq (idna : Idna) (scheme : String) (chars : List Char) :
    parseWeb idna scheme chars = (upToPath idna scheme chars).map fun found =>
      { found.1 with path := Path.ofChars (pathChars found.2) } := by
  simp only [parseWeb, upToPath, bind, Except.bind]
  cases userinfo true chars with
  | error fault => rfl
  | ok parts =>
    simp only
    split
    · rfl
    · cases Host.parse idna (splitHost true parts.2.2).1 with
      | error fault => rfl
      | ok host =>
        simp only
        cases portOf scheme (splitHost true parts.2.2).2 <;> rfl

/-- The parts of what stands before a path. -/
theorem upToPath_parts {scheme : String} {chars rest : List Char} {url : Url}
    (read : upToPath idna scheme chars = .ok (url, rest)) : ∃ username password behind host port,
      userinfo true chars = .ok (username, password, behind) ∧
      Host.parse idna (splitHost true behind).1 = .ok host ∧
      portOf scheme (splitHost true behind).2 = .ok (port, rest) ∧
      url = { scheme, username, password, host, port } := by
  simp only [upToPath, bind, Except.bind] at read
  cases info : userinfo true chars with
  | error fault => simp [info] at read
  | ok parts =>
    obtain ⟨username, password, behind⟩ := parts
    simp only [info] at read
    split at read
    · cases read
    · cases parsed : Host.parse idna (splitHost true behind).1 with
      | error fault => simp [parsed] at read
      | ok host =>
        simp only [parsed] at read
        cases found : portOf scheme (splitHost true behind).2 with
        | error fault => simp [found] at read
        | ok port =>
          rw [found] at read
          cases read
          exact ⟨username, password, behind, host, port.1, rfl, parsed, found, rfl⟩

/-- What stands before a path does not depend on what follows it. -/
theorem upToPath_append (ends : Ends tail) (scheme : String) (chars : List Char) :
    upToPath idna scheme (chars ++ tail) =
      (upToPath idna scheme chars).map fun found => (found.1, found.2 ++ tail) := by
  simp only [upToPath, bind, Except.bind]
  rcases userinfo_append ends chars with same | ⟨refused, empty⟩
  · rw [same]
    cases userinfo true chars with
    | error fault => rfl
    | ok parts =>
      simp only [Except.map, splitHost_append ends]
      split
      · rfl
      · cases Host.parse idna (splitHost true parts.2.2).1 with
        | error fault => rfl
        | ok host =>
          simp only [portOf_append ends]
          cases portOf scheme (splitHost true parts.2.2).2 <;> rfl
  · rw [refused, empty]
    rfl

/-! ## What is left for the path -/

/-- What stands behind the last at sign ends the text. -/
theorem splitLastAt_suffix {chars shown behind : List Char}
    (split : splitLastAt chars = some (shown, behind)) : behind <:+ chars := by
  unfold splitLastAt at split
  split at split
  · cases split
    rw [← List.reverse_prefix, List.reverse_reverse]
    exact List.takeWhile_prefix _
  · cases split

/-- What follows credentials ends the text. -/
theorem userinfo_suffix {chars rest : List Char} {username password : String}
    (read : userinfo true chars = .ok (username, password, rest)) : rest <:+ chars := by
  have whole := List.prefix_iff_eq_append.mp
    (List.takeWhile_prefix (l := chars) (!endsAuthority true ·))
  have later : ∀ {shown behind},
      splitLastAt (chars.takeWhile (!endsAuthority true ·)) = some (shown, behind) →
        behind ++ chars.drop (chars.takeWhile (!endsAuthority true ·)).length <:+ chars := by
    intro shown behind split
    obtain ⟨front, same⟩ := splitLastAt_suffix split
    exact ⟨front, by rw [← List.append_assoc, same, whole]⟩
  unfold userinfo at read
  simp only at read
  split at read
  · cases read
    exact List.suffix_refl _
  · next split =>
    split at read
    · cases read
    · cases read
      exact later split
  · next split =>
    obtain ⟨_, _, rfl⟩ : _ ∧ _ ∧ _ = rest := by
      simpa only [Except.ok.injEq, Prod.mk.injEq] using read
    exact later split

/-- What follows a port ends the text. -/
theorem portOf_suffix {scheme : String} {chars rest : List Char} {port : Option Nat}
    (read : portOf scheme chars = .ok (port, rest)) : rest <:+ chars := by
  unfold portOf at read
  split at read
  · simp only at read
    split at read
    · cases read
    · cases read
      exact (List.drop_suffix _ _).trans (List.suffix_cons _ _)
  · cases read
    exact List.suffix_refl _

/-- What is left for the path ends the text. -/
theorem upToPath_suffix {scheme : String} {chars rest : List Char} {url : Url}
    (read : upToPath idna scheme chars = .ok (url, rest)) : rest <:+ chars := by
  obtain ⟨username, password, behind, host, port, info, _, found, _⟩ := upToPath_parts read
  have shorter : (splitHost true behind).2 <:+ behind := by
    rw [splitHost, List.splitAt_eq]
    exact List.drop_suffix _ _
  exact ((portOf_suffix found).trans shorter).trans (userinfo_suffix info)

/-- What follows a scheme ends the text. -/
theorem scheme?_suffix {chars rest : List Char} {scheme : String}
    (read : scheme? chars = some (scheme, rest)) : rest <:+ chars := by
  unfold scheme? at read
  split at read
  · split at read
    · split at read
      · next behind same =>
        cases read
        exact (List.suffix_cons _ _).trans (same ▸ List.dropWhile_suffix _)
      · cases read
    · cases read
  · cases read

/-! ## Reading by parts -/

/-- The URL of a web scheme that characters stand for, if they do. -/
def readWeb (idna : Idna) (chars : List Char) : Option Url :=
  match scheme? chars with
  | none => none
  | some (scheme, rest) =>
    if (defaultPort scheme).isSome then (parseWeb idna scheme (rest.dropWhile isSlash)).toOption
    else none

/-- A text is read as the URL of a web scheme exactly if its characters that count are. -/
theorem parse_eq_web_iff {text : String} {url : Url} :
    parse idna text = .ok (.web url) ↔ readWeb idna (significant text) = some url := by
  unfold parse readWeb
  cases scheme? (significant text) with
  | none => simp
  | some found =>
    obtain ⟨scheme, rest⟩ := found
    simp only [bind, Except.bind]
    split
    · have slash : (fun c => c == '/' || c == '\\') = isSlash := rfl
      rw [slash]
      cases parseWeb idna scheme (rest.dropWhile isSlash) with
      | error fault => simp [Except.toOption]
      | ok other => simp [Except.toOption, pure, Except.pure]
    · split
      · split <;> simp [pure, Except.pure]
      · split <;> simp [pure, Except.pure]

/-- What a text stands for comes from a scheme, what stands before the path, and the path. -/
theorem parse_parts {text : String} {url : Url} (read : parse idna text = .ok (.web url)) :
    ∃ scheme rest front shown, scheme? (significant text) = some (scheme, rest) ∧
      upToPath idna scheme (rest.dropWhile isSlash) = .ok (front, shown) ∧
      url = { front with path := Path.ofChars (pathChars shown) } := by
  have found := parse_eq_web_iff.mp read
  unfold readWeb at found
  split at found
  · cases found
  · next scheme rest named =>
    split at found
    · rw [parseWeb_eq] at found
      cases parts : upToPath idna scheme (rest.dropWhile isSlash) with
      | error fault => simp [parts, Except.map, Except.toOption] at found
      | ok both =>
        rw [parts] at found
        exact ⟨scheme, rest, both.1, both.2, named, parts, (Option.some.inj found).symm⟩
    · cases found

end RemoteAgent.Url
