import RemoteAgent.Proofs.Url.Authorities

/-!
# Endpoints that stand for the same URL

A query and a fragment do not matter to what a text stands for (`readWeb_before`), and one more slash
at the end of what stands before them gives the same path, or the same path with a slash at its end
(`readWeb_concat`). Without both, two endpoints have the same `trunk`.
-/

namespace RemoteAgent.Url

variable {idna : Idna} {tail : List Char}

/-! ## Queries and fragments -/

/-- Characters before a query and a fragment. -/
def before (chars : List Char) : List Char := chars.takeWhile fun c => c != '?' && c != '#'

/-- A query and a fragment do not matter. -/
theorem readWeb_append (idna : Idna) (marked : ∀ c ∈ tail.head?, c = '?' ∨ c = '#')
    (chars : List Char) :
    readWeb idna (chars ++ tail) = readWeb idna chars := by
  have ends : Ends tail := by
    intro c first
    rcases marked c first with rfl | rfl <;> rfl
  have slashes : ∀ c ∈ tail.head?, isSlash c = false := by
    intro c first
    rcases marked c first with rfl | rfl <;> rfl
  have stops : ∀ c ∈ tail.head?, (c != '?' && c != '#') = false := by
    intro c first
    rcases marked c first with rfl | rfl <;> rfl
  have path : ∀ rest : List Char, pathChars (rest ++ tail) = pathChars rest := by
    intro rest
    rw [pathChars, takeWhile_append_of_head stops, pathChars]
  unfold readWeb
  rw [scheme?_append ends]
  cases scheme? chars with
  | none => rfl
  | some found =>
    simp only [Option.map_some]
    rw [dropWhile_append_of_head slashes, parseWeb_eq, parseWeb_eq, upToPath_append ends]
    cases upToPath idna found.1 (found.2.dropWhile isSlash) with
    | error fault => rfl
    | ok parts => simp only [Except.map, path]

theorem readWeb_before (chars : List Char) : readWeb idna (before chars) = readWeb idna chars := by
  let behind := chars.dropWhile fun c => c != '?' && c != '#'
  have whole : before chars ++ behind = chars := List.takeWhile_append_dropWhile
  have marked : ∀ c ∈ behind.head?, c = '?' ∨ c = '#' := by
    intro c first
    have stop := List.head?_dropWhile_not (fun c => c != '?' && c != '#') chars
    rw [show (chars.dropWhile fun c => c != '?' && c != '#').head? = some c from first] at stop
    simp only [Bool.and_eq_false_iff, bne_eq_false_iff_eq] at stop
    exact stop
  have same := readWeb_append idna marked (before chars)
  rw [whole] at same
  exact same.symm

/-! ## Slashes at the end -/

/-- The URL with the path that segments are added to. -/
def trimmed (url : Url) : Url := { url with path := url.path.withoutSlash }

theorem ends_slash {slash : Char} (last : isSlash slash = true) : Ends [slash] := by
  intro c first
  cases first
  rcases isSlash_iff.mp last with rfl | rfl <;> rfl

/-- Characters before a query and a fragment, without a slash at their end. -/
structure IsOpen (chars : List Char) : Prop where
  unmarked : ∀ c ∈ chars, (c != '?' && c != '#') = true
  unended : ∀ c ∈ chars.getLast?, isSlash c = false

theorem IsOpen.of_suffix {chars rest : List Char} (opened : IsOpen chars)
    (behind : rest <:+ chars) : IsOpen rest := by
  obtain ⟨front, rfl⟩ := behind
  refine ⟨fun c member => opened.unmarked c (List.mem_append_right _ member), fun c last => ?_⟩
  cases rest with
  | nil => cases last
  | cons first later =>
    refine opened.unended c ?_
    rwa [List.getLast?_append_of_ne_nil _ (List.cons_ne_nil _ _)]

theorem pathChars_eq {chars : List Char} (unmarked : ∀ c ∈ chars, (c != '?' && c != '#') = true) :
    pathChars chars = bif chars.head?.any isSlash then chars.tail else chars := by
  rw [pathChars, List.takeWhile_eq_self_iff.mpr unmarked]
  split
  · rfl
  · rfl
  · next slash backslash =>
    cases chars with
    | nil => rfl
    | cons c rest =>
      have apart : isSlash c = false := by
        rw [← Bool.not_eq_true, isSlash_iff, not_or]
        exact ⟨fun same => slash rest (by rw [same]), fun same => backslash rest (by rw [same])⟩
      rw [List.head?_cons, Option.any_some, apart, cond_false]

/-- A slash at the end is one at the end of the path, unless there is no path before it. -/
theorem pathChars_concat {rest : List Char} (opened : IsOpen rest) {slash : Char}
    (last : isSlash slash = true) : pathChars (rest ++ [slash]) = pathChars rest ∨
      pathChars (rest ++ [slash]) = pathChars rest ++ [slash] ∧ pathChars rest ≠ [] ∧
        IsOpen (pathChars rest) := by
  have unmarked : ∀ c ∈ rest ++ [slash], (c != '?' && c != '#') = true := by
    intro c member
    rcases List.mem_append.mp member with inside | same
    · exact opened.unmarked c inside
    · rw [List.mem_singleton.mp same]
      rcases isSlash_iff.mp last with rfl | rfl <;> rfl
  rw [pathChars_eq unmarked, pathChars_eq opened.unmarked]
  cases rest with
  | nil => simp [last]
  | cons c later =>
    refine .inr ?_
    simp only [List.cons_append, List.head?_cons, Option.any_some, List.tail_cons]
    cases first : isSlash c with
    | true =>
      refine ⟨rfl, ?_, opened.of_suffix (List.suffix_cons _ _)⟩
      rintro rfl
      exact absurd (opened.unended c rfl) (by simp [first])
    | false => exact ⟨rfl, List.cons_ne_nil _ _, opened⟩

theorem IsOpen.withoutSlash {chars : List Char} (opened : IsOpen chars) (some : chars ≠ [])
    {slash : Char} (last : isSlash slash = true) :
    (Path.ofChars (chars ++ [slash])).withoutSlash = (Path.ofChars chars).withoutSlash := by
  obtain ⟨front, c, rfl⟩ := (List.eq_nil_or_concat' chars).resolve_left some
  have unended := opened.unended c (by simp)
  rw [← Bool.not_eq_true, isSlash_iff, not_or] at unended
  exact Path.withoutSlash_ofChars unended (isSlash_iff.mp last)

theorem parseWeb_concat {chars : List Char} (opened : IsOpen chars) {slash : Char}
    (last : isSlash slash = true) (scheme : String) :
    (parseWeb idna scheme (chars ++ [slash])).map trimmed = (parseWeb idna scheme chars).map trimmed := by
  rw [parseWeb_eq, parseWeb_eq, upToPath_append (ends_slash last)]
  cases read : upToPath idna scheme chars with
  | error fault => rfl
  | ok parts =>
    obtain ⟨url, rest⟩ := parts
    simp only [Except.map, trimmed]
    have path : (Path.ofChars (pathChars (rest ++ [slash]))).withoutSlash =
        (Path.ofChars (pathChars rest)).withoutSlash := by
      rcases pathChars_concat (opened.of_suffix (upToPath_suffix read)) last with same | more
      · rw [same]
      · obtain ⟨same, some, later⟩ := more
        rw [same, later.withoutSlash some last]
    rw [path]

/-- Leading slashes are skipped up to a character that is none, if there is one. -/
theorem dropWhile_concat {slash : Char} (last : isSlash slash = true) (chars : List Char) :
    (chars ++ [slash]).dropWhile isSlash = chars.dropWhile isSlash ∨
      (chars ++ [slash]).dropWhile isSlash = chars.dropWhile isSlash ++ [slash] := by
  rw [List.dropWhile_append]
  split
  · next none =>
    rw [List.isEmpty_iff.mp none, List.dropWhile_cons_of_pos last]
    exact .inl rfl
  · exact .inr rfl

/-- One more slash at the end of what stands before a query makes no difference but the slash. -/
theorem readWeb_concat {chars : List Char} (opened : IsOpen chars) {slash : Char}
    (last : isSlash slash = true) :
    (readWeb idna (chars ++ [slash])).map trimmed = (readWeb idna chars).map trimmed := by
  have toOption : ∀ read : Except Fault Url,
      read.toOption.map trimmed = (read.map trimmed).toOption := by
    intro read
    cases read <;> rfl
  unfold readWeb
  rw [scheme?_append (ends_slash last)]
  cases found : scheme? chars with
  | none => rfl
  | some parts =>
    obtain ⟨scheme, rest⟩ := parts
    have later : IsOpen (rest.dropWhile isSlash) :=
      opened.of_suffix ((List.dropWhile_suffix _).trans (scheme?_suffix found))
    simp only [Option.map_some]
    split
    · rw [toOption, toOption]
      rcases dropWhile_concat last rest with same | more
      · rw [same]
      · rw [more, parseWeb_concat later last]
    · rfl

/-- The characters of a text before its query and its fragment. A slash at their end does not count,
unless it follows another one. -/
def trunk (text : String) : List Char :=
  let shown := before (significant text)
  if shown.getLast?.any isSlash && !shown.dropLast.getLast?.any isSlash then shown.dropLast
  else shown

/-- What a text stands for depends on its trunk, but for a slash at the end of the path. -/
theorem readWeb_trunk (idna : Idna) (text : String) :
    (readWeb idna (trunk text)).map trimmed = (readWeb idna (significant text)).map trimmed := by
  rw [← readWeb_before (significant text), trunk]
  split
  · next ended =>
    generalize shown : before (significant text) = chars at ended ⊢
    obtain ⟨ended, unended⟩ := Bool.and_eq_true_iff.mp ended
    rcases List.eq_nil_or_concat' chars with rfl | ⟨front, slash, rfl⟩
    · rfl
    · rw [List.getLast?_concat, Option.any_some] at ended
      rw [List.dropLast_concat] at unended ⊢
      have opened : IsOpen front := by
        refine ⟨fun c member => ?_, fun c last => ?_⟩
        · refine List.all_eq_true.mp List.all_takeWhile c (?_ : c ∈ before (significant text))
          exact shown ▸ List.mem_append_left _ member
        · simpa [show front.getLast? = some c from last] using unended
      rw [readWeb_concat opened ended]
  · rfl

/-- Two endpoints that differ in their queries, their fragments and one slash at the end of their
paths stand for the same URL, but for the slash. -/
theorem parse_of_trunk_eq {text other : String} (same : trunk other = trunk text) {url : Url}
    (read : parse idna text = .ok (.web url)) :
    ∃ parsed, parse idna other = .ok (.web parsed) ∧ parsed.trimmed = url.trimmed := by
  have both := readWeb_trunk idna other
  rw [same, readWeb_trunk idna text, parse_eq_web_iff.mp read, Option.map_some] at both
  replace both := Option.map_eq_some_iff.mp both.symm
  obtain ⟨parsed, found, same⟩ := both
  exact ⟨parsed, parse_eq_web_iff.mpr found, same⟩

example : trunk "ws://h/a/?b=c#d" = trunk "ws://h/a" := by decide

end RemoteAgent.Url
