import Mathlib.Data.List.Basic
import RemoteAgent.Proofs.Url.Escapes
import RemoteAgent.Url.Path

/-!
# Segments of paths

Reading a path and adding names to it place segments one after another, so what holds of the empty
segment and of every escaped one holds of all of them (`Each`). In particular no segment has a slash,
so that the slashes of a written path tell its segments apart, the last one too
(`joined_withoutSlash`). A name that is added becomes one segment, unless nothing but points is left
of it once the characters that no URL has are dropped (`push_eq`).
-/

namespace RemoteAgent.Url.Path

/-! ## What holds of every segment -/

/-- Something holds of every segment of a path. -/
def Each (holds : String → Prop) (path : Path) : Prop := ∀ segment ∈ path, holds segment

namespace Each

variable {holds : String → Prop} {path : Path}

/-- An empty path has no segments. -/
theorem nil : Each holds [] := fun segment member => by cases member

/-- What holds of each segment holds without the last one. -/
theorem dropLast (each : Each holds path) : Each holds path.dropLast :=
  fun segment member => each segment (List.dropLast_subset path member)

/-- What holds of each segment and of one more holds of all. -/
theorem concat (each : Each holds path) {last : String} (own : holds last) :
    Each holds (path ++ [last]) := by
  intro segment member
  rcases List.mem_append.mp member with inside | same
  · exact each segment inside
  · rwa [List.mem_singleton.mp same]

/-- What holds of each segment holds in the parent. -/
theorem parent (each : Each holds path) : Each holds path.parent := by
  unfold Path.parent
  split
  · split
    · exact each
    · exact each.dropLast
  · exact each

/-- What holds of each segment holds without the final slash. -/
theorem withoutSlash (each : Each holds path) : Each holds path.withoutSlash := by
  unfold Path.withoutSlash
  split
  · exact each.dropLast
  · exact each

variable (empty : holds "")

include empty in
/-- What holds of each segment holds with one that is placed behind them. -/
theorem place (each : Each holds path) {segment : String} (own : holds segment) (isLast : Bool) :
    Each holds (path.place segment isLast) := by
  unfold Path.place
  split
  · split
    · exact each.parent.concat empty
    · exact each.parent
  · split
    · split
      · exact each.concat empty
      · exact each
    · exact each.concat own

include empty in
/-- What holds of each segment holds with others that are placed behind them. -/
theorem placeAll (each : Each holds path) {segments : List String} (own : Each holds segments) :
    Each holds (path.placeAll segments) := by
  induction segments generalizing path with
  | nil => exact each
  | cons segment rest inductionHypothesis =>
    obtain ⟨first, others⟩ := List.forall_mem_cons.mp own
    cases rest with
    | nil => exact each.place empty first true
    | cons next later => exact inductionHypothesis (each.place empty first false) others

include empty in
/-- What holds of the empty segment and of the escaped parts of a text holds of its path. -/
theorem ofChars {chars : List Char}
    (own : ∀ part ∈ (chars.map fun c => if c = '\\' then '/' else c).splitOn '/',
      holds (Percent.encode Percent.path (String.ofList part))) : Each holds (ofChars chars) := by
  refine nil.placeAll empty fun segment member => ?_
  obtain ⟨part, inside, rfl⟩ := List.mem_map.mp member
  exact own part inside

include empty in
/-- What holds of each segment and of whatever is escaped holds with a name that is added. -/
theorem push (each : Each holds path)
    (encoded : ∀ text, holds (Percent.encode Percent.segment text)) (name : String) :
    Each holds (path.push name) := by
  unfold Path.push
  split
  · exact each
  · refine place empty ?_ (encoded _) true
    split
    · exact nil
    · exact each

include empty in
/-- What holds of each segment and of whatever is escaped holds with names that are added. -/
theorem foldl_push (each : Each holds path)
    (encoded : ∀ text, holds (Percent.encode Percent.segment text)) (names : List String) :
    Each holds (names.foldl Path.push path) := by
  induction names generalizing path with
  | nil => exact each
  | cons name later inductionHypothesis => exact inductionHypothesis (each.push empty encoded name)

end Each

/-! ## Slashes -/

/-- No part of a list that has been split has the character that it was split at. -/
theorem notMem_of_mem_splitOn {sep : Char} {chars part : List Char}
    (member : part ∈ chars.splitOn sep) : sep ∉ part := by
  rw [List.splitOn_eq_splitOnP] at member
  induction chars generalizing part with
  | nil =>
    rw [List.splitOnP_nil, List.mem_singleton] at member
    rw [member]
    exact List.not_mem_nil
  | cons c rest inductionHypothesis =>
    rw [List.splitOnP_cons_eq_if_modifyHead] at member
    split at member
    · rcases List.mem_cons.mp member with rfl | later
      · exact List.not_mem_nil
      · exact inductionHypothesis later
    · next apart =>
      cases parts : List.splitOnP (· == sep) rest with
      | nil => exact absurd parts (List.splitOnP_ne_nil _ _)
      | cons first others =>
        rw [parts, List.modifyHead_cons] at member
        have own : sep ∉ first := inductionHypothesis (by simp [parts])
        rcases List.mem_cons.mp member with rfl | later
        · rw [List.mem_cons, not_or]
          exact ⟨fun same => apart (by simp [same]), own⟩
        · exact inductionHypothesis (by simp [parts, later])

/-- The last part of a list that has been split has the last character. -/
theorem splitOn_concat {sep c : Char} (apart : c ≠ sep) (front : List Char) :
    ∃ init last, (front ++ [c]).splitOn sep = init ++ [last ++ [c]] := by
  simp only [List.splitOn_eq_splitOnP]
  induction front with
  | nil =>
    have whole : ∀ d ∈ [c], (d == sep) = false := by simpa using apart
    exact ⟨[], [], List.splitOnP_eq_singleton whole⟩
  | cons d rest inductionHypothesis =>
    obtain ⟨init, last, same⟩ := inductionHypothesis
    rw [List.cons_append, List.splitOnP_cons_eq_if_modifyHead, same]
    split
    · exact ⟨[] :: init, last, rfl⟩
    · cases init with
      | nil => exact ⟨[], d :: last, rfl⟩
      | cons first others => exact ⟨(d :: first) :: others, last, rfl⟩

/-- A segment without a slash. -/
def IsWhole (segment : String) : Prop := '/' ∉ segment.toList

/-- The segments of a path that is read have no slash. -/
theorem isWhole_ofChars (chars : List Char) : Each IsWhole (ofChars chars) := by
  refine Each.ofChars (by simp [IsWhole]) fun part member => ?_
  refine Percent.notMem_encode (by decide) (by decide) ?_
  rw [String.toList_ofList]
  exact notMem_of_mem_splitOn member

/-- Behind the last segment of a text, a path is not empty. -/
theorem place_ne_nil (path : Path) (segment : String) : path.place segment true ≠ [] := by
  unfold place
  split
  · simp
  · split <;> simp

/-- A path that is read from segments is not empty. -/
theorem placeAll_ne_nil {segments : List String} (some : segments ≠ []) (path : Path) :
    path.placeAll segments ≠ [] := by
  induction segments generalizing path with
  | nil => exact absurd rfl some
  | cons segment rest inductionHypothesis =>
    cases rest with
    | nil => exact place_ne_nil path segment
    | cons next later => exact inductionHypothesis (List.cons_ne_nil _ _) _

/-- A path that is read is not empty. -/
theorem ofChars_ne_nil (chars : List Char) : ofChars chars ≠ [] := by
  refine placeAll_ne_nil (fun none => ?_) []
  rw [List.map_eq_nil_iff, List.splitOn_eq_splitOnP] at none
  exact List.splitOnP_ne_nil _ _ none

/-! ## Slashes at the end -/

/-- A path without a final slash stays as it is. -/
theorem withoutSlash_of_full {path : Path} {last : String} (full : last ≠ "") :
    withoutSlash (path ++ [last]) = path ++ [last] :=
  if_neg (by simp [full])

/-- The final slash is an empty segment. -/
theorem withoutSlash_concat {path : Path} (full : path ≠ []) :
    withoutSlash (path ++ [""]) = path := by
  have some := List.length_pos_iff.mpr full
  rw [withoutSlash, if_pos (by simp [some]), List.dropLast_concat]

/-- The last segment is placed behind all others. -/
theorem placeAll_concat (path : Path) (segments : List String) (last : String) :
    path.placeAll (segments ++ [last]) =
      (segments.foldl (fun path segment => path.place segment false) path).place last true := by
  induction segments generalizing path with
  | nil => rfl
  | cons segment rest inductionHypothesis =>
    obtain ⟨next, later, some⟩ := List.exists_cons_of_ne_nil (List.concat_ne_nil last rest)
    rw [List.foldl_cons, ← inductionHypothesis, List.cons_append, some, placeAll]
    exact fun none => List.cons_ne_nil _ _ none

/-- A slash behind the last segment makes no other difference than the slash. -/
theorem withoutSlash_place {segment : String} (full : segment ≠ "") (path : Path) :
    ((path.place segment false).place "" true).withoutSlash =
      (path.place segment true).withoutSlash := by
  have last : ∀ path : Path, path.place "" true = path ++ [""] := fun _ => rfl
  rw [last]
  unfold place
  split
  · rfl
  · split
    · rfl
    · rw [withoutSlash_concat (by simp), withoutSlash_of_full full]

/-- One slash at the end of the text makes no difference to a path without its final slash. -/
theorem withoutSlash_ofChars {front : List Char} {c slash : Char} (apart : c ≠ '/' ∧ c ≠ '\\')
    (ending : slash = '/' ∨ slash = '\\') :
    (ofChars (front ++ [c] ++ [slash])).withoutSlash = (ofChars (front ++ [c])).withoutSlash := by
  obtain ⟨init, last, parts⟩ := splitOn_concat apart.1
    (front.map fun c => if c = '\\' then '/' else c)
  let escaped (part : List Char) : String := Percent.encode Percent.path (String.ofList part)
  have full : escaped (last ++ [c]) ≠ "" := by
    intro empty
    simpa using Percent.encode_eq_empty empty
  have mapped : (front ++ [c]).map (fun c => if c = '\\' then '/' else c) =
      front.map (fun c => if c = '\\' then '/' else c) ++ [c] := by
    rw [List.map_append, List.map_singleton, if_neg apart.2]
  have slashed : (front ++ [c] ++ [slash]).map (fun c => if c = '\\' then '/' else c) =
      front.map (fun c => if c = '\\' then '/' else c) ++ [c] ++ '/' :: [] := by
    rw [List.map_append, mapped]
    rcases ending with rfl | rfl <;> rfl
  rw [ofChars, ofChars, slashed, mapped, List.splitOn_append_cons_self, parts]
  have empty : escaped [] = "" := rfl
  change (placeAll [] ((init ++ [last ++ [c]] ++ [[]]).map escaped)).withoutSlash =
    (placeAll [] ((init ++ [last ++ [c]]).map escaped)).withoutSlash
  simp only [List.map_append, List.map_singleton, empty]
  rw [placeAll_concat, placeAll_concat, List.foldl_append, List.foldl_cons, List.foldl_nil,
    withoutSlash_place full]

/-! ## Written forms -/

/-- The segments of a path, each behind a slash. -/
def joined (path : Path) : String := String.join (path.map ("/" ++ ·))

/-- Each segment has a slash before it. -/
theorem joined_cons (segment : String) (path : Path) :
    joined (segment :: path) = "/" ++ segment ++ joined path := by
  rw [joined, List.map_cons, String.join_cons, joined]

/-- Segments are joined side by side. -/
theorem joined_append (first second : Path) :
    joined (first ++ second) = joined first ++ joined second := by
  rw [joined, List.map_append, String.join_append, joined, joined]

/-- Only an empty path is joined to nothing. -/
theorem joined_eq_empty {path : Path} (empty : joined path = "") : path = [] := by
  cases path with
  | nil => rfl
  | cons segment rest =>
    have counted := congrArg String.length empty
    simp [joined_cons] at counted

/-- The written form of a path has each segment behind a slash. -/
theorem text_eq_joined {path : Path} (full : path ≠ []) : path.text = joined path := by
  induction path with
  | nil => exact absurd rfl full
  | cons segment rest inductionHypothesis =>
    cases rest with
    | nil => simp [text, joined]
    | cons next later =>
      have rest : "/" ++ "/".intercalate (next :: later) = joined (next :: later) :=
        inductionHypothesis (List.cons_ne_nil _ _)
      rw [text, String.intercalate_cons_cons, joined_cons, ← rest]
      simp only [String.append_assoc]

/-- The written form of a path without a slash at its end. Two slashes alone have nothing between
them and count as one. -/
def stem (path : Path) : String :=
  if path.text = "//" then ""
  else if path.text.toList.getLast? = some '/' then String.ofList path.text.toList.dropLast
  else path.text

/-- The path to which a segment is added: the root has none. -/
def rooted (path : Path) : Path := if path = [""] then [] else path

/-- Only the path of the root is taken for an empty one. -/
theorem rooted_concat {path : Path} {last : String} (apart : path ≠ [] ∨ last ≠ "") :
    rooted (path ++ [last]) = path ++ [last] := by
  refine if_neg fun root => ?_
  cases path with
  | nil => exact apart.elim (absurd rfl) fun full => full (List.singleton_inj.mp root)
  | cons first rest => simp at root

/-- A path without its final slash is written as its stem. -/
theorem joined_withoutSlash {path : Path} (full : path ≠ []) (whole : Each IsWhole path) :
    joined (rooted path.withoutSlash) = stem path := by
  obtain ⟨init, last, rfl⟩ := (List.eq_nil_or_concat' path).resolve_left full
  have written : text (init ++ [last]) = joined init ++ "/" ++ last := by
    rw [text_eq_joined full, joined_append, joined_cons]
    simp [joined, String.append_assoc]
  by_cases slash : last = ""
  · subst slash
    rw [String.append_empty] at written
    by_cases root : init = []
    · subst root
      decide
    by_cases two : init = [""]
    · subst two
      decide
    have apart : text (init ++ [""]) ≠ "//" := by
      intro same
      obtain ⟨first, rest, rfl⟩ := List.exists_cons_of_ne_nil root
      have alone : joined (first :: rest) = "/" :=
        (String.append_left_inj "/").mp (written.symm.trans same)
      rw [joined_cons, String.append_assoc] at alone
      have nothing : first ++ joined rest = "" := (String.append_right_inj "/").mp alone
      obtain ⟨none, last⟩ := String.append_eq_empty_iff.mp nothing
      exact two (by rw [none, joined_eq_empty last])
    rw [withoutSlash_concat root, rooted, if_neg two, stem, if_neg apart, written]
    simp
  · have unended : (text (init ++ [last])).toList.getLast? ≠ some '/' := by
      intro ended
      have full : last.toList ≠ [] := by simpa using slash
      rw [written, String.toList_append, List.getLast?_append_of_ne_nil _ full] at ended
      exact whole last (by simp) (List.mem_of_getLast? ended)
    have apart : text (init ++ [last]) ≠ "//" := by
      intro same
      rw [same] at unended
      exact unended rfl
    have root : init ++ [last] ≠ [""] := by
      intro same
      exact slash (by simpa using congrArg List.getLast? same)
    rw [withoutSlash_of_full slash, rooted, if_neg root, stem, if_neg apart, if_neg unended,
      text_eq_joined full]

/-! ## Names -/

/-- What is left of a name in a URL. -/
def kept (name : String) : String := String.ofList (name.toList.filter (!isDropped ·))

/-- A name as a segment. -/
def shown (name : String) : String := Percent.encode Percent.segment (kept name)

/-- A segment stands for what is kept of the name. -/
theorem decode_shown (name : String) :
    Percent.decode (Utf8.encode (shown name)) = Utf8.encode (kept name) := by
  refine Percent.decode_encode (by decide) (fun octet wide => ?_) (kept name)
  have control : 126 < octet.toNat := by omega
  simp [Percent.segment, Percent.path, Percent.controls, control]

/-- A segment that stands for a text keeps all of it. -/
theorem kept_eq_of_decoded {name text : String}
    (decoded : Percent.decode (Utf8.encode (shown name)) = Utf8.encode text) : kept name = text :=
  Utf8.encode_injective ((decode_shown name).symm.trans decoded)

/-- Segments that decode to one text only come from that text. -/
theorem kept_eq_of_shown_mem {name text : String} {forms : List String}
    (member : shown name ∈ forms)
    (decoded : ∀ form ∈ forms, Percent.decode (Utf8.encode form) = Utf8.encode text) :
    kept name = text :=
  kept_eq_of_decoded (decoded _ member)

/-- A segment is a dot only if a dot is kept of the name. -/
theorem isSingleDot_shown {name : String} : isSingleDot (shown name) = true ↔ kept name = "." := by
  constructor
  · intro dot
    exact kept_eq_of_shown_mem (List.contains_iff_mem.mp dot) (by decide +kernel)
  · intro dot
    rw [shown, dot]
    decide

/-- A segment is two dots only if two dots are kept of the name. -/
theorem isDoubleDot_shown {name : String} : isDoubleDot (shown name) = true ↔ kept name = ".." := by
  constructor
  · intro dots
    exact kept_eq_of_shown_mem (List.contains_iff_mem.mp dots) (by decide +kernel)
  · intro dots
    rw [shown, dots]
    decide

/-- What adding a name does to a path. -/
theorem push_eq (path : Path) (name : String) : path.push name =
    if name = "." ∨ name = ".." then path
    else if kept name = ".." then (rooted path).parent ++ [""]
    else if kept name = "." then rooted path ++ [""]
    else rooted path ++ [shown name] := by
  simp only [push, Bool.or_eq_true, decide_eq_true_eq]
  refine if_congr Iff.rfl rfl ?_
  change (rooted path).place (shown name) true = _
  simp only [place, isDoubleDot_shown, isSingleDot_shown, if_true]

end RemoteAgent.Url.Path
