import Mathlib.Data.List.Basic
import RemoteAgent.Failure

/-!
# What the text of a key names

The text of a key shows the path as it is, whatever stands in it, and the offset in decimal digits. A
read ends in its offset, so the last colon is the one before the digits; a write begins with its
offset, so the first colon is the one behind them. Both times the digits cannot be taken for a part of
the path, and different keys have different texts (`RequestKey.text_inj`). In the same way the number of
milliseconds is cut from the end of what is said of a request that timed out.
-/

namespace RemoteAgent

/-! ## Where digits end -/

theorem Text.digits_inj {m n : Nat} : Nat.toDigits 10 m = Nat.toDigits 10 n ↔ m = n := by
  constructor
  · intro same
    have values := congrArg (Nat.ofDigitChars 10 · 0) same
    simpa using values
  · exact congrArg _

/-- A character that is no digit stands nowhere in a number. -/
theorem Text.notMem_digits {mark : Char} (apart : mark.isDigit = false) (n : Nat) :
    mark ∉ Nat.toDigits 10 n := by
  intro member
  have digit := Nat.isDigit_of_mem_toDigits (by decide) (by decide) member
  rw [apart] at digit
  cases digit

/-- Two lists are cut at the first place of a mark. -/
theorem Text.cut_first {mark : Char} {first second behind after : List Char}
    (left : mark ∉ first) (right : mark ∉ second)
    (same : first ++ mark :: behind = second ++ mark :: after) : first = second ∧ behind = after := by
  have before : ∀ {chars rest : List Char}, mark ∉ chars →
      (chars ++ mark :: rest).takeWhile (· != mark) = chars := by
    intro chars rest absent
    rw [List.takeWhile_append_of_pos fun c member => bne_iff_ne.mpr (by rintro rfl; exact absent member)]
    simp
  have fronts : first = second := by
    rw [← @before first behind left, same, before right]
  subst fronts
  exact ⟨rfl, (List.cons.inj (List.append_cancel_left same)).2⟩

/-- A number is read from the front up to a mark that is no digit. -/
theorem Text.number_before {mark : Char} (apart : mark.isDigit = false) {m n : Nat}
    {behind after : List Char}
    (same : Nat.toDigits 10 m ++ mark :: behind = Nat.toDigits 10 n ++ mark :: after) :
    m = n ∧ behind = after := by
  obtain ⟨digits, rests⟩ := cut_first (notMem_digits apart m) (notMem_digits apart n) same
  exact ⟨digits_inj.mp digits, rests⟩

/-- A number is read from the end back to a mark that is no digit. -/
theorem Text.number_behind {mark : Char} (apart : mark.isDigit = false) {m n : Nat}
    {front start : List Char}
    (same : front ++ mark :: Nat.toDigits 10 m = start ++ mark :: Nat.toDigits 10 n) :
    front = start ∧ m = n := by
  have absent : ∀ n, mark ∉ (Nat.toDigits 10 n).reverse := by simpa using notMem_digits apart
  have reversed := congrArg List.reverse same
  simp only [List.reverse_append, List.reverse_cons, List.append_assoc, List.singleton_append]
    at reversed
  obtain ⟨digits, fronts⟩ := cut_first (absent m) (absent n) reversed
  exact ⟨List.reverse_inj.mp fronts, digits_inj.mp (List.reverse_inj.mp digits)⟩

/-! ## Keys -/

namespace RequestKey

/-- The characters of a key, with the digits of its offset. -/
def chars : RequestKey → List Char
  | info path => "getFileInfo:".toList ++ path.toList
  | read path offset =>
    "downloadFileChunk:".toList ++ (path.toList ++ ':' :: Nat.toDigits 10 offset.toNat)
  | write path offset =>
    "uploadFileChunk:".toList ++ (Nat.toDigits 10 offset.toNat ++ ':' :: path.toList)

theorem toList_text (key : RequestKey) : key.text.toList = key.chars := by
  have colon : ":".toList = [':'] := rfl
  cases key with
  | info path => exact String.toList_append
  | read path offset =>
    change ("downloadFileChunk:" ++ path ++ ":" ++ toString offset.toNat).toList = _
    simp only [String.toList_append, colon, Nat.toString_eq_repr, Nat.toList_repr, List.append_assoc,
      List.singleton_append]
    rfl
  | write path offset =>
    change ("uploadFileChunk:" ++ toString offset.toNat ++ ":" ++ path).toList = _
    simp only [String.toList_append, colon, Nat.toString_eq_repr, Nat.toList_repr, List.append_assoc,
      List.singleton_append]
    rfl

/-- The first letter of each kind of keys. -/
def letter : RequestKey → Char
  | info _ => 'g'
  | read _ _ => 'd'
  | write _ _ => 'u'

theorem head?_chars (key : RequestKey) : key.chars.head? = some key.letter := by
  cases key <;> rfl

/-- Each kind of keys has its own first letter, and within a kind the offset is cut from the path. -/
theorem chars_injective : Function.Injective chars := by
  intro first second same
  have letters := congrArg List.head? same
  rw [head?_chars, head?_chars, Option.some.injEq] at letters
  cases first with
  | info path =>
    cases second with
    | info other => rw [String.toList_inj.mp (List.append_cancel_left same)]
    | read other place => simp [letter] at letters
    | write other place => simp [letter] at letters
  | read path offset =>
    cases second with
    | info other => simp [letter] at letters
    | read other place =>
      obtain ⟨paths, offsets⟩ := Text.number_behind (by decide) (List.append_cancel_left same)
      rw [String.toList_inj.mp paths, UInt64.toNat_inj.mp offsets]
    | write other place => simp [letter] at letters
  | write path offset =>
    cases second with
    | info other => simp [letter] at letters
    | read other place => simp [letter] at letters
    | write other place =>
      obtain ⟨offsets, paths⟩ := Text.number_before (by decide) (List.append_cancel_left same)
      rw [String.toList_inj.mp paths, UInt64.toNat_inj.mp offsets]

/-- Different keys have different texts. -/
theorem text_inj {first second : RequestKey} : first.text = second.text ↔ first = second := by
  rw [← String.toList_inj, toList_text, toList_text]
  exact chars_injective.eq_iff

end RequestKey

/-- The wording of a request that timed out: a space stands before the digits of the time. -/
theorem Failure.toList_message_requestTimeout (key : RequestKey) (milliseconds : Nat) :
    (requestTimeout key milliseconds).message.toList = "Request ".toList ++
      (key.text.toList ++ " timed out after".toList ++ ' ' :: Nat.toDigits 10 milliseconds) ++
        "ms".toList := by
  have cut : " timed out after ".toList = " timed out after".toList ++ [' '] := rfl
  change ("Request " ++ key.text ++ " timed out after " ++ toString milliseconds ++ "ms").toList = _
  simp only [String.toList_append, cut, Nat.toString_eq_repr, Nat.toList_repr, List.append_assoc,
    List.singleton_append]

/-- The text of a key names this key and no other one, whatever its path is, also where it stands in the
wording of a request that timed out. -/
theorem key_named (first second : RequestKey) :
    (first.text = second.text ↔ first = second) ∧
      ∀ time limit, (Failure.requestTimeout first time).message =
        (Failure.requestTimeout second limit).message ↔ first = second ∧ time = limit := by
  refine ⟨RequestKey.text_inj, fun time limit => ⟨fun same => ?_, by rintro ⟨rfl, rfl⟩; rfl⟩⟩
  have chars := congrArg String.toList same
  rw [Failure.toList_message_requestTimeout, Failure.toList_message_requestTimeout,
    List.append_cancel_right_eq, List.append_cancel_left_eq] at chars
  obtain ⟨texts, times⟩ := Text.number_behind (by decide) chars
  exact ⟨RequestKey.text_inj.mp (String.toList_inj.mp (List.append_cancel_right texts)), times⟩

end RemoteAgent
