import RemoteAgent.Proofs.Url.Authorities

/-!
# Where the query of a URL begins

Whatever text a URL of a web scheme is read from, its written form has neither a question mark nor a
number sign before its query: user names, passwords and segments have theirs escaped, and no host may
have one. So the written form up to its first question mark is the one without a query
(`takeWhile_text`), also after segments have been added to the path, and no fragment begins before the
query.
-/

namespace RemoteAgent

/-- The characters at which a query and a fragment begin. -/
def Url.marks : List Char := ['?', '#']

/-- A text in which no query begins, and no fragment. -/
def IsBare (text : String) : Prop := ∀ mark ∈ Url.marks, mark ∉ text.toList

instance (text : String) : Decidable (IsBare text) := List.decidableBAll _ _

/-- There are two marks. -/
theorem Url.forall_mark {holds : Char → Prop} (question : holds '?') (number : holds '#') :
    ∀ mark ∈ marks, holds mark :=
  List.forall_mem_cons.mpr ⟨question, List.forall_mem_singleton.mpr number⟩

namespace IsBare

variable {first second : String}

/-- Texts without marks have none side by side. -/
theorem append (left : IsBare first) (right : IsBare second) : IsBare (first ++ second) := by
  intro mark isMark
  simp only [String.toList_append, List.mem_append, not_or]
  exact ⟨left mark isMark, right mark isMark⟩

/-- Texts without marks have none when they are joined. -/
theorem intercalate {separator : String} {parts : List String} (between : IsBare separator)
    (bare : ∀ part ∈ parts, IsBare part) : IsBare (separator.intercalate parts) := by
  intro mark isMark
  rw [String.toList_intercalate]
  induction parts with
  | nil => simp [List.intercalate]
  | cons part later inductionHypothesis =>
    obtain ⟨own, others⟩ := List.forall_mem_cons.mp bare
    cases later with
    | nil => simpa [List.intercalate] using own mark isMark
    | cons next more =>
      have rest := inductionHypothesis others
      simp only [List.map_cons, List.intercalate, List.intersperse_cons_cons, List.flatten_cons,
        List.mem_append, not_or] at rest ⊢
      exact ⟨own mark isMark, between mark isMark, by simpa [List.intercalate] using rest⟩

/-- Decimal numbers have no marks. -/
theorem toString (number : Nat) : IsBare (toString number) := by
  intro mark isMark member
  have apart : ∀ mark ∈ Url.marks, mark.isDigit = false :=
    Url.forall_mark (by decide) (by decide)
  have digits : mark ∈ Nat.toDigits 10 number := by simpa using member
  have digit := Nat.isDigit_of_mem_toDigits (by decide) (by decide) digits
  rw [apart mark isMark] at digit
  cases digit

end IsBare

namespace Url

/-- The written form of a URL. -/
def text (url : Url) : String :=
  match url.query with
  | none => url.redacted
  | some query => url.redacted ++ "?" ++ query

/-! ## Escapes -/

/-- A text has no marks once they are escaped. -/
theorem Percent.isBare_encode {escapes : EscapeSet}
    (escaped : escapes 0x3F = true ∧ escapes 0x23 = true) (text : String) :
    IsBare (encode escapes text) :=
  forall_mark (notMem_encode_of_escaped (by decide) escaped.1 text)
    (notMem_encode_of_escaped (by decide) escaped.2 text)

/-! ## Hosts -/

/-- Hexadecimal numbers have no marks. -/
theorem isBare_hex (value : Nat) : IsBare (String.ofList (Text.hex value)) := by
  intro mark isMark
  have digit : ∀ {d}, d < 16 → mark ≠ Text.hexDigit d := by
    intro d small
    have all : ∀ mark ∈ marks, ∀ d : Fin 16, mark ≠ Text.hexDigit d.val :=
      forall_mark (by decide) (by decide)
    exact all mark isMark ⟨d, small⟩
  rw [String.toList_ofList]
  induction value using Text.hex.induct with
  | case1 value small =>
    rw [Text.hex, if_pos small]
    simpa using digit small
  | case2 value large inductionHypothesis =>
    rw [Text.hex, if_neg large]
    simpa using ⟨inductionHypothesis, digit (Nat.mod_lt _ (by decide))⟩

/-- An IPv4 address has no marks. -/
theorem Ipv4.isBare_text (address : Nat) : IsBare (text address) := by
  refine IsBare.intercalate (by decide) fun part member => ?_
  obtain ⟨unit, _, rfl⟩ := List.mem_map.mp member
  exact IsBare.toString _

/-- An IPv6 address has no marks. -/
theorem Ipv6.isBare_text (pieces : List Nat) : IsBare (text pieces) := by
  have shown : ∀ pieces, IsBare (shownPieces pieces) := by
    intro pieces
    refine IsBare.intercalate (by decide) fun part member => ?_
    obtain ⟨piece, _, rfl⟩ := List.mem_map.mp member
    exact isBare_hex piece
  unfold text
  split
  split
  · exact shown _
  · exact ((shown _).append (by decide)).append (shown _)

/-- The lower case of a character is a mark only if the character is one. -/
theorem eq_mark_of_toLower {mark : Char} (isMark : mark ∈ marks) {c : Char}
    (lower : c.toLower = mark) : c = mark := by
  unfold Char.toLower at lower
  split at lower
  · next upper =>
    have early : ∀ mark ∈ marks, mark.val.toNat < 97 := forall_mark (by decide) (by decide)
    have bound := early mark isMark
    have code := congrArg (fun c : Char => c.val.toNat) lower
    simp only [UInt32.le_iff_toNat_le, UInt32.toNat_add, ge_iff_le] at upper code
    have least : 'A'.val.toNat = 65 := rfl
    have most : 'Z'.val.toNat = 90 := rfl
    have apart : ('a'.val - 'A'.val).toNat = 32 := rfl
    omega
  · exact lower

variable {idna : Idna}

/-- A name has no marks, however names beyond ASCII are written: both are forbidden in it. -/
theorem isBare_name {octets : Bytes} {chars : List Char} (read : name? idna octets = .ok chars) :
    IsBare (String.ofList chars) := by
  have forbidden : ∀ mark ∈ marks, isForbiddenInName mark = true :=
    forall_mark (by decide) (by decide)
  unfold name? at read
  split at read
  · cases read
  · split at read
    · cases read
    · split at read
      · cases read
      · next allowed =>
        cases read
        intro mark isMark member
        rw [String.toList_ofList] at member
        exact allowed (List.any_eq_true.mpr ⟨mark, member, forbidden mark isMark⟩)

/-- No host that is read has marks. -/
theorem Host.isBare_text {chars : List Char} {host : Host}
    (read : Host.parse idna chars = .ok host) : IsBare host.text := by
  have address : ∀ pieces, IsBare (Host.ipv6 pieces).text := fun pieces =>
    ((show IsBare "[" by decide).append (Ipv6.isBare_text pieces)).append (by decide)
  unfold Host.parse at read
  split at read
  · next found =>
    subst read
    unfold bracketed? at found
    split at found
    · split at found
      · split at found <;> cases found
        exact address _
      · cases found
    · cases found
  · cases named : name? idna (Percent.decode (Utf8.encode (String.ofList chars))) with
    | error fault => simp [named, bind, Except.bind] at read
    | ok name =>
      simp only [named, bind, Except.bind] at read
      split at read
      · cases read
      · split at read
        · cases parsed : Ipv4.parse name with
          | error fault => simp [parsed] at read
          | ok number =>
            rw [parsed] at read
            cases read
            exact Ipv4.isBare_text number
        · cases read
          exact isBare_name named

/-! ## User names and passwords -/

/-- User names and passwords that are read have their marks escaped. -/
theorem isBare_userinfo {web : Bool} {chars rest : List Char} {username password : String}
    (read : userinfo web chars = .ok (username, password, rest)) :
    IsBare username ∧ IsBare password := by
  have empty : IsBare "" := by decide
  have escaped : ∀ text, IsBare (Percent.encode Percent.userinfo text) :=
    Percent.isBare_encode (by decide)
  unfold userinfo at read
  simp only at read
  split at read
  · cases read
    exact ⟨empty, empty⟩
  · split at read
    · cases read
    · cases read
      exact ⟨empty, empty⟩
  · obtain ⟨rfl, rfl, _⟩ : _ = username ∧ _ = password ∧ _ = rest := by
      simpa only [Except.ok.injEq, Prod.mk.injEq] using read
    exact ⟨escaped _, escaped _⟩

/-! ## Paths -/

namespace Path

/-- Segments that are read have their marks escaped. -/
theorem isBare_ofChars (chars : List Char) : Each IsBare (ofChars chars) :=
  Each.ofChars (by decide) fun _ _ => Percent.isBare_encode (by decide) _

/-- Segments that are added have their marks escaped. -/
theorem isBare_foldl_push {path : Path} (bare : Each IsBare path) (names : List String) :
    Each IsBare (names.foldl push path) :=
  bare.foldl_push (by decide) (Percent.isBare_encode (by decide)) names

/-- Without marks in its segments, a path has none. -/
theorem isBare_text {path : Path} (bare : Each IsBare path) : IsBare path.text :=
  IsBare.append (by decide) (IsBare.intercalate (by decide) bare)

end Path

/-! ## URLs -/

/-- No part of a URL before its query has a mark. -/
structure IsBare (url : Url) : Prop where
  scheme : RemoteAgent.IsBare url.scheme
  username : RemoteAgent.IsBare url.username
  password : RemoteAgent.IsBare url.password
  host : RemoteAgent.IsBare url.host.text
  path : url.path.Each RemoteAgent.IsBare

/-- A scheme has no marks. -/
theorem isBare_of_scheme? {chars rest : List Char} {scheme : String}
    (read : scheme? chars = some (scheme, rest)) : RemoteAgent.IsBare scheme := by
  unfold scheme? at read
  split at read
  · split at read
    · split at read
      · cases read
        intro mark isMark member
        rw [String.toList_ofList] at member
        obtain ⟨c, own, lower⟩ := List.mem_map.mp member
        rw [eq_mark_of_toLower isMark lower] at own
        have apart : ∀ mark ∈ marks, isSchemeChar mark = false :=
          forall_mark (by decide) (by decide)
        have inside := List.all_eq_true.mp (List.all_takeWhile) _ own
        rw [apart mark isMark] at inside
        cases inside
      · cases read
    · cases read
  · cases read

/-- What is read as a URL of a web scheme has no mark before its query. -/
theorem isBare_of_parse {text : String} {url : Url}
    (read : parse idna text = .ok (.web url)) : url.IsBare := by
  obtain ⟨scheme, rest, front, shown, named, parts, rfl⟩ := parse_parts read
  obtain ⟨username, password, behind, host, port, info, parsed, _, rfl⟩ := upToPath_parts parts
  obtain ⟨bareName, barePassword⟩ := isBare_userinfo info
  exact ⟨isBare_of_scheme? named, bareName, barePassword, Host.isBare_text parsed,
    Path.isBare_ofChars _⟩

/-- Without marks in its parts, a URL has none before its query. -/
theorem IsBare.redacted {url : Url} (bare : url.IsBare) : RemoteAgent.IsBare url.redacted := by
  have empty : RemoteAgent.IsBare "" := by decide
  have credentials : RemoteAgent.IsBare url.credentials := by
    unfold credentials
    split
    · exact empty
    · split
      · exact bare.username.append (by decide)
      · exact ((bare.username.append (by decide)).append bare.password).append (by decide)
  have port : RemoteAgent.IsBare url.portText := by
    unfold portText
    split
    · exact empty
    · exact RemoteAgent.IsBare.append (by decide) (RemoteAgent.IsBare.toString _)
  exact ((((bare.scheme.append (by decide)).append credentials).append bare.host).append port).append
    (Path.isBare_text bare.path)

/-- The written form of a URL up to its first question mark is the one without its query. -/
theorem IsBare.takeWhile_text {url : Url} (bare : url.IsBare) :
    String.ofList (url.text.toList.takeWhile (· != '?')) = url.redacted := by
  have before : ∀ c ∈ url.redacted.toList, (c != '?') = true := by
    intro c member
    rw [bne_iff_ne]
    rintro rfl
    exact bare.redacted '?' (by decide) member
  unfold text
  split
  · rw [List.takeWhile_eq_self_iff.mpr before, String.ofList_toList]
  · next query _ =>
    rw [String.append_assoc, String.toList_append, List.takeWhile_append_of_pos before]
    simp

end Url

end RemoteAgent
