import RemoteAgent.Proofs.Client.Secrecy
import RemoteAgent.Proofs.Url.Endpoints
import RemoteAgent.Proofs.Url.Forms

/-!
# URLs of sockets

The URL of a socket is the one of the endpoint with another path and another query. The path names
the agent, and nothing else depends on the name. The name has a segment of its own exactly if it is
not empty, no dot segment, and free of the characters that no URL has (`agent_has_segment`): a dot
segment is not added at all, and a name that loses characters shares its segment with another one.
The query carries the credentials and nothing else, whatever characters they have, and what stands
behind the path of the endpoint is dropped, with one slash at its end (`credentials_carried`). Of two
slashes there, one is kept (`doubled_slash_kept`). All of this holds however names beyond ASCII are
written in ASCII.
-/

namespace RemoteAgent

/-! ## Names in paths -/

namespace Url.Path

/-- A name that stands for itself as a segment: not empty, no dot segment, and without the
characters that are dropped from URLs. -/
structure IsPlain (name : String) : Prop where
  full : name ≠ ""
  undotted : name ≠ "." ∧ name ≠ ".."
  kept : ∀ c ∈ name.toList, c ≠ '\t' ∧ c ≠ '\n' ∧ c ≠ '\r'

/-- Behind the stem of a base, a path names an agent with one segment, which stands for nothing
else. -/
structure Shows (base path : Path) (agent segment : String) : Prop where
  written : path.text = base.stem ++ "/api/agent/" ++ segment ++ "/omni/"
  full : segment ≠ ""
  single : '/' ∉ segment.toList ∧ '\\' ∉ segment.toList ∧ '?' ∉ segment.toList ∧
    '#' ∉ segment.toList
  undotted : isSingleDot segment = false ∧ isDoubleDot segment = false
  decoded : Percent.decode (Utf8.encode segment) = Utf8.encode agent

/-- A name is kept whole if it has no tab and no line end. -/
theorem kept_eq_self {name : String} :
    kept name = name ↔ ∀ c ∈ name.toList, c ≠ '\t' ∧ c ≠ '\n' ∧ c ≠ '\r' := by
  rw [kept, ← String.toList_inj, String.toList_ofList, List.filter_eq_self]
  simp only [isDropped, Bool.not_eq_true', Bool.or_eq_false_iff, beq_eq_false_iff_ne, ne_eq,
    and_assoc]

/-- A plain word becomes a segment of its own. -/
theorem push_word (path : Path) {word : String} (undotted : ¬(word = "." ∨ word = ".."))
    (whole : kept word = word) (unescaped : shown word = word) :
    path.push word = rooted path ++ [word] := by
  rw [push_eq, if_neg undotted, whole, unescaped, if_neg (fun dots => undotted (.inr dots)),
    if_neg (fun dot => undotted (.inl dot))]

end Url.Path

namespace Draft

open Url Url.Path

/-- What stands between `api` and `omni` in the path of a socket. -/
def agentSegments (agent : String) : Path :=
  if agent = "." ∨ agent = ".." then ["agent"]
  else if kept agent = ".." then [""]
  else if kept agent = "." then ["agent", ""]
  else ["agent", shown agent]

theorem agentSegments_ne_nil (agent : String) : agentSegments agent ≠ [] := by
  unfold agentSegments
  split_ifs <;> simp

/-- What the name of an agent becomes behind `agent`. -/
theorem push_agent (path : Path) (agent : String) : (path ++ ["api"] ++ ["agent"]).push agent =
    path ++ ["api"] ++ agentSegments agent := by
  have rooted : rooted (path ++ ["api"] ++ ["agent"]) = path ++ ["api"] ++ ["agent"] :=
    rooted_concat (.inr (by decide))
  have parent : parent (path ++ ["api"] ++ ["agent"]) = path ++ ["api"] := by
    rw [Path.parent, List.getLast?_concat, List.dropLast_concat]
    rfl
  rw [push_eq, rooted, parent, agentSegments]
  split_ifs <;> simp only [List.append_assoc, List.cons_append, List.nil_append]

/-- The path of a socket by its segments. -/
theorem socketPath_eq (base : Path) (agent : String) : socketPath base agent =
    rooted base.withoutSlash ++ ["api"] ++ agentSegments agent ++ ["omni", ""] := by
  have word : ∀ (path : Path), ∀ word ∈ ["api", "agent", "omni", ""],
      path.push word = rooted path ++ [word] := by
    intro path word member
    have plain : ∀ word ∈ ["api", "agent", "omni", ""],
        ¬(word = "." ∨ word = "..") ∧ kept word = word ∧ shown word = word := by decide
    obtain ⟨undotted, whole, unescaped⟩ := plain word member
    exact push_word path undotted whole unescaped
  have apart : rooted base.withoutSlash ++ ["api"] ++ agentSegments agent ≠ [""] := by
    obtain ⟨first, rest, some⟩ := List.exists_cons_of_ne_nil (agentSegments_ne_nil agent)
    simp [some, List.append_eq_singleton_iff]
  rw [socketPath]
  simp only [List.foldl_cons, List.foldl_nil]
  rw [word _ "api" (by simp), word _ "agent" (by simp), rooted_concat (.inr (by decide)), push_agent,
    word _ "omni" (by simp), rooted, if_neg apart, word _ "" (by simp),
    rooted_concat (.inr (by decide)), List.append_assoc _ ["omni"]]
  rfl

/-- The path of a socket as it is written. -/
theorem text_socketPath {base : Path} (full : base ≠ []) (whole : base.Each IsWhole)
    (agent : String) : (socketPath base agent).text =
      base.stem ++ "/api" ++ joined (agentSegments agent) ++ "/omni/" := by
  rw [text_eq_joined (by simp [socketPath_eq]), socketPath_eq, joined_append, joined_append,
    joined_append, joined_withoutSlash full whole]
  rfl

theorem joined_agent (segment : String) : joined ["agent", segment] = "/agent/" ++ segment := by
  have none : joined [] = "" := rfl
  rw [joined_cons, joined_cons, none, String.append_empty, ← String.append_assoc]
  rfl

/-- Only a name that is no dot segment has a segment of its own between `agent` and `omni`. -/
theorem shown_of_joined {agent segment : String} (full : segment ≠ "")
    (same : joined (agentSegments agent) = "/agent/" ++ segment) :
    agent ≠ "." ∧ agent ≠ ".." ∧ shown agent = segment := by
  have counted := congrArg String.length same
  rw [String.length_append] at counted
  have front : "/agent/".length = 7 := rfl
  unfold agentSegments at same counted
  split_ifs at same counted with dots parent single
  · have alone : (joined ["agent"]).length = 6 := rfl
    omega
  · have empty : (joined [""]).length = 1 := rfl
    omega
  · rw [joined_agent, String.append_right_inj] at same
    exact absurd same.symm full
  · obtain ⟨dot, dots⟩ := not_or.mp dots
    rw [joined_agent, String.append_right_inj] at same
    exact ⟨dot, dots, same⟩

/-- A plain name becomes one segment behind `agent`. -/
theorem agentSegments_of_plain {agent : String} (plain : IsPlain agent) :
    agentSegments agent = ["agent", shown agent] := by
  obtain ⟨dot, dots⟩ := plain.undotted
  rw [agentSegments, if_neg (not_or.mpr plain.undotted), kept_eq_self.mpr plain.kept, if_neg dots,
    if_neg dot]

/-- The path of a socket shows the names that are plain, and no others. -/
theorem shows_iff {base : Path} (full : base ≠ []) (whole : base.Each IsWhole)
    {agent segment : String} : Shows base (socketPath base agent) agent segment ↔
      IsPlain agent ∧ segment = shown agent := by
  have split : base.stem ++ "/api/agent/" ++ segment ++ "/omni/" =
      base.stem ++ "/api" ++ ("/agent/" ++ segment) ++ "/omni/" := by
    have front : "/api/agent/" = "/api" ++ "/agent/" := rfl
    rw [front]
    simp only [String.append_assoc]
  constructor
  · intro shows
    have same := (text_socketPath full whole agent).symm.trans (shows.written.trans split)
    rw [String.append_left_inj, String.append_right_inj] at same
    obtain ⟨dot, dots, own⟩ := shown_of_joined shows.full same
    have kept : kept agent = agent := kept_eq_of_decoded (own ▸ shows.decoded)
    refine ⟨⟨?_, ⟨dot, dots⟩, kept_eq_self.mp kept⟩, own.symm⟩
    rintro rfl
    exact shows.full (own.symm.trans (by decide))
  · rintro ⟨plain, rfl⟩
    obtain ⟨dot, dots⟩ := plain.undotted
    have kept := kept_eq_self.mpr plain.kept
    exact {
      written := by
        rw [text_socketPath full whole, agentSegments_of_plain plain, joined_agent, split]
      full := fun empty => plain.full (kept.symm.trans (Percent.encode_eq_empty empty))
      single := by
        have hidden : ∀ {c : Char}, Percent.IsApart c →
            Percent.segment (UInt8.ofNat c.toNat) = true → c ∉ (shown agent).toList :=
          fun apart escaped => Percent.notMem_encode_of_escaped apart escaped _
        exact ⟨hidden (by decide) (by decide), hidden (by decide) (by decide),
          hidden (by decide) (by decide), hidden (by decide) (by decide)⟩
      undotted := by
        rw [← Bool.not_eq_true, ← Bool.not_eq_true, isSingleDot_shown, isDoubleDot_shown, kept]
        exact ⟨dot, dots⟩
      decoded := by rw [decode_shown, kept] }

/-- Different plain names make different paths. -/
theorem eq_of_text_socketPath {base : Path} (full : base ≠ []) (whole : base.Each IsWhole)
    {agent other : String} (plain : IsPlain agent) (otherPlain : IsPlain other)
    (same : (socketPath base agent).text = (socketPath base other).text) : agent = other := by
  rw [text_socketPath full whole, text_socketPath full whole, String.append_left_inj,
    String.append_right_inj, agentSegments_of_plain plain, agentSegments_of_plain otherPlain,
    joined_agent, joined_agent, String.append_right_inj] at same
  have kept : kept agent = kept other := kept_eq_of_decoded (by rw [same, decode_shown])
  rwa [kept_eq_self.mpr plain.kept, kept_eq_self.mpr otherPlain.kept] at kept

/-! ## URLs -/

/-- A draft with an API key and with an endpoint that stands for the URL of a WebSocket. -/
structure IsBasedOn (draft : Draft) (idna : Url.Idna) (endpoint key : String) (base : Url) :
    Prop where
  named : draft.endpoint = some endpoint
  keyed : draft.apiKey = some key
  read : Url.parse idna endpoint = .ok (.web base)
  webSocket : base.scheme = "ws" ∨ base.scheme = "wss"

variable {idna : Url.Idna} {draft : Draft} {endpoint key : String} {base : Url}

/-- The URL of a socket is that of the endpoint, with another path and another query. -/
theorem IsBasedOn.socketUrl (based : draft.IsBasedOn idna endpoint key base) (agent : String) :
    draft.socketUrl idna agent = .ok { base with
      path := socketPath base.path agent
      query := some (draft.queryFor key) } := by
  have webSocket : (base.scheme = "ws" || base.scheme = "wss") = true := by
    simpa using based.webSocket
  simp only [Draft.socketUrl, based.named, based.keyed, based.read]
  rw [if_pos webSocket]
  rfl

/-- The path of an endpoint has segments, and they are whole. -/
theorem IsBasedOn.path (based : draft.IsBasedOn idna endpoint key base) :
    base.path ≠ [] ∧ base.path.Each IsWhole := by
  obtain ⟨_, _, _, _, _, _, rfl⟩ := parse_parts based.read
  exact ⟨ofChars_ne_nil _, isWhole_ofChars _⟩

/-- What the name of an agent does to the URL of its socket. -/
structure IsRouteTo (draft : Draft) (idna : Url.Idna) (key : String) (base : Url) (agent : String)
    (url : Url) : Prop where
  /-- Scheme, credentials, host, port and query do not depend on the name. -/
  rest : url = { base with path := url.path, query := some (draft.queryFor key) }
  /-- The name has a segment of its own exactly if it is plain. -/
  segment : (∃ segment, Shows base.path url.path agent segment) ↔ IsPlain agent
  /-- No other plain name has the same URL. -/
  alone : IsPlain agent → ∀ other, IsPlain other → ∀ url', draft.socketUrl idna other = .ok url' →
    url'.text = url.text → other = agent

end Draft

/-- The name of an agent has one segment of the URL of its socket, and the URL to itself, exactly if
the name is plain. No name has any effect on anything but the path. -/
theorem agent_has_segment {draft : Draft} {idna : Url.Idna} {endpoint key : String} {base : Url}
    (based : draft.IsBasedOn idna endpoint key base) (agent : String) :
    ∃ url, draft.socketUrl idna agent = .ok url ∧ draft.IsRouteTo idna key base agent url := by
  obtain ⟨full, whole⟩ := based.path
  refine ⟨_, based.socketUrl agent, rfl, ?_, ?_⟩
  · constructor
    · rintro ⟨segment, shows⟩
      exact ((Draft.shows_iff full whole).mp shows).1
    · intro plain
      exact ⟨_, (Draft.shows_iff full whole).mpr ⟨plain, rfl⟩⟩
  · intro plain other otherPlain url' made same
    rw [based.socketUrl other] at made
    cases made
    simp only [Url.text, Url.redacted, Url.credentials, Url.portText, String.append_left_inj,
      String.append_right_inj] at same
    exact Draft.eq_of_text_socketPath full whole otherPlain plain same

/-- The endpoint has a host beyond ASCII, a port, and a path whose slash is not doubled. -/
theorem agent_has_segment_of_base :
    let draft : Draft := { endpoint := some "ws://bücher.example:81/base/?x=y", apiKey := some "k" }
    let idna : Url.Idna := .ofList [("bücher.example", "xn--bcher-kva.example")]
    ∃ url, draft.socketUrl idna "my agent/#" = .ok url ∧
      url.redacted =
        "ws://xn--bcher-kva.example:81/base/api/agent/my%20agent%2F%23/omni/" ∧
      ∃ segment, Url.Path.Shows ["base", ""] url.path "my agent/#" segment := by
  intro draft idna
  have plain : Url.Path.IsPlain "my agent/#" :=
    ⟨by decide, by decide, Url.Path.kept_eq_self.mp (by decide)⟩
  have based : draft.IsBasedOn idna "ws://bücher.example:81/base/?x=y" "k"
      { scheme := "ws", host := .name "xn--bcher-kva.example", port := some 81
        path := ["base", ""] } :=
    ⟨rfl, rfl, by decide +kernel, .inl rfl⟩
  obtain ⟨url, made, route⟩ := agent_has_segment based "my agent/#"
  refine ⟨url, made, ?_, route.segment.mpr plain⟩
  rw [based.socketUrl "my agent/#"] at made
  cases made
  decide +kernel

/-- A dot segment is left out of the path, and a tab is left out of the name. -/
theorem unplain_agents_unnamed :
    let draft : Draft := { endpoint := some "ws://h", apiKey := some "k" }
    let idna : Url.Idna := .ofList []
    draft.socketUrl idna "." =
        .ok { scheme := "ws", host := .name "h", path := ["api", "agent", "omni", ""]
              query := some "api_key=k" } ∧
      draft.socketUrl idna ".." = draft.socketUrl idna "." ∧
      (∀ segment, ¬Url.Path.Shows [""] ["api", "agent", "omni", ""] "." segment) ∧
      draft.socketUrl idna "a\tb" = draft.socketUrl idna "ab" := by
  refine ⟨by decide +kernel, by decide +kernel, fun segment shows => ?_, by decide +kernel⟩
  have counted := congrArg String.length shows.written
  simp only [String.length_append] at counted
  have whole : (Url.Path.text ["api", "agent", "omni", ""]).length = 16 := by decide
  have front : "/api/agent/".length = 11 := rfl
  have back : "/omni/".length = 6 := rfl
  omega

/-! ## Credentials -/

/-- The URL of a socket has the credentials in its query, and nothing else behind its path. -/
structure Draft.Presents (draft : Draft) (key : String) (base url : Url) : Prop where
  scheme : url.scheme = base.scheme
  userinfo : url.username = base.username ∧ url.password = base.password
  host : url.host = base.host
  port : url.port = base.port
  /-- The query is read as the key, and as the number of the agent if there is one. -/
  query : ∃ query, url.query = some query ∧ url.EndsIn query ∧
    Url.Form.decode query = ("api_key", key) ::
      (draft.agentId.map fun id => ("agent_id", toString id.value.toNat)).toList
  /-- No fragment begins. -/
  whole : '#' ∉ url.text.toList

/-- A draft has the same URL for other endpoints that differ only in what does not matter. -/
structure Draft.Settles (draft : Draft) (idna : Url.Idna) (endpoint agent : String)
    (base url : Url) : Prop where
  /-- The query, the fragment and one slash at the end of the path do not matter to the text, unless
  the slash follows another one. -/
  trunk : ∀ other, Url.trunk other = Url.trunk endpoint →
    ({ draft with endpoint := some other } : Draft).socketUrl idna agent = .ok url
  /-- One slash at the end of the path does not matter to what the text stands for. -/
  slash : ∀ other parsed, Url.parse idna other = .ok (.web parsed) → parsed.trimmed = base.trimmed →
    ({ draft with endpoint := some other } : Draft).socketUrl idna agent = .ok url

namespace Draft.IsBasedOn

variable {idna : Url.Idna} {draft : Draft} {endpoint key : String} {base : Url}

/-- The URL of a socket presents the credentials. -/
theorem presents (based : draft.IsBasedOn idna endpoint key base) {agent : String} {url : Url}
    (made : draft.socketUrl idna agent = .ok url) : draft.Presents key base url := by
  have same : draft.withKey key = draft := by rw [withKey, ← based.keyed]
  have keyed : (draft.withKey key).socketUrl idna agent = .ok url := by rw [same, made]
  obtain ⟨bare, query⟩ := isBare_of_socketUrl keyed
  have written : url.text = url.redacted ++ "?" ++ draft.queryFor key := by rw [Url.text, query]
  rw [based.socketUrl agent] at made
  cases made
  refine ⟨rfl, ⟨rfl, rfl⟩, rfl, rfl, ⟨_, rfl, ⟨written, bare.takeWhile_text⟩, ?_⟩, ?_⟩
  · rw [queryFor, Url.Form.decode_encode, Draft.credentials.eq_def]
    cases draft.agentId <;> rfl
  · have hidden : '#' ∉ (draft.queryFor key).toList :=
      Url.Form.notMem_encode (by decide) (by decide) (by decide) (by decide) (by decide) _
    rw [written]
    simp only [String.toList_append, List.mem_append, not_or]
    exact ⟨⟨bare.redacted '#' (by decide), by decide⟩, hidden⟩

/-- Only the base without its final slash matters to the URL. -/
theorem socketUrl_of_trimmed (based : draft.IsBasedOn idna endpoint key base) {other : String}
    {parsed : Url} (read : Url.parse idna other = .ok (.web parsed))
    (same : parsed.trimmed = base.trimmed) (agent : String) :
    ({ draft with endpoint := some other } : Draft).socketUrl idna agent =
      draft.socketUrl idna agent := by
  have scheme : parsed.scheme = base.scheme :=
    show parsed.trimmed.scheme = base.trimmed.scheme from congrArg Url.scheme same
  have otherBased :
      ({ draft with endpoint := some other } : Draft).IsBasedOn idna other key parsed :=
    ⟨rfl, based.keyed, read, scheme ▸ based.webSocket⟩
  have shape : ∀ url : Url, ({ url with
      path := socketPath url.path agent
      query := some (draft.queryFor key) } : Url) = { url.trimmed with
        path := ["api", "agent", agent, "omni", ""].foldl Url.Path.push url.trimmed.path
        query := some (draft.queryFor key) } := fun _ => rfl
  rw [otherBased.socketUrl, based.socketUrl, shape base, ← same, ← shape parsed]
  rfl

end Draft.IsBasedOn

/-- The query of the URL of a socket carries the credentials and nothing else, and the URL depends
neither on what stands behind the path of the endpoint nor on one slash at the end of it, unless that
slash follows another one (`doubled_slash_kept`). -/
theorem credentials_carried {draft : Draft} {idna : Url.Idna} {endpoint key : String} {base : Url}
    (based : draft.IsBasedOn idna endpoint key base) (agent : String) :
    ∃ url, draft.socketUrl idna agent = .ok url ∧ draft.Presents key base url ∧
      draft.Settles idna endpoint agent base url := by
  have made := based.socketUrl agent
  refine ⟨_, made, based.presents made, fun other same => ?_, fun other parsed read same => ?_⟩
  · obtain ⟨parsed, read, same⟩ := Url.parse_of_trunk_eq same based.read
    rw [based.socketUrl_of_trimmed read same, made]
  · rw [based.socketUrl_of_trimmed read same, made]

/-- An endpoint with a host beyond ASCII, a query and a fragment, and a key with the separators of
both. -/
theorem credentials_carried_of_separators :
    let draft : Draft :=
      { endpoint := some "wss://u@bücher.example/a/?b=c#d", apiKey := some "k&=+%# é"
        agentId := some ⟨42⟩ }
    let idna : Url.Idna := .ofList [("bücher.example", "xn--bcher-kva.example")]
    ∃ url, draft.socketUrl idna "box" = .ok url ∧
      url.query = some "api_key=k%26%3D%2B%25%23+%C3%A9&agent_id=42" ∧
      ({ draft with endpoint := some "wss://u@bücher.example/a" } : Draft).socketUrl idna "box" =
        .ok url := by
  intro draft idna
  have based : draft.IsBasedOn idna "wss://u@bücher.example/a/?b=c#d" "k&=+%# é"
      { scheme := "wss", username := "u", host := .name "xn--bcher-kva.example"
        path := ["a", ""] } :=
    ⟨rfl, rfl, by decide +kernel, .inr rfl⟩
  obtain ⟨url, made, _, settles⟩ := credentials_carried based "box"
  refine ⟨url, made, ?_, settles.trunk "wss://u@bücher.example/a" (by decide +kernel)⟩
  rw [based.socketUrl "box"] at made
  cases made
  decide +kernel

/-- A slash that follows another one at the end of the path makes a difference: there is an empty
segment between them. -/
theorem doubled_slash_kept :
    let draft : Draft := { endpoint := some "ws://h/a/", apiKey := some "k" }
    let doubled : Draft := { endpoint := some "ws://h/a//", apiKey := some "k" }
    let idna : Url.Idna := .ofList []
    let base : Url := { scheme := "ws", host := .name "h", query := some "api_key=k" }
    draft.socketUrl idna "b" = .ok { base with path := ["a", "api", "agent", "b", "omni", ""] } ∧
      doubled.socketUrl idna "b" =
        .ok { base with path := ["a", "", "api", "agent", "b", "omni", ""] } ∧
      draft.socketUrl idna "b" ≠ doubled.socketUrl idna "b" := by
  decide +kernel

end RemoteAgent
