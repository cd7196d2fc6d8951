import RemoteAgent.Client.Description
import RemoteAgent.Proofs.Client.Veils
import RemoteAgent.Proofs.Url.Queries

/-!
# What diagnostics show of the API key

Two drafts that differ in their API keys only are refused with the same failure, or become
configurations that differ in the queries of their URLs only (`check_withKey`). No description shows
a query, and no client looks at its URL (`run_veiled`), so that nothing that a client shows of itself
tells the keys apart, whatever happens to it (`key_hidden`). The configurations show their URLs up to
the first question mark, and the key stands behind it, for every endpoint that is accepted.
-/

namespace RemoteAgent

/-- The draft with an API key. -/
def Draft.withKey (draft : Draft) (key : String) : Draft := { draft with apiKey := some key }

/-- The configuration with another URL. -/
def Config.withUrl (config : Config) (url : Url) : Config := { config with url }

/-- The query of a draft with an API key. -/
def Draft.queryFor (draft : Draft) (key : String) : String :=
  Url.Form.encode (credentials key draft.agentId)

/-- Two configurations show the same. -/
structure Config.LooksAs (config other : Config) : Prop where
  /-- The endpoint as logs show it. -/
  endpoint : config.url.redacted = other.url.redacted
  client : ∀ phase, Describe.client config phase = Describe.client other phase
  connection : ∀ phase, Describe.connection config phase = Describe.connection other phase
  terminal : Describe.terminal config = Describe.terminal other
  fileService : ∀ pending, Describe.fileService config pending = Describe.fileService other pending
  /-- After the same actions, the clients are in the same phase with as many requests in flight, and
  have done the same. -/
  run : ∀ actions, (Client.ran config actions).phase = (Client.ran other actions).phase ∧
    (Client.ran config actions).requests.pending = (Client.ran other actions).requests.pending ∧
    (Client.ran config actions).trace = (Client.ran other actions).trace

/-- A URL whose query is all that stands behind its first question mark. -/
structure Url.EndsIn (url : Url) (query : String) : Prop where
  written : url.text = url.redacted ++ "?" ++ query
  shown : String.ofList (url.text.toList.takeWhile (· != '?')) = url.redacted

/-- An API key is hidden: another one in its place makes no difference that can be seen. -/
structure HidesKey (idna : Url.Idna) (draft : Draft) (first second : String) : Prop where
  description : Describe.draft (draft.withKey first) = Describe.draft (draft.withKey second)
  /-- Both drafts are refused with the same failure, or both are accepted. -/
  outcome : (∃ failure, (draft.withKey first).check idna = .error failure ∧
      (draft.withKey second).check idna = .error failure) ∨
    ∃ config other, (draft.withKey first).check idna = .ok config ∧
      (draft.withKey second).check idna = .ok other ∧ config.LooksAs other ∧
      config.url.EndsIn (draft.queryFor first) ∧ other.url.EndsIn (draft.queryFor second)

/-! ## Drafts -/

namespace Draft

variable (idna : Url.Idna) (draft : Draft) (first second : String)

/-- The API key goes into the query, and nowhere else. -/
theorem socketUrl_withKey (agent : String) :
    (draft.withKey second).socketUrl idna agent = ((draft.withKey first).socketUrl idna agent).map
      fun url => { url with query := some (draft.queryFor second) } := by
  unfold socketUrl
  simp only [withKey]
  cases draft.endpoint with
  | none => rfl
  | some endpoint =>
    simp only
    cases Url.parse idna endpoint with
    | error fault => rfl
    | ok reading =>
      cases reading with
      | other scheme => rfl
      | web url =>
        simp only
        split <;> rfl

theorem check_withKey : (draft.withKey second).check idna = ((draft.withKey first).check idna).map
    fun config => config.withUrl { config.url with query := some (draft.queryFor second) } := by
  have named : ∀ key, (draft.withKey key).agentName = draft.agentName := fun _ => rfl
  simp only [check, named, bind, Except.bind]
  cases draft.agentName with
  | error failure => rfl
  | ok agent =>
    simp only [socketUrl_withKey idna draft first second agent]
    cases (draft.withKey first).socketUrl idna agent with
    | error failure => rfl
    | ok url =>
      -- The checks behind the URL do not look at it.
      simp only [apply_ite (Except.map _)]
      rfl

variable {idna draft first}

/-- The URL of a draft is the one of its endpoint with segments behind its path and a query. -/
theorem isBare_of_socketUrl {agent : String} {url : Url}
    (made : (draft.withKey first).socketUrl idna agent = .ok url) :
    url.IsBare ∧ url.query = some (draft.queryFor first) := by
  unfold socketUrl at made
  simp only [withKey] at made
  split at made
  · cases made
  · cases made
  · next endpoint key _ same =>
    split at made
    · cases made
    · cases made
    · next parsed read =>
      split at made
      · cases made
        cases same
        have bare := Url.isBare_of_parse read
        refine ⟨{ bare with path := ?_ }, rfl⟩
        exact Url.Path.isBare_foldl_push bare.path.withoutSlash _
      · cases made

/-- The query of an accepted draft is all that stands behind the first question mark. -/
theorem endsIn_of_check {config : Config} (accepted : (draft.withKey first).check idna = .ok config) :
    config.url.EndsIn (draft.queryFor first) := by
  obtain ⟨agent, made⟩ : ∃ agent, (draft.withKey first).socketUrl idna agent = .ok config.url := by
    simp only [check, bind, Except.bind] at accepted
    split at accepted
    · cases accepted
    · next agent _ =>
      split at accepted
      · cases accepted
      · next url made =>
        split at accepted
        · cases accepted
        · split at accepted
          · cases accepted
          · cases accepted
            exact ⟨agent, made⟩
  obtain ⟨bare, query⟩ := isBare_of_socketUrl made
  refine ⟨?_, bare.takeWhile_text⟩
  rw [Url.text, query]

end Draft

/-! ## Clients -/

namespace Client

/-- What is done behind a veil that shows the terminal is done in front of it. -/
theorem run_veiled {veil : Veil} (shows : veil.hidesTerminal = false) {config : Config}
    {client : Client} (reachable : Reachable config client) (actions : List Action) :
    (client.run actions).veiled veil = (client.veiled veil).run actions := by
  induction actions generalizing client with
  | nil => rfl
  | cons action later inductionHypothesis =>
    have stepped : (client.step action).veiled veil = (client.veiled veil).step action :=
      step_veiled veil client reachable.asksForFiles (by simp [shows])
    exact (inductionHypothesis (reachable.step action)).trans (congrArg (·.run later) stepped)

end Client

theorem Config.looksAs_withUrl (config : Config) (query : Option String) :
    config.LooksAs (config.withUrl { config.url with query }) where
  endpoint := rfl
  client _ := rfl
  connection _ := rfl
  terminal := rfl
  fileService _ := rfl
  run actions := by
    let veil : Veil := ⟨fun url => { url with query }, false⟩
    have same : (Client.ran config actions).veiled veil =
        Client.ran (config.withUrl { config.url with query }) actions :=
      Client.run_veiled rfl .initial actions
    rw [← same]
    refine ⟨rfl, rfl, (List.filter_eq_self.mpr fun event _ => ?_).symm⟩
    exact Bool.or_true _

/-- Whatever the API keys are, nothing that is shown tells them apart. -/
theorem key_hidden (idna : Url.Idna) (draft : Draft) (first second : String) :
    HidesKey idna draft first second where
  description := rfl
  outcome := by
    have same := draft.check_withKey idna first second
    cases checked : (draft.withKey first).check idna with
    | error failure =>
      rw [checked] at same
      exact .inl ⟨failure, rfl, same⟩
    | ok config =>
      rw [checked] at same
      exact .inr ⟨config, _, rfl, same, config.looksAs_withUrl _, Draft.endsIn_of_check checked,
        Draft.endsIn_of_check same⟩

end RemoteAgent
