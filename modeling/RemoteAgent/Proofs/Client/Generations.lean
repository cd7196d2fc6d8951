import RemoteAgent.Proofs.Client.Lifecycle

/-!
# What is told of each generation

However a client is driven, every socket is announced as it opens, and as it ends, if somebody holds
the client then. After that each handler that was registered by the time of the announcement is told
once, in the order of registration. Nothing is told of a generation that no socket had, or of a
socket that ended unheard, and no end of a socket overwrites what the link has come to since
(`lifecycle_of_run`).
-/

namespace RemoteAgent.Client

/-- The client of a configuration after a run. -/
abbrev ran (config : Config) (actions : List Action) : Client :=
  (Client.initial config).run actions

/-- What a run has kept of the lifecycle, and has told of the sockets. -/
structure KeepsLifecycle (config : Config) (actions : List Action) : Prop where
  /-- Sockets opened under the generations from one on. -/
  consecutive : (ran config actions).openings =
    List.range' 1 (ran config actions).link.generations
  /-- The sockets that are there are among these, each under its own generation. -/
  numbered : ((ran config actions).link.sockets.map (·.generation)).Sublist
    (ran config actions).openings
  /-- The open socket is the newest one, and its end has not been announced. -/
  newest : ∀ generation, (ran config actions).link.lifecycle = .opened generation →
    generation = (ran config actions).link.generations ∧
      ((ran config actions).link.stage? generation = some .running ∨
        (ran config actions).link.stage? generation = some .broken) ∧
      (ran config actions).toldOf generation = []
  /-- What a socket does touches the lifecycle only when the end of the open one is reported. -/
  lifecycle : ∀ action generation, action.socket? = some generation →
    ((ran config actions).step action).link.lifecycle =
      if action = .report generation ∧
          (ran config actions).link.stage? generation = some .broken ∧
          (ran config actions).link.lifecycle = .opened generation
        then .idle else (ran config actions).link.lifecycle
  /-- Of sockets a step tells the news of its action, and nothing else. -/
  tells : ∀ action, ((ran config actions).step action).notices =
    ((ran config actions).news action).reverse ++ (ran config actions).notices
  /-- A socket that has ended stays until its end is reported. -/
  stays : ∀ action generation, (ran config actions).link.stage? generation = some .broken →
    action ≠ .report generation →
      ((ran config actions).step action).link.stage? generation = some .broken
  /-- Each socket opened in a step that told the terminal so. -/
  opens : ∀ generation ∈ (ran config actions).openings, ∃ before number later,
    actions = before ++ .resolve number :: later ∧
      (ran config before).link.generations + 1 = generation ∧
      (ran config before).link.lifecycle = .connecting number ∧
      (ran config before).news (.resolve number) = .opened generation number ::
        (ran config before).lines (StatusLine.connected.octets config.agent)
  /-- The first report of an end tells the terminal. Each further one tells a handler, until all are
  told that were registered by then, and the socket never ends again. -/
  ends : ∀ before generation later, actions = before ++ .report generation :: later →
    (ran config before).IsEnding generation →
      generation ∈ (ran config before).openings ∧
        (ran config before).news (.report generation) =
          (ran config before).lines (StatusLine.connectionClosed.octets config.agent) ∧
        (ran config before).toldOf generation = [] ∧
        (ran config actions).toldOf generation =
          (.fileService :: before.filterMap Action.handler?).take
            (later.count (.report generation)) ∧
        (ran config actions).link.stage? generation ≠ some .broken
  /-- Handlers are told of sockets that opened, and whose end was announced. -/
  heard : ∀ generation, (ran config actions).toldOf generation ≠ [] →
    generation ∈ (ran config actions).openings ∧ ∃ before later,
      actions = before ++ .report generation :: later ∧
        (ran config before).IsEnding generation

variable {config : Config} {actions : List Action} {client : Client} {generation : Nat}

/-- A socket that has ended stays so in any step but its report. -/
theorem broken_of_ne {action : Action} (broken : client.link.stage? generation = some .broken)
    (aside : action ≠ .report generation) :
    (client.step action).link.stage? generation = some .broken := by
  have passed := (client.step_tells action).passes generation
  rw [broken] at passed
  generalize (client.step action).link.stage? generation = next at passed
  cases passed with
  | stays => rfl
  | announces => exact absurd rfl aside
  | forgets => exact absurd rfl aside

/-- The report of the end of a socket turns to the handlers. -/
theorem IsEnding.reporting (ending : client.IsEnding generation) (sound : client.Sound) :
    (client.step (.report generation)).Reporting generation client.handlers := by
  obtain ⟨broken, held⟩ := ending
  obtain ⟨later, handlers, _⟩ := sound.handlers
  have passed := (client.step_tells (.report generation)).passes generation
  rw [broken] at passed
  rw [handlers]
  change (client.step (.report generation)).link.stage? generation = _
  generalize (client.step (.report generation)).link.stage? generation = next at passed
  cases passed with
  | stays aside => rcases aside rfl with none | running <;> simp at *
  | announces => rw [handlers]
  | forgets unheld =>
    rw [held] at unheld
    cases unheld

/-- The open socket is the newest one, and nobody was told of its end. -/
theorem Reachable.newest (reachable : Reachable config client)
    (opened : client.link.lifecycle = .opened generation) :
    generation = client.link.generations ∧
      (client.link.stage? generation = some .running ∨
        client.link.stage? generation = some .broken) ∧
      client.toldOf generation = [] := by
  obtain ⟨newest, socket, found, live⟩ := reachable.sound.link.opened opened
  have stage := stage?_of_found found
  have ahead : client.link.stage? generation = some .running ∨
      client.link.stage? generation = some .broken := by
    rw [stage]
    cases reached : socket.stage with
    | running => exact .inl rfl
    | broken => exact .inr rfl
    | reporting remaining => rw [Socket.isLive, reached] at live; cases live
  refine ⟨newest, ahead, reachable.unheard generation ?_ ?_⟩
  · rintro remaining reporting
    rcases ahead with running | broken
    · cases running.symm.trans reporting
    · cases broken.symm.trans reporting
  · intro none
    cases none.symm.trans stage

theorem generations_le_of_run (client : Client) (actions : List Action) :
    client.link.generations ≤ (client.run actions).link.generations := by
  induction actions generalizing client with
  | nil => exact Nat.le_refl _
  | cons action later inductionHypothesis =>
    exact Nat.le_trans (client.step_tells action).generations_le (inductionHypothesis _)

/-- A socket that is there has opened, and nothing that follows takes that back. -/
theorem Reachable.mem_openings (reachable : Reachable config client) {stage : Socket.Stage}
    (reached : client.link.stage? generation = some stage) (actions : List Action) :
    generation ∈ (client.run actions).openings := by
  obtain ⟨socket, found, _⟩ := Option.map_eq_some_iff.mp reached
  have named : socket.generation = generation := by simpa using List.find?_some found
  have opened := reachable.numbered.subset
    (List.mem_map_of_mem (List.mem_of_find?_eq_some found))
  have grown := generations_le_of_run client actions
  rw [named, List.mem_range'_1] at opened
  rw [(reachable.run actions).consecutive, List.mem_range'_1]
  omega

theorem Reporting.not_broken {remaining : List Handler}
    (reporting : client.Reporting generation remaining) :
    client.link.stage? generation ≠ some .broken := by
  intro broken
  cases remaining with
  | nil => cases reporting.1.symm.trans broken
  | cons handler later =>
    have stage : client.link.stage? generation = some (.reporting (handler :: later)) := reporting
    cases stage.symm.trans broken

/-- The announcement of the end of a socket tells the terminal, and no handler yet. -/
theorem IsEnding.news (ending : client.IsEnding generation) :
    client.news (.report generation) =
      client.lines (StatusLine.connectionClosed.octets client.config.agent) := by
  rw [Client.news, ending.1]
  exact if_pos ending.2

/-- Whatever a client goes through, its sockets open one after the other, each is announced as it
opens and as it ends, and every handler is told of the end once. -/
theorem lifecycle_of_run (config : Config) (actions : List Action) :
    KeepsLifecycle config actions := by
  have reachable : ∀ actions, Reachable config (ran config actions) :=
    fun actions => Reachable.initial.run actions
  have sameConfig : ∀ actions, (ran config actions).config = config :=
    fun actions => (reachable actions).config
  refine
    { consecutive := (reachable actions).consecutive
      numbered := ?_
      newest := fun generation => (reachable actions).newest
      lifecycle := fun action generation => step_lifecycle (reachable actions).sound
      tells := fun action => (step_tells _ action).notices
      stays := fun action generation => broken_of_ne
      opens := ?_
      ends := ?_
      heard := ?_ }
  · rw [(reachable actions).consecutive]
    exact (reachable actions).numbered
  · intro generation opened
    rcases opening_of_run opened with none | ⟨before, number, later, rfl, opening, rfl⟩
    · cases none
    · refine ⟨before, number, later, rfl, rfl, opening.1, ?_⟩
      rw [← congrArg Config.agent (sameConfig before)]
      exact if_pos opening
  · rintro before generation later rfl ending
    have sound := (reachable before).sound
    have unheard : (ran config before).toldOf generation = [] := by
      refine (reachable before).unheard generation ?_ ?_
      · rintro remaining reporting
        cases ending.1.symm.trans reporting
      · intro none
        cases ending.1.symm.trans none
    have announced : ((ran config before).step (.report generation)).toldOf generation = [] := by
      rw [(step_tells _ _).toldOf, unheard, ending.news]
      exact filterMap_lines (fun _ _ => rfl) _ _
    obtain ⟨rest, told⟩ := toldOf_run (sound.step _) (ending.reporting sound) later
    have whole : ran config (before ++ .report generation :: later) =
        ((ran config before).step (.report generation)).run later := run_append _ _ _
    have registered : (ran config before).handlers =
        .fileService :: before.filterMap Action.handler? := handlers_of_run ending.2
    refine ⟨(reachable before).mem_openings ending.1 [], ?_, unheard, ?_, ?_⟩
    · rw [ending.news, sameConfig before]
    · rw [whole, told, announced, registered]
      rfl
    · rw [whole]
      exact rest.not_broken
  · intro generation told
    rcases ending_of_run (.inl told) with (none | ⟨_, none⟩) | ⟨before, later, rfl, ending⟩
    · exact absurd rfl none
    · cases none
    · refine ⟨?_, before, later, rfl, ending⟩
      have opened := (reachable before).mem_openings ending.1 (.report generation :: later)
      rwa [← run_append] at opened

/-- A link is closed and opened again before the first socket has come to its end. That end leaves
the second socket open, and is told to both handlers. -/
theorem lifecycle_of_run_of_reconnect :
    let watcher : Handler := .custom "watcher" .every true
    let before : List Action := [.register "watcher" .every true, .connect, .settle 1 .accepted,
      .resolve 1, .close, .connect, .settle 2 .accepted, .resolve 2, .transmit 1]
    let client := ran .loopback (before ++ [.report 1, .report 1, .report 1])
    client.openings = [1, 2] ∧ client.link.lifecycle = .opened 2 ∧
      client.toldOf 1 = [.fileService, watcher] ∧ client.toldOf 2 = [] := by
  intro watcher before client
  have kept := lifecycle_of_run .loopback (before ++ [.report 1, .report 1, .report 1])
  have ending : (ran .loopback before).IsEnding 1 := ⟨by decide, by decide⟩
  obtain ⟨_, _, _, told, _⟩ := kept.ends before 1 [.report 1, .report 1] rfl ending
  have generations : client.link.generations = 2 := by decide
  have opened : client.link.lifecycle = .opened 2 := by decide
  exact ⟨kept.consecutive.trans (congrArg (List.range' 1) generations), opened, told,
    (kept.newest 2 opened).2.2⟩

end RemoteAgent.Client
