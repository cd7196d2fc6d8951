import RemoteAgent.Proofs.Client.Notices

/-!
# The lifecycle of sockets

Sockets open one after the other, each under the next generation (`Reachable.consecutive`). The end
of a socket brings the link to rest if the socket was the open one, and changes nothing else
(`step_lifecycle`). Handlers are told of the end of a socket by its reports only, one by each, in
the order in which they stood when the end was announced (`toldOf_run`).
-/

namespace RemoteAgent

/-- The handler that the event tells of the end of a socket. -/
def Event.toldOf? (generation : Nat) : Event → Option Handler
  | .told handler other => if other = generation then some handler else none
  | _ => none

/-- The socket that the action is one of. -/
def Action.socket? : Action → Option Nat
  | .receive generation _ | .transmit generation | .report generation => some generation
  | _ => none

namespace Client

/-- The generations of the sockets that opened, oldest first. -/
def openings (client : Client) : List Nat := client.trace.reverse.filterMap Event.opening?

/-- The handlers that were told of the end of a socket, in turn. -/
def toldOf (client : Client) (generation : Nat) : List Handler :=
  client.trace.reverse.filterMap (Event.toldOf? generation)

/-- The socket has ended, and somebody holds the client to hear of it. -/
def IsEnding (client : Client) (generation : Nat) : Prop :=
  client.link.stage? generation = some .broken ∧ client.isHeld = true

/-- What is told of the end of a socket goes on with these handlers. -/
def Reporting (client : Client) (generation : Nat) : List Handler → Prop
  | [] => client.link.stage? generation = none ∧ generation ≤ client.link.generations
  | remaining => client.link.stage? generation = some (.reporting remaining)

variable {client after : Client} {action : Action} {generation : Nat}

/-! ## Views of the notices -/

/-- What is drawn from notices grows with the news. -/
theorem Tells.view {α : Type} (tells : client.Tells action after) {view : Event → Option α}
    (only : ∀ event, event.isNotice = false → view event = none) :
    after.trace.reverse.filterMap view =
      client.trace.reverse.filterMap view ++ (client.news action).filterMap view := by
  have kept : (fun event => if event.isNotice = true then view event else none) = view := by
    funext event
    split
    · rfl
    · next aside => exact (only event (by simpa using aside)).symm
  have drawn : ∀ events : List Event,
      (events.filter Event.isNotice).filterMap view = events.filterMap view := by
    intro events
    rw [List.filterMap_filter, kept]
  have grown : after.notices.reverse = client.notices.reverse ++ client.news action := by
    rw [tells.notices, List.reverse_append, List.reverse_reverse]
  have seen := congrArg (List.filterMap view) grown
  rwa [List.filterMap_append, Client.notices, Client.notices, ← List.filter_reverse,
    ← List.filter_reverse, drawn, drawn] at seen

/-- The socket that an action opens stands behind those that opened before. -/
theorem Tells.openings (tells : client.Tells action after) :
    after.openings = client.openings ++ (client.news action).filterMap Event.opening? := by
  refine tells.view fun event aside => ?_
  cases event <;> first | rfl | cases aside

/-- Whom an action tells of a socket stands behind those who were told before. -/
theorem Tells.toldOf (tells : client.Tells action after) (generation : Nat) :
    after.toldOf generation =
      client.toldOf generation ++ (client.news action).filterMap (Event.toldOf? generation) := by
  refine tells.view fun event aside => ?_
  cases event <;> first | rfl | cases aside

/-- The news are without openings, or they are those of the next socket. -/
theorem opening?_news (client : Client) (action : Action) :
    (client.news action).filterMap Event.opening? = [] ∨
      ∃ number, action = .resolve number ∧ client.IsOpening number ∧
        (client.news action).filterMap Event.opening? = [client.link.generations + 1] := by
  have known := client.news_cases action
  generalize client.news action = news at known
  cases known with
  | nothing => exact .inl rfl
  | line data => exact .inl (filterMap_opening?_lines client data)
  | @opening number opening =>
    refine .inr ⟨number, rfl, opening, ?_⟩
    simp only [List.filterMap_cons, Event.opening?, filterMap_opening?_lines]
  | told => exact .inl rfl

/-- A handler is told only by the report of the socket. -/
theorem toldOf?_news (client : Client) (action : Action) (generation : Nat) :
    (client.news action).filterMap (Event.toldOf? generation) = [] ∨
      ∃ handler later, action = .report generation ∧
        client.link.stage? generation = some (.reporting (handler :: later)) ∧
        (client.news action).filterMap (Event.toldOf? generation) = [handler] := by
  have unseen : ∀ data, (client.lines data).filterMap (Event.toldOf? generation) = [] :=
    filterMap_lines (fun _ _ => rfl) client
  have known := client.news_cases action
  generalize client.news action = news at known
  cases known with
  | nothing => exact .inl rfl
  | line data => exact .inl (unseen data)
  | opening => exact .inl ((List.filterMap_cons_none rfl).trans (unseen _))
  | @told other handler later reporting =>
    by_cases same : other = generation
    · subst same
      exact .inr ⟨handler, later, rfl, reporting, by simp [Event.toldOf?]⟩
    · exact .inl (by simp [Event.toldOf?, same])

/-! ## Generations -/

/-- Sockets open under the generations from one on. -/
def Consecutive (client : Client) : Prop :=
  client.openings = List.range' 1 client.link.generations

/-- An action opens no socket but one with the next generation. -/
theorem Tells.consecutive (tells : client.Tells action after) (before : client.Consecutive) :
    after.Consecutive := by
  rw [Consecutive, tells.openings, tells.generations, before]
  rcases client.opening?_news action with none | ⟨number, _, _, next⟩
  · rw [none, List.append_nil]
    rfl
  · rw [next, List.length_singleton, List.range'_1_concat, Nat.add_comm 1]

/-- A socket that changes keeps its generation. -/
theorem generations_changeSocket (link : Link) (generation : Nat) {change : Socket → Socket}
    (keeps : ∀ socket, (change socket).generation = socket.generation) :
    (link.changeSocket generation change).sockets.map (·.generation) =
      link.sockets.map (·.generation) := by
  rw [Link.changeSocket, List.map_map]
  refine List.map_congr_left fun socket _ => ?_
  rw [Function.comp_apply]
  split
  · exact keeps socket
  · rfl

/-- Closing a link changes no generation. -/
theorem generations_close (link : Link) :
    link.close.sockets.map (·.generation) = link.sockets.map (·.generation) ∧
      link.close.generations = link.generations := by
  unfold Link.close
  split
  · exact ⟨generations_changeSocket link _ fun _ => rfl, rfl⟩
  · exact ⟨rfl, rfl⟩

theorem generations_toldAllBut (link : Link) (generation : Nat) (remaining : List Handler) :
    ((link.toldAllBut generation remaining).sockets.map (·.generation)).Sublist
        (link.sockets.map (·.generation)) ∧
      (link.toldAllBut generation remaining).generations = link.generations := by
  cases remaining with
  | nil => exact ⟨List.filter_sublist.map _, rfl⟩
  | cons handler later =>
    have same := @generations_changeSocket link generation
      (fun socket => { socket with stage := .reporting (handler :: later) }) fun _ => rfl
    exact ⟨same ▸ List.Sublist.refl _, rfl⟩

/-- Sockets go, or the next one comes. -/
theorem Move.sockets (moves : Move action client after) :
    ((after.link.sockets.map (·.generation)).Sublist (client.link.sockets.map (·.generation)) ∧
        after.link.generations = client.link.generations) ∨
      (after.link.sockets.map (·.generation) =
          client.link.sockets.map (·.generation) ++ [client.link.generations + 1] ∧
        after.link.generations = client.link.generations + 1) := by
  have changed : ∀ (generation : Nat) {change : Socket → Socket},
      (∀ socket, (change socket).generation = socket.generation) →
      ((client.link.changeSocket generation change).sockets.map (·.generation)).Sublist
        (client.link.sockets.map (·.generation)) :=
    fun generation _ keeps => generations_changeSocket client.link generation keeps ▸ .refl _
  have closed := generations_close client.link
  cases moves with
  | remarks remarks => exact .inl (by simp [remarks.link])
  | registers => exact .inl ⟨.refl _, rfl⟩
  | waits => exact .inl ⟨.refl _, rfl⟩
  | request moves =>
    rcases moves.link with same | ⟨opened, frame, _, pushed⟩
    · exact .inl (by simp [same])
    · exact .inl ⟨pushed ▸ changed opened fun _ => rfl, by rw [pushed]; rfl⟩
  | link moves =>
    cases moves with
    | closes => exact .inl ⟨closed.1 ▸ .refl _, closed.2⟩
    | opens => exact .inr ⟨List.map_append, rfl⟩
    | accepts => exact .inl ⟨changed _ fun _ => rfl, rfl⟩
    | writes => exact .inl ⟨changed _ fun _ => rfl, rfl⟩
    | breaks => exact .inl ⟨changed _ Socket.generation_ended, rfl⟩
    | announces => exact .inl ⟨changed _ fun _ => rfl, rfl⟩
    | retires => exact .inl ⟨List.filter_sublist.map _, rfl⟩
    | tells => exact .inl (generations_toldAllBut _ _ _)
    | _ => exact .inl ⟨.refl _, rfl⟩
  | loses => exact .inl (generations_toldAllBut _ _ _)
  | releases => exact .inl ⟨closed.1 ▸ .refl _, closed.2⟩

/-- Sockets that are there are among those that opened, in the order of their opening. -/
def Numbered (client : Client) : Prop :=
  (client.link.sockets.map (·.generation)).Sublist (List.range' 1 client.link.generations)

/-- A move opens no socket but one with the next generation. -/
theorem Move.numbered (moves : Move action client after) (before : client.Numbered) :
    after.Numbered := by
  rcases moves.sockets with ⟨fewer, same⟩ | ⟨more, next⟩
  · rw [Numbered, same]
    exact fewer.trans before
  · rw [Numbered, next, more, List.range'_1_concat, Nat.add_comm 1]
    exact before.append_right _

/-- In every run, the sockets that are there are among those that opened, in the order of their
opening. -/
theorem Reachable.numbered {config : Config} (reachable : Reachable config client) :
    client.Numbered :=
  reachable.byMoves (List.nil_sublist _) fun _ _ _ _ moves => moves.numbered

/-- In every run, sockets open under the generations from one on. -/
theorem Reachable.consecutive {config : Config} (reachable : Reachable config client) :
    client.Consecutive :=
  @Reachable.invariant _ Consecutive rfl
    (fun client action => (client.step_tells action).consecutive) _ reachable

/-! ## The lifecycle -/

@[simp] theorem handle_link (client : Client) (frame : Inbound) (handler : Handler) :
    (client.handle frame handler).link = client.link := by
  unfold handle
  split <;> rfl

@[simp] theorem offer_link (client : Client) (frame : Inbound) (handlers : List Handler) :
    (client.offer frame handlers).link = client.link := by
  induction handlers generalizing client with
  | nil => rfl
  | cons handler later inductionHypothesis =>
    unfold offer
    split
    · exact client.handle_link frame handler
    · exact (inductionHypothesis _).trans (client.handle_link frame handler)

@[simp] theorem dispatch_link (client : Client) (octets : Bytes) :
    (client.dispatch octets).link = client.link := by
  unfold dispatch route announce
  split
  · split <;> simp
  · rfl

/-- A message does not change where the link is in its lifecycle. -/
theorem receive_lifecycle (client : Client) (generation : Nat) (message : Message) :
    (client.receive generation message).link.lifecycle = client.link.lifecycle := by
  unfold receive
  split
  · split
    · rw [dispatch_link]
    · rfl
  · rfl
  · rfl

/-- Writing a frame does not change where the link is in its lifecycle. -/
theorem transmit_lifecycle (client : Client) (generation : Nat) :
    (client.transmit generation).link.lifecycle = client.link.lifecycle := by
  unfold transmit
  split
  · rfl
  · next taken =>
    obtain ⟨_, _, _, _, _, rfl⟩ := Link.dequeue_eq_some taken
    rfl
  · rfl

theorem tell_link (client : Client) (generation : Nat) (handler : Handler) :
    (client.tell generation handler).link = client.link := by
  cases handler <;> rfl

theorem toldAllBut_lifecycle (link : Link) (generation : Nat) (remaining : List Handler) :
    (link.toldAllBut generation remaining).lifecycle = link.lifecycle := by
  cases remaining <;> rfl

/-- The report of a socket that has ended brings the link to rest if the socket was the open one. -/
theorem report_lifecycle (sound : client.Sound) (generation : Nat) :
    (client.report generation).link.lifecycle =
      if client.link.stage? generation = some .broken ∧ client.link.lifecycle = .opened generation
        then .idle else client.link.lifecycle := by
  unfold report
  split
  · next found =>
    rw [stage?_of_found found]
    split
    · rw [announce, write_link]
      simp only [true_and]
      rfl
    · next unheld =>
      have closed := (sound.released (by simpa using unheld)).1
      simp [Link.retire, closed]
  · next found =>
    rw [tell_link, toldAllBut_lifecycle, stage?_of_found found, if_neg (by simp)]
  · next found => simp [stage?_of_found found, Link.retire]
  · next broken _ _ =>
    refine (if_neg ?_).symm
    rintro ⟨stage, _⟩
    obtain ⟨⟨number, attempt, queue, _⟩, found, rfl⟩ := Option.map_eq_some_iff.mp stage
    exact broken number attempt queue found

/-- Nothing that a socket does touches the lifecycle, but for the report of the end of the open
one, which brings the link to rest. -/
theorem step_lifecycle (sound : client.Sound) (own : action.socket? = some generation) :
    (client.step action).link.lifecycle =
      if action = .report generation ∧ client.link.stage? generation = some .broken ∧
        client.link.lifecycle = .opened generation then .idle else client.link.lifecycle := by
  cases action with
  | receive other message => exact (receive_lifecycle _ _ _).trans (if_neg (by simp)).symm
  | transmit other => exact (transmit_lifecycle _ _).trans (if_neg (by simp)).symm
  | report other =>
    obtain rfl := Option.some.inj own
    have reported : (client.step (.report other)).link.lifecycle = _ :=
      client.report_lifecycle sound other
    rw [reported]
    simp only [true_and]
  | _ => cases own

/-! ## Those who are told -/

/-- Only a socket that reports its end has told of it. -/
def Unheard (client : Client) : Prop :=
  ∀ generation, (∀ remaining, client.link.stage? generation ≠ some (.reporting remaining)) →
    (client.link.stage? generation = none → client.link.generations < generation) →
    client.toldOf generation = []

/-- A socket that has nothing to tell after a step had nothing before it, unless it is gone. -/
theorem Passes.quiet {stage next : Option Socket.Stage}
    (passes : client.Passes generation action stage next)
    (quiet : ∀ remaining, next ≠ some (.reporting remaining)) :
    (∀ remaining, stage ≠ some (.reporting remaining)) ∨
      next = none ∧ ∃ remaining, stage = some (.reporting remaining) := by
  cases passes with
  | stays => exact .inl quiet
  | opens => exact .inl (by simp)
  | breaks => exact .inl (by simp)
  | announces => exact absurd rfl (quiet client.handlers)
  | forgets => exact .inl (by simp)
  | @tells _ head later => exact absurd rfl (quiet (head :: later))
  | finishes => exact .inr ⟨rfl, _, rfl⟩

/-- A socket that is not there stays away, or opens under the next generation. -/
theorem Passes.absent {next : Option Socket.Stage}
    (passes : client.Passes generation action none next) :
    next = none ∨ generation = client.link.generations + 1 := by
  cases passes with
  | stays => exact .inl rfl
  | opens _ newest => exact .inr newest

/-- Generations are counted upwards. -/
theorem Tells.generations_le (tells : client.Tells action after) :
    client.link.generations ≤ after.link.generations :=
  tells.generations ▸ Nat.le_add_right _ _

/-- A socket that is there has a generation that was given. -/
theorem generation_le_of_stage? (sound : client.Sound) {stage : Socket.Stage}
    (reached : client.link.stage? generation = some stage) :
    generation ≤ client.link.generations := by
  obtain ⟨socket, found, _⟩ := Option.map_eq_some_iff.mp reached
  exact sound.link.generation_le found

/-- An action tells of no socket but one that reports its end. -/
theorem Tells.unheard (tells : client.Tells action after) (sound : client.Sound)
    (before : client.Unheard) : after.Unheard := by
  intro generation quiet absent
  have passed := tells.passes generation
  have grown := tells.generations_le
  have quietBefore : ∀ remaining, client.link.stage? generation ≠ some (.reporting remaining) := by
    rcases passed.quiet quiet with quietBefore | ⟨gone, remaining, reporting⟩
    · exact quietBefore
    · have given := generation_le_of_stage? sound reporting
      have later := absent gone
      omega
  have absentBefore : client.link.stage? generation = none →
      client.link.generations < generation := by
    intro none
    rw [none] at passed
    rcases passed.absent with still | newest
    · exact Nat.lt_of_le_of_lt grown (absent still)
    · omega
  rw [tells.toldOf, before generation quietBefore absentBefore, List.nil_append]
  rcases client.toldOf?_news action generation with none | ⟨_, _, _, reporting, _⟩
  · exact none
  · exact absurd reporting (quietBefore _)

/-- In every run, only a socket that reports its end has told of it. -/
theorem Reachable.unheard {config : Config} (reachable : Reachable config client) :
    client.Unheard := by
  induction reachable with
  | initial => exact fun _ _ _ => rfl
  | @step client action before inductionHypothesis =>
    exact (client.step_tells action).unheard before.sound inductionHypothesis

/-- A report tells the next handler. -/
theorem toldOf?_report {handler : Handler} {later : List Handler}
    (reporting : client.link.stage? generation = some (.reporting (handler :: later))) :
    (client.news (.report generation)).filterMap (Event.toldOf? generation) = [handler] := by
  rw [news, reporting]
  simp [Event.toldOf?]

/-- What is not the report of the socket tells nobody of its end. -/
theorem Tells.toldOf_of_ne (tells : client.Tells action after)
    (aside : action ≠ .report generation) :
    after.toldOf generation = client.toldOf generation := by
  rw [tells.toldOf]
  rcases client.toldOf?_news action generation with none | ⟨_, _, reports, _⟩
  · rw [none, List.append_nil]
  · exact absurd reports aside

/-- A socket that reports its end waits for nothing but its report. -/
theorem Tells.reporting_of_ne (tells : client.Tells action after) {remaining : List Handler}
    (reporting : client.Reporting generation remaining) (aside : action ≠ .report generation) :
    after.Reporting generation remaining := by
  have passed := tells.passes generation
  have grown := tells.generations_le
  cases remaining with
  | nil =>
    obtain ⟨gone, given⟩ := reporting
    rw [gone] at passed
    rcases passed.absent with still | newest
    · exact ⟨still, Nat.le_trans given grown⟩
    · omega
  | cons handler later =>
    have stage : client.link.stage? generation = some (.reporting (handler :: later)) := reporting
    rw [stage] at passed
    change after.link.stage? generation = _
    generalize after.link.stage? generation = next at passed
    cases passed with
    | stays => rfl
    | tells => exact absurd rfl aside
    | finishes => exact absurd rfl aside

/-- The report of a socket goes on with the next handler. -/
theorem Tells.reporting_next (tells : client.Tells (.report generation) after)
    (sound : client.Sound) {remaining : List Handler}
    (reporting : client.Reporting generation remaining) :
    after.Reporting generation remaining.tail ∧
      after.toldOf generation = client.toldOf generation ++ remaining.take 1 := by
  have passed := tells.passes generation
  have grown := tells.generations_le
  cases remaining with
  | nil =>
    obtain ⟨gone, given⟩ := reporting
    have silent : client.news (.report generation) = [] := by rw [news, gone]
    rw [tells.toldOf, silent]
    rw [gone] at passed
    rcases passed.absent with still | newest
    · exact ⟨⟨still, Nat.le_trans given grown⟩, rfl⟩
    · omega
  | cons handler later =>
    have stage : client.link.stage? generation = some (.reporting (handler :: later)) := reporting
    have given := generation_le_of_stage? sound stage
    rw [tells.toldOf, toldOf?_report stage]
    refine ⟨?_, rfl⟩
    rw [stage] at passed
    change Reporting after generation later
    have whole := Nat.le_trans given grown
    unfold Reporting
    generalize after.link.stage? generation = next at passed ⊢
    cases passed with
    | stays aside => rcases aside rfl with none | running <;> simp at *
    | tells => rfl
    | finishes last =>
      obtain rfl : later = [] := last
      exact ⟨rfl, whole⟩

/-! ## Runs -/

section Runs

variable {actions : List Action}

/-- As many handlers are told as there are reports, in turn, until nobody is left. -/
theorem toldOf_run (sound : client.Sound) {remaining : List Handler}
    (reporting : client.Reporting generation remaining) (actions : List Action) :
    (client.run actions).Reporting generation
        (remaining.drop (actions.count (.report generation))) ∧
      (client.run actions).toldOf generation =
        client.toldOf generation ++ remaining.take (actions.count (.report generation)) := by
  induction actions generalizing client remaining with
  | nil => exact ⟨reporting, by simp [run]⟩
  | cons action later inductionHypothesis =>
    have tells := client.step_tells action
    by_cases reports : action = .report generation
    · subst reports
      obtain ⟨next, told⟩ := tells.reporting_next sound reporting
      obtain ⟨rest, toldRest⟩ := inductionHypothesis (sound.step _) next
      have first : remaining.take 1 ++ remaining.tail.take (later.count (.report generation)) =
          remaining.take (later.count (.report generation) + 1) := by
        cases remaining with
        | nil => simp
        | cons handler remaining => rfl
      rw [List.count_cons_self]
      refine ⟨?_, ?_⟩
      · rwa [List.drop_tail] at rest
      · exact toldRest.trans (by rw [told, List.append_assoc, first])
    · obtain ⟨rest, toldRest⟩ := inductionHypothesis (sound.step _)
        (tells.reporting_of_ne reporting reports)
      rw [List.count_cons_of_ne reports]
      exact ⟨rest, toldRest.trans (by rw [tells.toldOf_of_ne reports])⟩

/-- A socket that opened in a run opened in one of its steps. -/
theorem opening_of_run (opened : generation ∈ (client.run actions).openings) :
    generation ∈ client.openings ∨ ∃ before number later,
      actions = before ++ .resolve number :: later ∧ (client.run before).IsOpening number ∧
        generation = (client.run before).link.generations + 1 := by
  induction actions generalizing client with
  | nil => exact .inl opened
  | cons action later inductionHypothesis =>
    rcases inductionHypothesis opened with now | ⟨before, number, rest, rfl, opening, newest⟩
    · rw [(client.step_tells action).openings] at now
      rcases client.opening?_news action with none | ⟨number, rfl, opening, next⟩
      · rw [none, List.append_nil] at now
        exact .inl now
      · rw [next] at now
        refine (List.mem_append.mp now).imp_right fun new => ?_
        exact ⟨[], number, later, rfl, opening, List.mem_singleton.mp new⟩
    · exact .inr ⟨action :: before, number, rest, rfl, opening, newest⟩

/-- Somebody was told of the end of a socket, or is to be told. -/
def Heard (client : Client) (generation : Nat) : Prop :=
  client.toldOf generation ≠ [] ∨
    ∃ remaining, client.link.stage? generation = some (.reporting remaining)

/-- A step in which the end of a socket begins to be told is the report of the end. -/
theorem Tells.heard (tells : client.Tells action after) (heard : after.Heard generation) :
    client.Heard generation ∨ action = .report generation ∧ client.IsEnding generation := by
  rcases heard with told | ⟨remaining, reporting⟩
  · rw [tells.toldOf] at told
    rcases client.toldOf?_news action generation with none | ⟨handler, later, _, reporting, _⟩
    · rw [none, List.append_nil] at told
      exact .inl (.inl told)
    · exact .inl (.inr ⟨_, reporting⟩)
  · have passed := tells.passes generation
    rw [reporting] at passed
    generalize stage : client.link.stage? generation = before at passed
    cases passed with
    | stays => exact .inl (.inr ⟨remaining, stage⟩)
    | announces held => exact .inr ⟨rfl, stage, held⟩
    | tells => exact .inl (.inr ⟨_, stage⟩)

/-- Nobody is told of the end of a socket but by its report. -/
theorem ending_of_run (heard : (client.run actions).Heard generation) :
    client.Heard generation ∨ ∃ before later,
      actions = before ++ .report generation :: later ∧
        (client.run before).IsEnding generation := by
  induction actions generalizing client with
  | nil => exact .inl heard
  | cons action later inductionHypothesis =>
    rcases inductionHypothesis heard with now | ⟨before, rest, rfl, ending⟩
    · refine ((client.step_tells action).heard now).imp_right ?_
      rintro ⟨rfl, ending⟩
      exact ⟨[], later, rfl, ending⟩
    · exact .inr ⟨action :: before, rest, rfl, ending⟩

/-- Whoever holds the client has held it all along. -/
theorem held_of_run (held : (client.run actions).isHeld = true) : client.isHeld = true := by
  induction actions generalizing client with
  | nil => exact held
  | cons action later inductionHypothesis =>
    exact (client.step_tells action).held (inductionHypothesis held)

theorem registrations_cons (action : Action) (later : List Action) :
    (action :: later).filterMap Action.handler? =
      action.handler?.toList ++ later.filterMap Action.handler? := by
  cases added : action.handler? <;> simp [added]

/-- Handlers stand in the order of their registration, as long as somebody holds the client. -/
theorem handlers_of_run (held : (client.run actions).isHeld = true) :
    (client.run actions).handlers = client.handlers ++ actions.filterMap Action.handler? := by
  induction actions generalizing client with
  | nil => exact (List.append_nil _).symm
  | cons action later inductionHypothesis =>
    have registered := (client.step_tells action).handlers (held_of_run held)
    rw [registrations_cons, ← List.append_assoc, ← registered]
    exact inductionHypothesis held

end Runs

end Client

end RemoteAgent
