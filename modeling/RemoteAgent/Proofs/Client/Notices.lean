import RemoteAgent.Proofs.Client.Calm

/-!
# What is told of sockets

`Client.news` is what an action tells of sockets, and `Client.Passes` what becomes of a socket in a
step. A step tells the news of its action and nothing else, and it brings every socket as far as it
may come (`step_tells`). Steps that are not calm have to do with one socket: the one that opens, that
gets a message or writes, or that reports its end.
-/

namespace RemoteAgent

/-- The generation of the socket whose opening the event tells. -/
def Event.opening? : Event → Option Nat
  | .opened generation _ => some generation
  | _ => none

/-- What the terminal shows of a frame. -/
def Inbound.shown? (agent : String) : Inbound → Option Bytes
  | .terminalOutput data => some data
  | .terminalOpened => some (StatusLine.terminalOpened.octets agent)
  | .terminalClosed => some (StatusLine.terminalClosed.octets agent)
  | _ => none

/-- The handler that the action registers. -/
def Action.handler? : Action → Option Handler
  | .register name claims hears => some (.custom name claims hears)
  | _ => none

namespace Client

/-- The attempt is about to open the socket of the link. -/
def IsOpening (client : Client) (number : Nat) : Prop :=
  client.link.lifecycle = .connecting number ∧ ∃ attempt,
    client.link.attempt? number = some attempt ∧ attempt.isDue client.clock = true ∧
      attempt.handshake = some .accepted

instance (client : Client) (number : Nat) : Decidable (client.IsOpening number) := by
  unfold IsOpening
  cases client.link.attempt? number with
  | none => exact isFalse (by simp)
  | some attempt =>
    exact decidable_of_iff (client.link.lifecycle = .connecting number ∧
      attempt.isDue client.clock = true ∧ attempt.handshake = some .accepted) (by simp)

/-- What an action tells, the first thing first: an opening and the line about it, the octets that a
frame has for the terminal, the line about an end, or a handler that learns of it. -/
def news (client : Client) : Action → List Event
  | .resolve number =>
    if client.IsOpening number then
      .opened (client.link.generations + 1) number ::
        client.lines (StatusLine.connected.octets client.config.agent)
    else []
  | .receive generation (.binary octets) =>
    if client.link.stage? generation = some .running ∧ client.isHeld = true then
      match Inbound.decode octets with
      | .ok frame => (frame.shown? client.config.agent).elim [] client.lines
      | .error _ => []
    else []
  | .report generation =>
    match client.link.stage? generation with
    | some .broken =>
      if client.isHeld = true then
        client.lines (StatusLine.connectionClosed.octets client.config.agent)
      else []
    | some (.reporting (handler :: _)) => [.told handler generation]
    | _ => []
  | _ => []

/-- What ends a running socket. -/
inductive Breaks (client : Client) (generation : Nat) : Action → Prop where
  /-- Its other side has ended it. -/
  | ending : Breaks client generation (.receive generation .ending)
  /-- A message comes in for a client that nobody holds. -/
  | unheld (octets : Bytes) (free : client.isHeld = false) :
      Breaks client generation (.receive generation (.binary octets))
  /-- The order to close it is next in its queue. -/
  | shutdown {socket : Socket} {rest : List Command}
      (found : client.link.socket? generation = some socket)
      (queued : socket.queue = .shutdown :: rest) :
      Breaks client generation (.transmit generation)

/-- What becomes of a socket in a step. -/
inductive Passes (client : Client) (generation : Nat) :
    Action → Option Socket.Stage → Option Socket.Stage → Prop where
  /-- It stays as it is, as long as it has no end to report. -/
  | stays {action : Action} {stage : Option Socket.Stage}
      (aside : action = .report generation → stage = none ∨ stage = some .running) :
      Passes client generation action stage stage
  /-- It opens. -/
  | opens {number : Nat} (opening : client.IsOpening number)
      (newest : generation = client.link.generations + 1) :
      Passes client generation (.resolve number) none (some .running)
  /-- It ends. -/
  | breaks {action : Action} (cause : client.Breaks generation action) :
      Passes client generation action (some .running) (some .broken)
  /-- The link takes notice of the end, and the handlers are to be told. -/
  | announces (held : client.isHeld = true) :
      Passes client generation (.report generation) (some .broken)
        (some (.reporting client.handlers))
  /-- Nobody is left to be told. -/
  | forgets (unheld : client.isHeld = false) :
      Passes client generation (.report generation) (some .broken) none
  /-- A handler is told, and it is not the last one. -/
  | tells {handler next : Handler} {later : List Handler} :
      Passes client generation (.report generation) (some (.reporting (handler :: next :: later)))
        (some (.reporting (next :: later)))
  /-- The last handler is told. -/
  | finishes {remaining : List Handler} (last : remaining.tail = []) :
      Passes client generation (.report generation) (some (.reporting remaining)) none

variable {client after : Client} {action : Action}

/-! ## Steps -/

/-- What a step tells is the news of its action, and it brings every socket as far as it may. -/
structure Tells (client : Client) (action : Action) (after : Client) : Prop where
  notices : after.notices = (client.news action).reverse ++ client.notices
  passes : ∀ generation, client.Passes generation action (client.link.stage? generation)
    (after.link.stage? generation)
  /-- Openings are counted. -/
  generations : after.link.generations =
    client.link.generations + ((client.news action).filterMap Event.opening?).length
  /-- Handlers stay in the order of their registration. -/
  handlers : after.isHeld = true → after.handlers = client.handlers ++ action.handler?.toList
  /-- Nobody takes hold of a client that was let go. -/
  held : after.isHeld = true → client.isHeld = true

/-- Calm steps are without news. -/
theorem Calm.tells (calm : client.Calm after) (silent : client.news action = [])
    (registers : action.handler? = none) (aside : ∀ generation, action = .report generation →
      client.link.stage? generation = none ∨ client.link.stage? generation = some .running) :
    client.Tells action after where
  notices := by rw [silent]; exact calm.notices
  passes generation := by
    rw [calm.stage]
    exact .stays (aside generation)
  generations := by rw [silent]; exact calm.generations
  handlers _ := by rw [registers, Option.toList_none, List.append_nil, calm.handlers]
  held := calm.held

/-- A view that leaves out what is written sees nothing of lines. -/
theorem filterMap_lines {α : Type} {view : Event → Option α}
    (silent : ∀ terminal data, view (.wrote terminal data) = none) (client : Client)
    (data : Bytes) : (client.lines data).filterMap view = [] := by
  unfold lines
  cases client.terminal with
  | none => rfl
  | some terminal => simp [silent]

theorem filterMap_opening?_lines (client : Client) (data : Bytes) :
    (client.lines data).filterMap Event.opening? = [] :=
  filterMap_lines (fun _ _ => rfl) client data

/-- What the news of an action can be. -/
inductive NewsOf (client : Client) : Action → List Event → Prop where
  | nothing {action : Action} : NewsOf client action []
  | line {action : Action} (data : Bytes) : NewsOf client action (client.lines data)
  | opening {number : Nat} (opening : client.IsOpening number) :
      NewsOf client (.resolve number) (.opened (client.link.generations + 1) number ::
        client.lines (StatusLine.connected.octets client.config.agent))
  | told {generation : Nat} {handler : Handler} {later : List Handler}
      (reporting : client.link.stage? generation = some (.reporting (handler :: later))) :
      NewsOf client (.report generation) [.told handler generation]

/-- The news of an action is of one of these kinds. -/
theorem news_cases (client : Client) (action : Action) :
    client.NewsOf action (client.news action) := by
  unfold news
  split
  · split
    · next opening => exact .opening opening
    · exact .nothing
  · split
    · split
      · next frame _ =>
        cases frame.shown? client.config.agent with
        | none => exact .nothing
        | some data => exact .line data
      · exact .nothing
    · exact .nothing
  · split
    · split
      · exact .line _
      · exact .nothing
    · next reporting => exact .told reporting
    · exact .nothing
  · exact .nothing

section Resolving

/-- An accepted attempt tells that its socket is open, unless the link has given it up. -/
theorem tells_openSocket {attempt : Attempt}
    (found : client.link.attempt? attempt.number = some attempt)
    (due : attempt.isDue client.clock = true) (accepted : attempt.handshake = some .accepted) :
    client.Tells (.resolve attempt.number) (client.openSocket attempt) := by
  unfold openSocket
  split
  · next own =>
    have opening : client.IsOpening attempt.number := ⟨own, attempt, found, due, accepted⟩
    have news : client.news (.resolve attempt.number) =
        .opened (client.link.generations + 1) attempt.number ::
          client.lines (StatusLine.connected.octets client.config.agent) := if_pos opening
    have calm := fun before : Client => Calm.tellCallers before attempt (.ok ())
    refine ⟨?_, fun generation => ?_, ?_, fun _ => ?_, fun held => ?_⟩
    · rw [(calm _).notices, announce, notices_write, notices_note, news, List.reverse_cons,
        List.append_assoc]
      rfl
    · rw [(calm _).stage, announce, write_link, note_link, Link.stage?_attach]
      cases stage : client.link.stage? generation with
      | some stage => exact .stays (by simp)
      | none =>
        rw [Option.none_or]
        split
        · next newest => exact .opens opening newest
        · exact .stays (by simp)
    · rw [(calm _).generations, announce, write_link, note_link, news, List.filterMap_cons]
      simp [Event.opening?, filterMap_opening?_lines, Link.attach]
    · rw [(calm _).handlers, announce, write_handlers]
      exact (List.append_nil _).symm
    · have before := (calm _).held held
      rwa [announce, write_isHeld] at before
  · next other =>
    have silent : client.news (.resolve attempt.number) = [] := if_neg fun opening => other opening.1
    refine Calm.tells ?_ silent rfl (by simp)
    exact ((Calm.within client (client.link.forget attempt.number) rfl rfl).trans
      (.note _ rfl)).trans (.tellCallers _ _ _)

/-- What the end of an attempt tells. -/
theorem tells_resolve (client : Client) (number : Nat) :
    client.Tells (.resolve number) (client.resolve number) := by
  have silent : (∀ attempt, client.link.attempt? number = some attempt →
      ¬ (attempt.isDue client.clock = true ∧ attempt.handshake = some .accepted)) →
      client.news (.resolve number) = [] := by
    intro never
    refine if_neg ?_
    rintro ⟨_, attempt, found, due, accepted⟩
    exact never attempt found ⟨due, accepted⟩
  unfold resolve
  split
  · next missing =>
    refine (Calm.refl client).tells (silent ?_) rfl (by simp)
    simp [missing]
  · next attempt found =>
    have named : attempt.number = number := by simpa using List.find?_some found
    subst named
    have only : ∀ other, client.link.attempt? attempt.number = some other → other = attempt := by
      intro other foundOther
      exact Option.some.inj (foundOther.symm.trans found)
    split
    · next due =>
      split
      · next accepted => exact tells_openSocket found due accepted
      · next failed =>
        refine (Calm.failAttempt client attempt _).tells (silent ?_) rfl (by simp)
        intro other foundOther
        rw [only other foundOther, failed]
        simp
      · next waits =>
        refine ((Calm.failAttempt client attempt _).trans (.note _ rfl)).tells (silent ?_) rfl (by simp)
        intro other foundOther
        rw [only other foundOther, waits]
        simp
    · next early =>
      refine (Calm.refl client).tells (silent ?_) rfl (by simp)
      intro other foundOther
      rw [only other foundOther]
      exact fun both => early both.1

end Resolving

section Traffic

variable {generation : Nat}

theorem stage?_of_found {socket : Socket} (found : client.link.socket? generation = some socket) :
    client.link.stage? generation = some socket.stage := by
  rw [Link.stage?, found]
  rfl

/-- A running socket that ends tells nothing of it yet. -/
theorem tells_sever (running : client.link.stage? generation = some .running)
    (cause : client.Breaks generation action) (silent : client.news action = []) :
    client.Tells action { client with link := client.link.sever generation } := by
  refine ⟨by rw [silent]; rfl, fun other => ?_, by rw [silent]; rfl, fun _ => ?_, id⟩
  · rw [Link.stage?_sever]
    split
    · next same =>
      rw [same.1, running]
      exact .breaks cause
    · refine .stays fun reports => ?_
      cases cause <;> cases reports
  · cases cause <;> exact (List.append_nil _).symm

/-- A socket that writes tells nothing. -/
theorem tells_transmit (client : Client) (generation : Nat) :
    client.Tells (.transmit generation) (client.transmit generation) := by
  unfold transmit
  split
  · exact (Calm.refl client).tells rfl rfl (by simp)
  · next taken =>
    obtain ⟨socket, rest, _, _, _, rfl⟩ := Link.dequeue_eq_some taken
    have popped : client.Calm { client with link := client.link.changeSocket generation fun socket =>
        { socket with queue := rest } } := by
      refine { Calm.refl client with stage := fun other => ?_ }
      refine (@Link.stage?_changeSocket client.link generation other
        (fun socket => { socket with queue := rest }) fun _ => rfl).trans ?_
      split <;> rfl
    exact (popped.trans (.note _ rfl)).tells rfl rfl (by simp)
  · next taken =>
    obtain ⟨socket, rest, found, running, queued, _⟩ := Link.dequeue_eq_some taken
    have severed := tells_sever ((stage?_of_found found).trans (congrArg some running))
      (.shutdown found queued) rfl
    exact { severed with }

/-- What a frame tells the terminal, and nobody else. -/
theorem tells_dispatch (running : client.link.stage? generation = some .running)
    (held : client.isHeld = true) (octets : Bytes) :
    client.Tells (.receive generation (.binary octets)) (client.dispatch octets) := by
  have news : client.news (.receive generation (.binary octets)) =
      match Inbound.decode octets with
      | .ok frame => (frame.shown? client.config.agent).elim [] client.lines
      | .error _ => [] := if_pos ⟨running, held⟩
  have shows : ∀ data, client.news (.receive generation (.binary octets)) = client.lines data →
      client.Tells (.receive generation (.binary octets)) (client.write data) := by
    intro data same
    refine ⟨by rw [notices_write, same], fun other => ?_, ?_, fun _ => ?_, fun held => ?_⟩
    · rw [write_link]
      exact .stays (by simp)
    · rw [write_link, same, filterMap_opening?_lines]
      rfl
    · rw [write_handlers]
      exact (List.append_nil _).symm
    · rwa [write_isHeld] at held
  unfold dispatch
  cases decoded : Inbound.decode octets with
  | error failure =>
    rw [decoded] at news
    exact (Calm.note client rfl).tells news rfl (by simp)
  | ok frame =>
    rw [decoded] at news
    cases frame with
    | terminalOutput data => exact shows data news
    | terminalOpened => exact shows _ news
    | terminalClosed => exact shows _ news
    | log text => exact (Calm.note client rfl).tells news rfl (by simp)
    | _ => exact (Calm.offer client _ _).tells news rfl (by simp)

/-- What a message tells is the line that it has for the terminal. -/
theorem tells_receive (client : Client) (generation : Nat) (message : Message) :
    client.Tells (.receive generation message) (client.receive generation message) := by
  unfold receive
  split
  · next octets found =>
    have running := stage?_of_found found
    split
    · next held => exact tells_dispatch running held octets
    · next unheld =>
      have severed := tells_sever running (.unheld octets (by simpa using unheld))
        (if_neg fun both => unheld both.2)
      exact { severed with }
  · next found => exact tells_sever (stage?_of_found found) .ending rfl
  · next message _ _ other _ =>
    refine (Calm.refl client).tells ?_ rfl (by simp)
    cases message with
    | binary octets =>
      refine if_neg ?_
      rintro ⟨running, _⟩
      obtain ⟨⟨number, attempt, queue, _⟩, found, rfl⟩ := Option.map_eq_some_iff.mp running
      exact other number attempt queue octets found rfl
    | _ => rfl

/-- A socket that is forgotten tells nothing. -/
theorem tells_retire (silent : client.news (.report generation) = [])
    (forgotten : client.Passes generation (.report generation)
      (client.link.stage? generation) none) :
    client.Tells (.report generation) { client with link := client.link.retire generation } := by
  refine ⟨by rw [silent]; rfl, fun other => ?_, by rw [silent]; rfl,
    fun _ => (List.append_nil _).symm, id⟩
  rw [Link.stage?_retire]
  split
  · next same => exact same ▸ forgotten
  · next different => exact .stays fun reports => absurd (Action.report.inj reports).symm different

/-- What a report tells: the terminal first, then one handler after the other. -/
theorem tells_report (client : Client) (generation : Nat) :
    client.Tells (.report generation) (client.report generation) := by
  unfold report
  split
  · next found =>
    have broken := stage?_of_found found
    split
    · next held =>
      have news : client.news (.report generation) =
          client.lines (StatusLine.connectionClosed.octets client.config.agent) := by
        rw [Client.news, broken]
        exact if_pos held
      refine ⟨?_, fun other => ?_, ?_, fun _ => ?_, fun _ => held⟩
      · rw [announce, notices_write, news]
        rfl
      · rw [announce, write_link, Link.stage?_announce]
        split
        · next same =>
          rw [same, broken, found]
          exact .announces held
        · next different => exact .stays fun reports => absurd (Action.report.inj reports).symm different
      · rw [announce, write_link, news, filterMap_opening?_lines]
        rfl
      · rw [announce, write_handlers]
        exact (List.append_nil _).symm
    · next unheld =>
      have free : client.isHeld = false := by simpa using unheld
      have silent : client.news (.report generation) = [] := by
        rw [Client.news, broken]
        exact if_neg unheld
      exact tells_retire silent (by rw [broken]; exact .forgets free)
  · next handler later found =>
    have reporting := stage?_of_found found
    have news : client.news (.report generation) = [.told handler generation] := by
      rw [Client.news, reporting]
    have told : ∀ requests, client.Tells (.report generation)
        ({ client with link := client.link.toldAllBut generation later, requests }.note
          (.told handler generation)) := by
      intro requests
      refine ⟨by rw [notices_note, news]; rfl, fun other => ?_, ?_,
        fun _ => (List.append_nil _).symm, id⟩
      · rw [note_link, Link.stage?_toldAllBut]
        split
        · next same =>
          rw [same, reporting, found]
          cases later with
          | nil => exact .finishes rfl
          | cons next later => exact .tells
        · next different =>
          exact .stays fun reports => absurd (Action.report.inj reports).symm different
      · rw [news, note_link]
        cases later <;> rfl
    unfold tell
    split
    · exact told _
    · exact told client.requests
  · next found =>
    have reporting := stage?_of_found found
    have silent : client.news (.report generation) = [] := by rw [Client.news, reporting]
    exact tells_retire silent (by rw [reporting]; exact .finishes rfl)
  · next broken reporting silenced =>
    have aside : client.link.stage? generation = none ∨
        client.link.stage? generation = some .running := by
      cases reached : client.link.stage? generation with
      | none => exact .inl rfl
      | some stage =>
        obtain ⟨⟨number, attempt, queue, current⟩, found, rfl⟩ := Option.map_eq_some_iff.mp reached
        cases current with
        | running => exact .inr rfl
        | broken => exact absurd found (broken number attempt queue)
        | reporting remaining =>
          cases remaining with
          | nil => exact absurd found (silenced number attempt queue)
          | cons handler later => exact absurd found (reporting number attempt queue handler later)
    have silent : client.news (.report generation) = [] := by
      rcases aside with none | running
      · rw [Client.news, none]
      · rw [Client.news, running]
    refine (Calm.refl client).tells silent rfl ?_
    rintro other ⟨⟩
    exact aside

end Traffic

/-- What an action tells is its news, and nothing is told when it is not possible. -/
theorem step_tells (client : Client) (action : Action) :
    client.Tells action (client.step action) := by
  unfold step
  split
  · next impossible =>
    have owners : action.isOwners = true := by
      rw [Bool.and_eq_true] at impossible
      exact impossible.1
    have unheld : client.isHeld = false := by
      rw [Bool.and_eq_true, Bool.not_eq_true'] at impossible
      exact impossible.2
    have silent : client.news action = [] := by
      cases action <;> first | rfl | cases owners
    have aside : ∀ generation, action ≠ .report generation := by
      rintro generation rfl
      cases owners
    refine ⟨by rw [silent]; rfl, fun generation => ?_, by rw [silent]; rfl, fun held => ?_, id⟩
    · exact .stays fun reports => absurd reports (aside generation)
    · rw [unheld] at held
      cases held
  · next possible =>
    cases action with
    | connect => exact (Calm.connect client).tells rfl rfl (by simp)
    | start operation limit => exact (Calm.start client operation limit).tells rfl rfl (by simp)
    | cancel call => exact (Calm.cancel client call).tells rfl rfl (by simp)
    | send frame => exact (Calm.send client frame).tells rfl rfl (by simp)
    | attachTerminal terminal =>
      exact Calm.tells { Calm.refl client with } rfl rfl (by simp)
    | register name claims hears =>
      exact ⟨rfl, fun generation => .stays (by simp), rfl, fun _ => rfl, id⟩
    | close => exact (Calm.close client).tells rfl rfl (by simp)
    | release =>
      have held : client.isHeld = true := by simpa [Action.isOwners] using possible
      exact (Calm.release client held).tells rfl rfl (by simp)
    | settle attempt handshake =>
      exact (Calm.within client (client.link.settle attempt handshake) rfl rfl).tells rfl rfl (by simp)
    | receive generation message => exact tells_receive client generation message
    | wait time => exact Calm.tells { Calm.refl client with } rfl rfl (by simp)
    | resolve attempt => exact tells_resolve client attempt
    | poll request => exact (Calm.poll client request).tells rfl rfl (by simp)
    | transmit generation => exact tells_transmit client generation
    | report generation => exact tells_report client generation

end Client

end RemoteAgent
