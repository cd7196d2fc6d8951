import Mathlib.Control.Monad.Basic
import RemoteAgent.Proofs.Client.Attempts
import RemoteAgent.Proofs.Client.FileSide
import RemoteAgent.Proofs.Client.InFlight

/-!
# What the terminal changes for the files

An account holds what callers have of a client: its phase, how many requests are in flight, the calls
for files under way and those that have ended, and the frames for files that were handed to sockets.
Runs with the same file steps go through the same changes of the account, and write the same frames
for files (`changes_of_fileSteps`). Steps that concern the terminal may be put into a run or left out
of it anywhere: the sockets only have to write as often as their queues then ask for
(`exists_paced`). Once nobody holds a client its account stays as it is (`account_of_unheld`), and
only frames that a socket has not written may still be lost.
-/

namespace RemoteAgent

/-- What callers have of a client. -/
structure Account where
  phase : Phase
  /-- The number of requests in flight. -/
  pending : Nat
  /-- The calls for files under way, with what they have reported. -/
  calls : List Call
  /-- The calls for files that have ended, each with all that it has reported. -/
  finished : List (Nat × List Progress × Except Failure Delivery)
  /-- The frames for files that were accepted for sockets, with their generations. -/
  sent : List (Nat × Bytes)
  deriving DecidableEq

/-- A call for files that ends. -/
def Event.finished? : Event → Option (Nat × List Progress × Except Failure Delivery)
  | .finished call progress outcome => some (call, progress, outcome)
  | _ => none

/-- A frame that is accepted for a socket and is not for the terminal. -/
def Event.sent? : Event → Option (Nat × Bytes)
  | .accepted generation frame => if isForTerminal frame then none else some (generation, frame)
  | _ => none

/-- A frame that is written to a socket and is not for the terminal. -/
def Event.written? : Event → Option (Nat × Bytes)
  | .transmitted generation frame => if isForTerminal frame then none else some (generation, frame)
  | _ => none

/-- Octets that go to a terminal. -/
def Event.shown? : Event → Option (String × Bytes)
  | .wrote terminal data => some (terminal, data)
  | _ => none

/-- What the owner of a client can ask of the terminal of the agent. -/
inductive TerminalOperation where
  | create (options : TerminalOptions)
  | resize (columns rows : UInt16)
  | typeText (text : String)
  | write (data : Bytes)
  | close

/-- The frame of an operation. A text is typed as its octets. -/
def TerminalOperation.frame : TerminalOperation → Outbound
  | create options => .openTerminal options
  | resize columns rows => .resizeTerminal columns rows
  | typeText text => .terminalInput (Utf8.encode text)
  | write data => .terminalInput data
  | close => .closeTerminal

/-- A socket writes. -/
def Action.isWrite : Action → Bool
  | .transmit _ => true
  | _ => false

/-- The action is neither a write nor does it concern the terminal: it has to do with the lifecycle
of the link, with operations on files, or with replies. -/
def Action.isForFiles (action : Action) : Bool := !action.isWrite && !action.concernsTerminal

namespace Client

/-- The account of a client, the first thing first. -/
def account (client : Client) : Account where
  phase := client.phase
  pending := client.requests.pending
  calls := client.calls
  finished := client.trace.reverse.filterMap Event.finished?
  sent := client.trace.reverse.filterMap Event.sent?

/-- The frames for files that were written to sockets, the first one first. -/
def filesWritten (client : Client) : List (Nat × Bytes) :=
  client.trace.reverse.filterMap Event.written?

/-- What a view of a client changes to in the course of a run, one after another. -/
def changes {α : Type} [DecidableEq α] (view : Client → α) (verdicts : Verdicts) (client : Client) :
    List Action → List α
  | [] => []
  | action :: later =>
    let next := client.stepBy verdicts action
    if view next = view client then next.changes view verdicts later
    else view next :: next.changes view verdicts later

/-- What was written to terminals, the first thing first. -/
def writes (client : Client) : List (String × Bytes) :=
  client.trace.reverse.filterMap Event.shown?

/-- The terminal and the files leave each other alone, whatever handlers go by. -/
structure KeepsApart (verdicts others : Verdicts) (config : Config) : Prop where
  /-- Runs whose steps are the same but for those that concern the terminal alone take the account
  through the same changes, and write the same frames for files in between. -/
  agree : ∀ {actions script : List Action},
    (initial config).fileSteps others script = (initial config).fileSteps verdicts actions →
      (initial config).changes (fun client => (client.account, client.filesWritten)) others script =
        (initial config).changes (fun client => (client.account, client.filesWritten)) verdicts
          actions
  /-- Whatever concerns the terminal may be put into a run or left out of it at any points. With
  writes at the right times, the account goes through the same changes, and until somebody releases
  the client the file steps are the same, too. -/
  paced : ∀ {actions script : List Action},
    script.filter Action.isForFiles = actions.filter Action.isForFiles →
      ∃ paced, (paced.filter fun action => !action.isWrite) =
          (script.filter fun action => !action.isWrite) ∧
        (initial config).changes account others paced =
          (initial config).changes account verdicts actions ∧
        (.release ∉ actions →
          (initial config).fileSteps others paced = (initial config).fileSteps verdicts actions)
  /-- To attach a terminal is not for the files, -/
  attaching : ∀ terminal, (Action.attachTerminal terminal).isForFiles = false
  /-- nor is any operation on the terminal, -/
  operating : ∀ operation : TerminalOperation,
    (Action.send operation.frame.encode).isForFiles = false
  /-- nor is any message that is no reply. -/
  receiving : ∀ generation octets, (Action.receive generation (.binary octets)).isForFiles = false ↔
    (∃ failure, Inbound.decode octets = .error failure) ∨
      (∃ data, Inbound.decode octets = .ok (.terminalOutput data)) ∨
      Inbound.decode octets = .ok .terminalOpened ∨
      Inbound.decode octets = .ok .terminalClosed ∨
      (∃ text, Inbound.decode octets = .ok (.log text)) ∨
      ∃ tag payload, Inbound.decode octets = .ok (.unknown tag payload)
  /-- Only a socket that opens or reports its end, or a message that is no reply, writes to the
  terminal. -/
  silent : ∀ before action,
    (ranBy verdicts config (before ++ [action])).writes ≠ (ranBy verdicts config before).writes →
      (∃ number, action = .resolve number) ∨ (∃ generation, action = .report generation) ∨
        ∃ generation octets, action = .receive generation (.binary octets) ∧ action.reply? = none

variable {verdicts others : Verdicts} {config : Config} {client other : Client} {action : Action}

/-! ## Views of the file side -/

/-- What does not concern the terminal is seen on the file side as it is on the client. -/
theorem filterMap_fileSide {α : Type} {view : Event → Option α}
    (silent : ∀ event, event.isAside = true → view event = none) :
    client.fileSide.trace.reverse.filterMap view = client.trace.reverse.filterMap view := by
  simp only [veiled, ← List.filter_reverse, List.filterMap_filter]
  congr 1
  funext event
  split
  · rfl
  · next hidden =>
    refine (silent event ?_).symm
    simpa [Veil.showsEvent, Veil.terminal] using hidden

theorem account_fileSide (client : Client) : client.fileSide.account = client.account := by
  have finished := @filterMap_fileSide client _ Event.finished? fun event aside => by
    cases event <;> first | rfl | cases aside
  have sent := @filterMap_fileSide client _ Event.sent? fun event aside => by
    cases event <;> first | rfl | exact if_pos aside
  simp only [account, finished, sent]
  rfl

theorem filesWritten_fileSide (client : Client) :
    client.fileSide.filesWritten = client.filesWritten :=
  filterMap_fileSide fun event aside => by
    cases event <;> first | rfl | exact if_pos aside

/-! ## Runs with the same file steps -/

theorem changes_cons {α : Type} [DecidableEq α] {view : Client → α} (action : Action)
    (later : List Action) : client.changes view verdicts (action :: later) =
      (if view (client.stepBy verdicts action) = view client then []
        else [view (client.stepBy verdicts action)]) ++
        (client.stepBy verdicts action).changes view verdicts later := by
  rw [changes]
  split <;> rfl

/-- A view that is one of the file side changes as it does in the run of the file steps alone. -/
theorem changes_fileSteps {α : Type} [DecidableEq α] {view : Client → α}
    (ofFiles : ∀ client, view (fileSide client) = view client)
    (reachable : Reachable config client.fileSide) (actions : List Action) :
    client.changes view verdicts actions =
      client.fileSide.changes view .byTag (client.fileSteps verdicts actions) := by
  induction actions generalizing client with
  | nil => rfl
  | cons action later inductionHypothesis =>
    have rest := inductionHypothesis (@reachable_stepBy verdicts _ _ reachable action)
    rw [changes_cons, rest]
    cases aside : client.isAside action with
    | true =>
      have same := @stepBy_aside verdicts _ _ (distinct_of_fileSide reachable) aside
      have unseen : view (client.stepBy verdicts action) = view client := by
        rw [← ofFiles, same, ofFiles]
      rw [fileSteps_of_aside aside, if_pos unseen, same]
      rfl
    | false =>
      have same := @stepBy_kept verdicts _ _ _ reachable aside
      have seen : view (client.stepBy verdicts action) = view (client.fileSide.step action) := by
        rw [← ofFiles, same]
      rw [fileSteps_of_kept aside, changes_cons, stepBy_byTag, same, seen, ofFiles client]

/-- Runs with the same file steps show the same changes of every view of the file side. -/
theorem changes_of_fileSteps {α : Type} [DecidableEq α] {view : Client → α}
    (ofFiles : ∀ client, view (fileSide client) = view client)
    (reachable : Reachable config client.fileSide) (same : other.fileSide = client.fileSide)
    {actions script : List Action}
    (steps : other.fileSteps others script = client.fileSteps verdicts actions) :
    other.changes view others script = client.changes view verdicts actions := by
  rw [changes_fileSteps ofFiles (same ▸ reachable), changes_fileSteps ofFiles reachable, steps, same]

/-! ## Writing in time -/

/-- The steps of the file side in two runs, one behind the other. -/
theorem fileSteps_append (first later : List Action) :
    client.fileSteps verdicts (first ++ later) =
      client.fileSteps verdicts first ++ (client.runBy verdicts first).fileSteps verdicts later := by
  induction first generalizing client with
  | nil => rfl
  | cons action rest inductionHypothesis =>
    have next := @inductionHypothesis (client.stepBy verdicts action)
    cases aside : client.isAside action with
    | true =>
      rw [List.cons_append, fileSteps_of_aside aside, fileSteps_of_aside aside, next]
      rfl
    | false =>
      rw [List.cons_append, fileSteps_of_kept aside, fileSteps_of_kept aside, next]
      rfl

/-- A run without file steps leaves the file side as it is. -/
theorem fileSide_of_silent (reachable : Reachable config client.fileSide) {actions : List Action}
    (silent : client.fileSteps verdicts actions = []) :
    (client.runBy verdicts actions).fileSide = client.fileSide := by
  rw [fileSide_of_runBy reachable, silent]
  rfl

/-- While somebody holds the client, what concerns the terminal concerns nothing else. -/
theorem isAside_of_concernsTerminal (held : client.isHeld = true)
    (concerns : action.concernsTerminal = true) : client.isAside action = true := by
  cases action with
  | receive generation message => simp [isAside, concerns, held]
  | transmit generation => cases concerns
  | _ => exact concerns

/-- What is for the files does not concern the terminal alone. -/
theorem isAside_of_isForFiles (forFiles : action.isForFiles = true) :
    client.isAside action = false := by
  obtain ⟨noWrite, apart⟩ := Bool.and_eq_true_iff.mp forFiles
  have keeps : action.concernsTerminal = false := by simpa using apart
  cases action with
  | receive generation message => simp [isAside, keeps]
  | transmit generation => cases noWrite
  | _ => exact keeps

/-- A file step that is not for the files is a write. -/
theorem exists_transmit_of_kept (held : client.isHeld = true) (apart : action.isForFiles = false)
    (kept : client.isAside action = false) : ∃ generation, action = .transmit generation := by
  have writes : action.isWrite = true := by
    rw [← Bool.not_eq_false]
    intro noWrite
    have concerns : action.concernsTerminal = true := by
      simpa [Action.isForFiles, noWrite] using apart
    rw [isAside_of_concernsTerminal held concerns] at kept
    cases kept
  cases action with
  | transmit generation => exact ⟨generation, rfl⟩
  | _ => cases writes

/-- Actions that concern the terminal are no file steps while somebody holds the client. -/
theorem fileSteps_of_concernsTerminal (reachable : Reachable config client.fileSide)
    (held : client.isHeld = true) {actions : List Action}
    (concern : ∀ action ∈ actions, action.concernsTerminal = true) :
    client.fileSteps verdicts actions = [] := by
  induction actions generalizing client with
  | nil => rfl
  | cons action later inductionHypothesis =>
    obtain ⟨first, others⟩ := List.forall_mem_cons.mp concern
    have aside := isAside_of_concernsTerminal held first
    have same := @stepBy_aside verdicts _ _ (distinct_of_fileSide reachable) aside
    have heldToo : (client.stepBy verdicts action).isHeld = true :=
      (congrArg Client.isHeld same).trans held
    rw [fileSteps_of_aside aside]
    exact inductionHypothesis (reachable_stepBy reachable action) heldToo others

/-- A socket can write what stands in its queue before a command for the files. -/
theorem exists_writes (verdicts : Verdicts) (reachable : Reachable config client.fileSide)
    {generation : Nat}
    {number attempt : Nat} {before after : List Command} {command : Command}
    (found : client.link.socket? generation =
      some ⟨number, attempt, before ++ command :: after, .running⟩)
    (hidden : ∀ other ∈ before, other.isAside = true) (shown : command.isAside = false) :
    ∃ writes, (∀ action ∈ writes, action.isWrite = true) ∧
      client.fileSteps verdicts writes = [] ∧
      (client.runBy verdicts writes).isAside (.transmit generation) = false := by
  induction before generalizing client with
  | nil =>
    refine ⟨[], by simp, rfl, ?_⟩
    change client.isAside _ = false
    simp [isAside, Link.dequeue, found, shown]
  | cons first rest inductionHypothesis =>
    obtain ⟨now, others⟩ := List.forall_mem_cons.mp hidden
    obtain ⟨frame, rfl⟩ : ∃ frame, first = .frame frame := by
      cases first with
      | frame frame => exact ⟨frame, rfl⟩
      | shutdown => cases now
    have taken : client.link.dequeue generation =
        some (client.link.changeSocket generation fun socket =>
          { socket with queue := rest ++ command :: after }, .frame frame) := by
      simp [Link.dequeue, found]
    have aside : client.isAside (.transmit generation) = true := by
      simpa [isAside, taken] using now
    have next : (client.stepBy verdicts (.transmit generation)).link.socket? generation =
        some ⟨number, attempt, rest ++ command :: after, .running⟩ := by
      change (client.transmit generation).link.socket? generation = _
      simp only [transmit, taken, note_link]
      rw [Link.socket?_changeSocket _ _ _ (by simp), if_pos rfl, found]
      rfl
    obtain ⟨writes, all, silent, stops⟩ :=
      inductionHypothesis (reachable_stepBy reachable _) next others
    refine ⟨.transmit generation :: writes, ?_, ?_, stops⟩
    · exact List.forall_mem_cons.mpr ⟨rfl, all⟩
    · rwa [fileSteps_of_aside aside]

/-- Where a socket behind the same veil writes for the files, this one comes to do so, too. -/
theorem exists_writes_of_kept (reachable : Reachable config client.fileSide)
    (same : other.fileSide = client.fileSide) {generation : Nat}
    (kept : client.isAside (.transmit generation) = false) :
    ∃ writes, (∀ action ∈ writes, action.isWrite = true) ∧ other.fileSteps others writes = [] ∧
      (other.runBy others writes).isAside (.transmit generation) = false := by
  simp only [isAside] at kept
  cases taken : client.link.dequeue generation with
  | none => simp [taken] at kept
  | some next =>
    obtain ⟨link, command⟩ := next
    have shown : command.isAside = false := by simpa [taken] using kept
    have shows : Veil.terminal.showsCommand command = true := by simp [Veil.showsCommand, shown]
    -- The queues are the same behind the veil, so that this command is the first to be seen in both.
    have front := Link.veiled_dequeue .terminal client.link taken shows
    obtain ⟨socket, rest, found, running, queued, _⟩ := Link.dequeue_eq_some front
    have links : other.link.veiled .terminal = client.link.veiled .terminal :=
      congrArg Client.link same
    rw [← links, Link.socket?_veiled] at found
    obtain ⟨⟨number, attempt, queue, stage⟩, foundOther, rfl⟩ := Option.map_eq_some_iff.mp found
    obtain ⟨before, after, rfl, hidden, _, _⟩ := List.filter_eq_cons_iff.mp queued
    cases running
    refine exists_writes others (same ▸ reachable) foundOther (fun other member => ?_) shown
    simpa [Veil.showsCommand, Veil.terminal] using hidden other member

/-- Somebody holds the client until it is released. -/
theorem isHeld_stepBy (reachable : Reachable config client.fileSide) (held : client.isHeld = true)
    (stays : action ≠ .release) : (client.stepBy verdicts action).isHeld = true := by
  cases aside : client.isAside action with
  | true =>
    have same := @stepBy_aside verdicts _ _ (distinct_of_fileSide reachable) aside
    exact (congrArg Client.isHeld same).trans held
  | false =>
    have same := @stepBy_kept verdicts _ _ _ reachable aside
    refine (congrArg Client.isHeld same).trans ?_
    refine (@step_induct _ action (fun client => client.isHeld = true) reachable.requests_sound
      (fun middle next _ moves heldMiddle => ?_) held).2
    rcases moves.isHeld with keeps | ⟨releases, _⟩
    · exact keeps.trans heldMiddle
    · exact absurd releases stays

/-- The same step for the files leads to the same file side. -/
theorem fileSide_of_kept (reachable : Reachable config client.fileSide)
    (same : other.fileSide = client.fileSide) (keptOther : other.isAside action = false)
    (kept : client.isAside action = false) :
    (other.stepBy others action).fileSide = (client.stepBy verdicts action).fileSide := by
  rw [stepBy_kept (same ▸ reachable) keptOther, stepBy_kept reachable kept, same]

/-- Without its writes, a script that has nothing for the files has no file steps. -/
theorem fileSteps_of_apart (reachable : Reachable config client.fileSide)
    (held : client.isHeld = true) {script : List Action}
    (apart : ∀ action ∈ script, ¬ action.isForFiles = true) :
    client.fileSteps verdicts (script.filter fun action => !action.isWrite) = [] := by
  refine fileSteps_of_concernsTerminal reachable held fun action member => ?_
  obtain ⟨memberScript, noWrite⟩ := List.mem_filter.mp member
  simpa [Action.isForFiles, noWrite] using apart action memberScript

/-- A script that is as a run but for writes and for what concerns the terminal can be given writes,
so that the file steps are those of the run. -/
theorem exists_paced (reachable : Reachable config client.fileSide)
    (same : other.fileSide = client.fileSide) (held : client.isHeld = true)
    {actions script : List Action} (stays : .release ∉ actions)
    (forFiles : script.filter Action.isForFiles = actions.filter Action.isForFiles) :
    ∃ paced, (paced.filter fun action => !action.isWrite) =
        (script.filter fun action => !action.isWrite) ∧
      other.fileSteps others paced = client.fileSteps verdicts actions := by
  induction actions generalizing client other script with
  | nil =>
    refine ⟨script.filter fun action => !action.isWrite, by simp, ?_⟩
    have reachableOther : Reachable config other.fileSide := same ▸ reachable
    exact fileSteps_of_apart reachableOther ((congrArg Client.isHeld same).trans held)
      (List.filter_eq_nil_iff.mp forFiles)
  | cons action later inductionHypothesis =>
    obtain ⟨now, afterwards⟩ := List.ne_and_not_mem_of_not_mem_cons stays
    have heldNext := @isHeld_stepBy verdicts _ _ _ reachable held (Ne.symm now)
    have reachableNext := @reachable_stepBy verdicts _ _ reachable action
    have heldOther : other.isHeld = true := (congrArg Client.isHeld same).trans held
    have reachableOther : Reachable config other.fileSide := same ▸ reachable
    -- An action without file steps is left out.
    have leftOut : client.isAside action = true → action.isForFiles = false →
        ∃ paced, (paced.filter fun action => !action.isWrite) =
            (script.filter fun action => !action.isWrite) ∧
          other.fileSteps others paced = client.fileSteps verdicts (action :: later) := by
      intro aside apart
      rw [List.filter_cons_of_neg (by simp [apart])] at forFiles
      rw [fileSteps_of_aside aside]
      refine inductionHypothesis reachableNext ?_ heldNext afterwards forFiles
      rw [stepBy_aside (distinct_of_fileSide reachable) aside, same]
    -- Behind steps without file steps, an action for the files does the same in both.
    have joined : ∀ {first : List Action} {rest : List Action},
        other.fileSteps others first = [] →
        (other.runBy others first).isAside action = false → client.isAside action = false →
        rest.filter Action.isForFiles = later.filter Action.isForFiles →
        ∃ paced, (paced.filter fun action => !action.isWrite) =
            (rest.filter fun action => !action.isWrite) ∧
          other.fileSteps others (first ++ action :: paced) =
            client.fileSteps verdicts (action :: later) := by
      intro first rest silent keptOther kept forFilesRest
      have sameBefore := (fileSide_of_silent reachableOther silent).trans same
      have sameNext : ((other.runBy others first).stepBy others action).fileSide =
          (client.stepBy verdicts action).fileSide :=
        fileSide_of_kept reachable sameBefore keptOther kept
      obtain ⟨paced, written, steps⟩ :=
        inductionHypothesis reachableNext sameNext heldNext afterwards forFilesRest
      refine ⟨paced, written, ?_⟩
      rw [fileSteps_append, silent, List.nil_append, fileSteps_of_kept keptOther,
        fileSteps_of_kept kept, steps]
    cases forThem : action.isForFiles with
    | true =>
      rw [List.filter_cons_of_pos forThem] at forFiles
      obtain ⟨before, rest, rfl, apart, _, forFilesRest⟩ := List.filter_eq_cons_iff.mp forFiles
      have noWrite : action.isWrite = false := by
        simpa using (Bool.and_eq_true_iff.mp forThem).1
      obtain ⟨paced, written, steps⟩ := joined (fileSteps_of_apart reachableOther heldOther apart)
        (isAside_of_isForFiles forThem) (isAside_of_isForFiles forThem) forFilesRest
      refine ⟨_, ?_, steps⟩
      simp [written, noWrite]
    | false =>
      cases aside : client.isAside action with
      | true => exact leftOut aside forThem
      | false =>
        obtain ⟨generation, rfl⟩ := exists_transmit_of_kept held forThem aside
        rw [List.filter_cons_of_neg (by simp [forThem])] at forFiles
        obtain ⟨writes, all, silent, stops⟩ := exists_writes_of_kept reachable same aside
        obtain ⟨paced, written, steps⟩ := joined silent stops aside forFiles
        refine ⟨_, ?_, steps⟩
        have none : (writes.filter fun action => !action.isWrite) = [] :=
          List.filter_eq_nil_iff.mpr fun action member => by simp [all action member]
        rw [List.filter_append, none, List.nil_append,
          List.filter_cons_of_neg (by simp [Action.isWrite]), written]

/-! ## Clients that nobody holds -/

/-- The step of a client that nobody holds ends no call, and hands no frame to a socket. -/
theorem trace_of_unheld (reachable : Reachable config client) (unheld : client.isHeld = false)
    (action : Action) : ∃ events, (client.step action).trace = events ++ client.trace ∧
      ∀ event ∈ events, event.finished? = none ∧ event.sent? = none := by
  have nothing : ∀ {after : Client}, after.trace = client.trace →
      ∃ events, after.trace = events ++ client.trace ∧
        ∀ event ∈ events, event.finished? = none ∧ event.sent? = none :=
    fun same => ⟨[], same, by simp⟩
  have noted : ∀ (event : Event) (after : Client), after.trace = event :: client.trace →
      event.finished? = none ∧ event.sent? = none →
      ∃ events, after.trace = events ++ client.trace ∧
        ∀ event ∈ events, event.finished? = none ∧ event.sent? = none :=
    fun event _ same aside => ⟨[event], same, by simpa using aside⟩
  unfold step
  split
  · exact nothing rfl
  · next possible =>
    cases action with
    | settle attempt handshake => exact nothing rfl
    | wait time => exact nothing rfl
    | receive generation message =>
      simp only [perform, receive, unheld]
      split
      · exact noted _ _ rfl ⟨rfl, rfl⟩
      · exact nothing rfl
      · exact nothing rfl
    | resolve attempt =>
      have none : client.link.attempt? attempt = none := by
        simp [Link.attempt?, reachable.tended.unheld unheld]
      simp only [perform, resolve, none]
      exact nothing rfl
    | poll request =>
      simp only [perform, poll, (reachable.sound.released unheld).2.2]
      exact nothing rfl
    | transmit generation =>
      simp only [perform, transmit]
      split
      · exact nothing rfl
      · exact noted _ _ rfl ⟨rfl, rfl⟩
      · exact noted _ _ rfl ⟨rfl, rfl⟩
    | report generation =>
      simp only [perform, report, unheld]
      split
      · exact nothing rfl
      · next handler later _ =>
        cases handler with
        | fileService => exact noted _ _ rfl ⟨rfl, rfl⟩
        | custom name claims hears => exact noted _ _ rfl ⟨rfl, rfl⟩
      · exact nothing rfl
      · exact nothing rfl
    | _ => simp [Action.isOwners, unheld] at possible

/-- A client that nobody holds keeps its account. -/
theorem account_step_of_unheld (reachable : Reachable config client)
    (unheld : client.isHeld = false) (action : Action) :
    (client.step action).isHeld = false ∧ (client.step action).account = client.account := by
  have unheldNext : (client.step action).isHeld = false := by
    rw [← Bool.not_eq_true]
    intro held
    rw [(client.step_tells action).held held] at unheld
    cases unheld
  -- Nothing is under way in either of them.
  have ended : ∀ {client : Client}, Reachable config client → client.isHeld = false →
      client.phase = .closed ∧ client.requests.pending = 0 ∧ client.calls = [] := by
    intro client reachable unheld
    obtain ⟨closed, calls, _⟩ := reachable.sound.released unheld
    exact ⟨congrArg Lifecycle.phase closed,
      congrArg List.length (reachable.sound.inFlight_eq_nil unheld), calls⟩
  obtain ⟨phase, pending, calls⟩ := ended reachable unheld
  obtain ⟨phaseNext, pendingNext, callsNext⟩ := ended (reachable.step action) unheldNext
  obtain ⟨events, told, aside⟩ := trace_of_unheld reachable unheld action
  have unseen : ∀ {α : Type} {view : Event → Option α}, (∀ event ∈ events, view event = none) →
      (client.step action).trace.reverse.filterMap view = client.trace.reverse.filterMap view := by
    intro α view silent
    rw [told, List.reverse_append, List.filterMap_append]
    have none : events.reverse.filterMap view = [] :=
      List.filterMap_eq_nil_iff.mpr fun event member => silent event (List.mem_reverse.mp member)
    rw [none, List.append_nil]
  refine ⟨unheldNext, ?_⟩
  simp only [account, phase, pending, calls, phaseNext, pendingNext, callsNext,
    unseen fun event member => (aside event member).1,
    unseen fun event member => (aside event member).2]

/-- The account of a client that nobody holds stays as it is. -/
theorem account_of_unheld (reachable : Reachable config client.fileSide)
    (unheld : client.isHeld = false) (action : Action) :
    (client.stepBy verdicts action).isHeld = false ∧
      (client.stepBy verdicts action).account = client.account := by
  cases aside : client.isAside action with
  | true =>
    have same := @stepBy_aside verdicts _ _ (distinct_of_fileSide reachable) aside
    exact ⟨(congrArg Client.isHeld same).trans unheld,
      by rw [← account_fileSide, same, account_fileSide]⟩
  | false =>
    have same := @stepBy_kept verdicts _ _ _ reachable aside
    obtain ⟨unheldNext, kept⟩ := account_step_of_unheld reachable unheld action
    exact ⟨(congrArg Client.isHeld same).trans unheldNext,
      by rw [← account_fileSide, same, kept, account_fileSide]⟩

/-- Nothing changes for callers once nobody holds the client. -/
theorem changes_of_unheld (reachable : Reachable config client.fileSide)
    (unheld : client.isHeld = false) (actions : List Action) :
    client.changes account verdicts actions = [] := by
  induction actions generalizing client with
  | nil => rfl
  | cons action later inductionHypothesis =>
    obtain ⟨unheldNext, same⟩ := @account_of_unheld verdicts _ _ reachable unheld action
    rw [changes_cons, if_pos same, List.nil_append]
    exact inductionHypothesis (reachable_stepBy reachable action) unheldNext

/-! ## Scripts -/

/-- Changes in two runs, one behind the other. -/
theorem changes_append {α : Type} [DecidableEq α] {view : Client → α} (first later : List Action) :
    client.changes view verdicts (first ++ later) = client.changes view verdicts first ++
      (client.runBy verdicts first).changes view verdicts later := by
  induction first generalizing client with
  | nil => rfl
  | cons action rest inductionHypothesis =>
    rw [List.cons_append, changes_cons, changes_cons, inductionHypothesis, List.append_assoc]
    rfl

theorem isHeld_release (client : Client) :
    (client.stepBy verdicts .release).isHeld = false := by
  change (client.step .release).isHeld = false
  unfold step
  split
  · next possible =>
    simpa [Action.isOwners] using possible
  · simp [perform, release, noteAll_eq]

/-- Nothing changes for callers behind a release. -/
theorem changes_release (reachable : Reachable config client.fileSide) (before after : List Action) :
    client.changes account verdicts (before ++ .release :: after) =
      client.changes account verdicts (before ++ [.release]) := by
  have reachableNext := @reachable_stepBy verdicts _ _
    (@reachable_runBy verdicts _ _ reachable before) .release
  rw [changes_append, changes_append, changes_cons, changes_cons,
    changes_of_unheld reachableNext (isHeld_release _)]
  rfl

/-- A script that is as a run but for writes and for what concerns the terminal can be given writes,
so that the account changes as in the run. -/
theorem exists_paced_account (reachable : Reachable config client.fileSide)
    (same : other.fileSide = client.fileSide) (held : client.isHeld = true)
    {actions script : List Action}
    (forFiles : script.filter Action.isForFiles = actions.filter Action.isForFiles) :
    ∃ paced, (paced.filter fun action => !action.isWrite) =
        (script.filter fun action => !action.isWrite) ∧
      other.changes account others paced = client.changes account verdicts actions ∧
      (.release ∉ actions → other.fileSteps others paced = client.fileSteps verdicts actions) := by
  have reachableOther : Reachable config other.fileSide := same ▸ reachable
  by_cases releases : .release ∈ actions
  · obtain ⟨before, after, rfl, stays⟩ := List.eq_append_cons_of_mem releases
    rw [List.filter_append, List.filter_cons_of_pos (by rfl)] at forFiles
    obtain ⟨first, second, rfl, forFilesFirst, rest⟩ := List.filter_eq_append_iff.mp forFiles
    obtain ⟨lead, later, rfl, apart, _, _⟩ := List.filter_eq_cons_iff.mp rest
    have forFilesLead : (first ++ lead).filter Action.isForFiles =
        before.filter Action.isForFiles := by
      rw [List.filter_append, List.filter_eq_nil_iff.mpr apart, List.append_nil, forFilesFirst]
    obtain ⟨paced, written, steps⟩ :=
      @exists_paced verdicts others _ _ _ reachable same held _ _ stays forFilesLead
    have stepsToo : other.fileSteps others (paced ++ [.release]) =
        client.fileSteps verdicts (before ++ [.release]) := by
      rw [fileSteps_append, fileSteps_append, steps]
      rfl
    refine ⟨paced ++ .release :: later, ?_, ?_, fun stays => absurd releases stays⟩
    · rw [List.filter_append, written, ← List.filter_append]
      simp
    · rw [changes_release reachableOther, changes_release reachable _ after]
      exact changes_of_fileSteps account_fileSide reachable same stepsToo
  · obtain ⟨paced, written, steps⟩ :=
      @exists_paced verdicts others _ _ _ reachable same held _ _ releases forFiles
    exact ⟨paced, written, changes_of_fileSteps account_fileSide reachable same steps,
      fun _ => steps⟩

/-! ## Writes to the terminal -/

theorem writes_eq (client : Client) :
    client.writes = client.notices.reverse.filterMap Event.shown? := by
  simp only [writes, notices, ← List.filter_reverse, List.filterMap_filter]
  congr 1
  funext event
  cases event <;> rfl

/-- Steps without news write nothing to the terminal, whatever handlers go by. -/
theorem writes_stepBy (silent : client.news action = []) :
    (client.stepBy verdicts action).writes = client.writes := by
  rcases stepBy_cases verdicts client action with same | ⟨_, _, frame, _, offered, _⟩
  · rw [same, writes_eq, writes_eq, (client.step_tells action).notices, silent]
    rfl
  · obtain ⟨events, told, consults⟩ := @offerBy_consults verdicts client frame client.handlers
    have unseen : events.reverse.reverse.filterMap Event.shown? = [] := by
      refine List.filterMap_eq_nil_iff.mpr fun event member => ?_
      obtain ⟨handler, _, claimed, rfl⟩ := consults.of_mem (by simpa using member)
      rfl
    rw [offered, writes, told, List.reverse_append, List.filterMap_append, unseen, List.append_nil,
      writes]

/-- Only openings, reports of sockets and messages that are no replies have news. -/
theorem news_of_files (opens : ∀ number, action ≠ .resolve number)
    (reports : ∀ generation, action ≠ .report generation)
    (replies : ∀ generation octets, action = .receive generation (.binary octets) →
      action.reply? ≠ none) : client.news action = [] := by
  cases action with
  | resolve number => exact absurd rfl (opens number)
  | report generation => exact absurd rfl (reports generation)
  | receive generation message =>
    cases message with
    | binary octets =>
      have isReply := replies generation octets rfl
      simp only [Action.reply?] at isReply
      simp only [news]
      split
      · cases decoded : Inbound.decode octets with
        | error failure => rfl
        | ok frame =>
          rw [decoded] at isReply
          cases frame <;> first | rfl | exact absurd rfl isReply
      · rfl
    | _ => rfl
  | _ => rfl

/-! ## Both ways -/

/-- Everything that can come in beside replies leaves the files alone. -/
theorem isForFiles_receive (generation : Nat) (octets : Bytes) :
    (Action.receive generation (.binary octets)).isForFiles = false ↔
      (∃ failure, Inbound.decode octets = .error failure) ∨
        (∃ data, Inbound.decode octets = .ok (.terminalOutput data)) ∨
        Inbound.decode octets = .ok .terminalOpened ∨
        Inbound.decode octets = .ok .terminalClosed ∨
        (∃ text, Inbound.decode octets = .ok (.log text)) ∨
        ∃ tag payload, Inbound.decode octets = .ok (.unknown tag payload) := by
  simp only [Action.isForFiles, Action.isWrite, Action.concernsTerminal, Action.reply?]
  cases Inbound.decode octets with
  | error failure => simp
  | ok frame => cases frame <;> simp [Inbound.reply?]

/-- Neither do the terminal and what comes in for it change anything for the files, nor do
operations on files and their replies for the terminal. -/
theorem terminal_apart (verdicts others : Verdicts) (config : Config) :
    KeepsApart verdicts others config where
  agree steps := by
    refine changes_of_fileSteps (fun client => ?_) .initial rfl steps
    rw [account_fileSide, filesWritten_fileSide]
  paced forFiles := exists_paced_account .initial rfl rfl forFiles
  attaching _ := rfl
  operating operation := by
    have concerns : isForTerminal operation.frame.encode = true := by
      rw [isForTerminal_encode]
      cases operation <;> rfl
    simp [Action.isForFiles, Action.concernsTerminal, concerns]
  receiving := isForFiles_receive
  silent before action writes := by
    by_contra others
    simp only [not_or, not_exists, not_and] at others
    obtain ⟨opens, reports, messages⟩ := others
    refine writes ?_
    rw [ranBy, runBy_append]
    exact writes_stepBy (news_of_files opens reports messages)

end Client

end RemoteAgent
