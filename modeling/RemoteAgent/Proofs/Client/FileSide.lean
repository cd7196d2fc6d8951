import RemoteAgent.Proofs.Client.Routing
import RemoteAgent.Proofs.Client.Veils

/-!
# The terminal and the files do not interfere

The terminal and the files share a link, its sockets and their queues. Behind a veil that hides the
terminal there is the file side of a client. Actions that concern the terminal leave it as it is
(`stepBy_aside`), and all others do to it what they do to a client that never had a terminal
(`stepBy_kept`), whatever handlers go by. So a run does to the file side what the rest of its steps do
(`fileSide_of_runBy`).
-/

namespace RemoteAgent

/-- The veil that hides the terminal. -/
def Veil.terminal : Veil := ⟨id, true⟩

namespace Client

/-- A client without all that concerns its terminal. -/
abbrev fileSide (client : Client) : Client := client.veiled .terminal

/-- The steps of a run that do not concern the terminal alone. -/
def fileSteps (verdicts : Verdicts) (client : Client) : List Action → List Action
  | [] => []
  | action :: later =>
    if client.isAside action then (client.stepBy verdicts action).fileSteps verdicts later
    else action :: (client.stepBy verdicts action).fileSteps verdicts later

variable {verdicts : Verdicts} {config : Config} {client after : Client} {action : Action}

/-! ## Generations -/

/-- The sockets of a link have generations of their own. -/
def Distinct (link : Link) : Prop := (link.sockets.map (·.generation)).Nodup

theorem Distinct.changeSocket {link : Link} (distinct : Distinct link) (generation : Nat)
    {change : Socket → Socket} (keeps : ∀ socket, (change socket).generation = socket.generation) :
    Distinct (link.changeSocket generation change) := by
  have same : (link.changeSocket generation change).sockets.map (·.generation) =
      link.sockets.map (·.generation) := by
    simp only [Link.changeSocket, List.map_map]
    refine List.map_congr_left fun socket _ => ?_
    simp only [Function.comp]
    split
    · exact keeps socket
    · rfl
  rwa [Distinct, same]

theorem Distinct.retire {link : Link} (distinct : Distinct link) (generation : Nat) :
    Distinct (link.retire generation) :=
  (List.filter_sublist.map _).nodup distinct

theorem Distinct.toldAllBut {link : Link} (distinct : Distinct link) (generation : Nat)
    (remaining : List Handler) : Distinct (link.toldAllBut generation remaining) := by
  cases remaining with
  | nil => exact distinct.retire generation
  | cons handler later => exact distinct.changeSocket generation fun _ => rfl

theorem Distinct.close {link : Link} (distinct : Distinct link) : Distinct link.close := by
  unfold Link.close
  split
  · next generation _ => exact distinct.changeSocket generation fun _ => rfl
  · exact distinct

/-- The socket that opens next has a generation that no other one has. -/
theorem Distinct.attach {link : Link} (distinct : Distinct link) (sound : link.Sound)
    (number : Nat) : Distinct (link.attach number) := by
  simp only [Distinct, Link.attach, List.map_append, List.map_cons, List.map_nil]
  refine List.nodup_append.mpr ⟨distinct, by simp, ?_⟩
  rintro generation member other memberNext rfl
  obtain ⟨socket, memberSocket, rfl⟩ := List.mem_map.mp member
  have least := sound.generation_le (find?_of_nodup distinct memberSocket)
  have next := List.mem_singleton.mp memberNext
  omega

/-- A move of the link keeps generations apart. -/
theorem LinkMove.distinct (moves : LinkMove action client after) (sound : client.link.Sound)
    (distinct : Distinct client.link) : Distinct after.link := by
  cases moves with
  | closes => exact distinct.close
  | opens => exact distinct.attach sound _
  | accepts => exact distinct.changeSocket _ fun _ => rfl
  | writes => exact distinct.changeSocket _ fun _ => rfl
  | breaks => exact distinct.changeSocket _ Socket.generation_ended
  | announces => exact distinct.changeSocket _ fun _ => rfl
  | retires => exact distinct.retire _
  | tells => exact distinct.toldAllBut _ _
  | _ => exact distinct

/-- In every run, sockets have generations of their own. -/
theorem Reachable.distinct (reachable : Reachable config client) : Distinct client.link := by
  refine @Reachable.bySoundMoves client config (fun client => Distinct client.link) reachable
    List.nodup_nil fun action client after sound moves distinct => ?_
  cases moves with
  | remarks remarks => rwa [remarks.link]
  | registers => exact distinct
  | waits => exact distinct
  | request moves =>
    rcases moves.link with same | ⟨generation, frame, _, pushed⟩
    · rwa [same]
    · rw [pushed]
      exact distinct.changeSocket generation fun _ => rfl
  | link moves => exact moves.distinct sound.link distinct
  | loses => exact distinct.toldAllBut _ _
  | releases => exact distinct.close

/-! ## Steps -/

/-- A frame that is no reply leaves the file side as it is, whoever gets it. -/
theorem fileSide_offerBy {frame : Inbound} (noReply : frame.reply? = none)
    (handlers : List Handler) :
    (client.offerBy verdicts frame handlers).fileSide = client.fileSide := by
  have handled : ∀ (client : Client) handler,
      (client.handleBy verdicts frame handler).fileSide = client.fileSide := by
    intro client handler
    have hidden : ∀ claimed, Veil.terminal.showsEvent (.offered handler frame claimed) = false := by
      simp [Veil.showsEvent, Event.isAside, noReply, Veil.terminal]
    cases handler with
    | fileService =>
      rw [handleBy, handle_fileService]
      simp only [Requests.afterFrame, noReply]
      exact veiled_note_hidden _ client (hidden _)
    | custom name tags hears => exact veiled_note_hidden _ client (hidden _)
  induction handlers generalizing client with
  | nil => rfl
  | cons handler later inductionHypothesis =>
    unfold offerBy
    split
    · exact handled client handler
    · exact inductionHypothesis.trans (handled client handler)

/-- A message that is no reply leaves the file side as it is. -/
theorem fileSide_dispatchBy {generation : Nat} {octets : Bytes}
    (noReply : (Action.receive generation (.binary octets)).reply? = none) :
    (client.dispatchBy verdicts octets).fileSide = client.fileSide := by
  simp only [Action.reply?] at noReply
  unfold dispatchBy dispatch addressee
  cases decoded : Inbound.decode octets with
  | error failure => exact veiled_note_hidden _ client rfl
  | ok frame =>
    simp only [decoded] at noReply
    cases frame with
    | terminalOutput data => exact veiled_write _ client data
    | terminalOpened => exact veiled_announce _ client _
    | terminalClosed => exact veiled_announce _ client _
    | log text => exact veiled_note_hidden _ client rfl
    | _ => exact fileSide_offerBy noReply _

/-- A command for the terminal is taken from a queue without a trace. -/
theorem fileSide_transmit (distinct : Distinct client.link) {generation : Nat}
    (aside : ∀ link command, client.link.dequeue generation = some (link, command) →
      command.isAside = true) : (client.transmit generation).fileSide = client.fileSide := by
  unfold transmit
  cases taken : client.link.dequeue generation with
  | none => rfl
  | some next =>
    obtain ⟨link, command⟩ := next
    have concerns := aside link command taken
    cases command with
    | shutdown => cases concerns
    | frame octets =>
      have hidden : Veil.terminal.showsCommand (.frame octets) = false := by
        simp [Veil.showsCommand, Veil.terminal, concerns]
      have same := Link.veiled_dequeue_hidden .terminal client.link distinct taken hidden
      have silent : Veil.terminal.showsEvent (.transmitted generation octets) = false := hidden
      refine (veiled_note_hidden _ { client with link } silent).trans ?_
      simp only [veiled, same]

/-- A frame for the terminal is accepted without a trace. -/
theorem fileSide_send {frame : Bytes} (aside : isForTerminal frame = true) :
    (client.send frame).fileSide = client.fileSide := by
  have hidden : Veil.terminal.showsCommand (.frame frame) = false := by
    simp [Veil.showsCommand, Veil.terminal, Command.isAside, aside]
  unfold send
  cases accepted : client.link.accept frame with
  | none => rfl
  | some next =>
    obtain ⟨link, generation⟩ := next
    obtain ⟨_, pushed⟩ := Link.accept_eq_some_iff.mp accepted
    have same := Link.veiled_push_hidden .terminal client.link hidden generation
    have silent : Veil.terminal.showsEvent (.accepted generation frame) = false := hidden
    refine (veiled_note_hidden _ { client with link } silent).trans ?_
    simp only [veiled, pushed, same]

/-- A message on a socket that does not run does nothing. -/
theorem step_receive_stopped {generation : Nat}
    (stopped : client.link.stage? generation ≠ some .running) (message : Message) :
    client.step (.receive generation message) = client := by
  change client.receive generation message = client
  unfold receive
  split
  · next found => exact absurd (stage?_of_found found) stopped
  · next found => exact absurd (stage?_of_found found) stopped
  · rfl

/-- An action that concerns the terminal alone leaves the file side as it is. -/
theorem stepBy_aside (distinct : Distinct client.link) (aside : client.isAside action = true) :
    (client.stepBy verdicts action).fileSide = client.fileSide := by
  cases action with
  | attachTerminal terminal =>
    change (client.step (.attachTerminal terminal)).fileSide = client.fileSide
    unfold step
    split <;> rfl
  | send frame =>
    change (client.step (.send frame)).fileSide = client.fileSide
    unfold step
    split
    · rfl
    · exact fileSide_send aside
  | transmit generation =>
    refine fileSide_transmit distinct fun link command taken => ?_
    simpa [isAside, taken] using aside
  | receive generation message =>
    obtain ⟨concerns, spared⟩ := Bool.and_eq_true_iff.mp aside
    cases message with
    | binary octets =>
      have noReply := Option.isNone_iff_eq_none.mp concerns
      simp only [stepBy]
      split
      · exact fileSide_dispatchBy noReply
      · next silent =>
        have stopped : client.link.stage? generation ≠ some .running := by
          intro running
          simp only [running, bne_self_eq_false, Bool.or_false] at spared
          exact silent ⟨running, spared⟩
        rw [step_receive_stopped stopped]
    | _ => cases concerns
  | _ => cases aside

/-- A reply goes no further than the file service, whatever other handlers go by. -/
theorem dispatchBy_reply {later : List Handler} (chain : client.handlers = .fileService :: later)
    {octets : Bytes} {frame : Inbound} (decoded : Inbound.decode octets = .ok frame)
    (isReply : frame.reply?.isSome = true) :
    client.dispatchBy verdicts octets = client.dispatch octets := by
  have offered := addressee_of_reply decoded isReply
  have claimed : Handler.fileService.claims frame = true := isReply
  simp only [dispatchBy, offered, dispatch_of_handlers offered, chain, offerBy, offer,
    Verdicts.claims, claimed, if_true, handleBy]

/-- What handlers go by does not matter for an action that is not aside. -/
theorem stepBy_eq_step {later : List Handler} (chain : client.handlers = .fileService :: later)
    (kept : client.isAside action = false) : client.stepBy verdicts action = client.step action := by
  unfold stepBy
  split
  · next generation octets =>
    split
    · next both =>
      obtain ⟨running, held⟩ := both
      obtain ⟨socket, found, runs⟩ := Option.map_eq_some_iff.mp running
      rw [step_receive_binary held found runs]
      simp only [isAside, held, Bool.true_or, Bool.and_true, Action.concernsTerminal,
        Action.reply?] at kept
      cases decoded : Inbound.decode octets with
      | error failure => simp [decoded] at kept
      | ok frame =>
        refine dispatchBy_reply chain decoded ?_
        simpa [decoded, Option.isNone_eq_false_iff] using kept
    · rfl
  · rfl

/-- Any other action does the same to the file side of a client as to the client. -/
theorem stepBy_kept (reachable : Reachable config client.fileSide)
    (kept : client.isAside action = false) :
    (client.stepBy verdicts action).fileSide = client.fileSide.step action := by
  obtain ⟨later, chain, _⟩ := reachable.sound.handlers
  rw [stepBy_eq_step (show client.handlers = .fileService :: later from chain) kept]
  exact step_veiled .terminal client reachable.asksForFiles fun _ => kept

/-- The sockets of the file side have the generations of the client. -/
theorem distinct_of_fileSide (reachable : Reachable config client.fileSide) :
    Distinct client.link := by
  have distinct := reachable.distinct
  simp only [Distinct, veiled, Link.veiled, List.map_map] at distinct
  exact distinct

/-- The file side stays one that a run comes to, whatever handlers go by. -/
theorem reachable_stepBy (reachable : Reachable config client.fileSide) (action : Action) :
    Reachable config (client.stepBy verdicts action).fileSide := by
  cases aside : client.isAside action with
  | true => rwa [stepBy_aside (distinct_of_fileSide reachable) aside]
  | false =>
    rw [stepBy_kept reachable aside]
    exact reachable.step action

/-- An action that concerns the terminal alone is no step of the file side. -/
theorem fileSteps_of_aside (aside : client.isAside action = true) (later : List Action) :
    client.fileSteps verdicts (action :: later) =
      (client.stepBy verdicts action).fileSteps verdicts later := if_pos aside

/-- Any other action is one. -/
theorem fileSteps_of_kept (kept : client.isAside action = false) (later : List Action) :
    client.fileSteps verdicts (action :: later) =
      action :: (client.stepBy verdicts action).fileSteps verdicts later :=
  if_neg (by simp [kept])

/-- A run does to the file side what the steps do that do not concern the terminal alone. -/
theorem fileSide_of_runBy (reachable : Reachable config client.fileSide) (actions : List Action) :
    (client.runBy verdicts actions).fileSide =
      client.fileSide.run (client.fileSteps verdicts actions) := by
  induction actions generalizing client with
  | nil => rfl
  | cons action later inductionHypothesis =>
    refine (inductionHypothesis (reachable_stepBy reachable action)).trans ?_
    cases aside : client.isAside action with
    | true => rw [fileSteps_of_aside aside, stepBy_aside (distinct_of_fileSide reachable) aside]
    | false =>
      rw [fileSteps_of_kept aside, stepBy_kept reachable aside]
      rfl

/-- The file side stays one that a run comes to in a whole run. -/
theorem reachable_runBy (reachable : Reachable config client.fileSide) (actions : List Action) :
    Reachable config (client.runBy verdicts actions).fileSide := by
  rw [fileSide_of_runBy reachable]
  exact reachable.run _

end Client

end RemoteAgent
