import RemoteAgent.Proofs.Client.Chains
import RemoteAgent.Proofs.Client.Replies
import RemoteAgent.Proofs.Frame.Inbound
import RemoteAgent.Proofs.Frame.Wire

/-!
# Where messages from the agent go

The octets of a message say whom it is for (`addressee`): nobody if they are no frame, the terminal,
the log, or the handlers. `Lands` says what the message does there, and that it does nothing else.
The tables that tell kinds of frames apart agree with this on all octets
(`addressee_eq_handlers_iff`). As the file service is the first handler and claims every reply, the
others only get frames whose tags have no kind. This is so for any messages on running sockets after
any run, whatever the handlers go by (`messages_routed`).
-/

namespace RemoteAgent

/-- Whom a message from the agent is for. -/
inductive Addressee where
  /-- Nobody, because it is no frame. -/
  | nobody (failure : Failure)
  /-- The terminal, which shows the octets. -/
  | terminal (data : Bytes)
  /-- The terminal, which shows a notice. -/
  | notice (line : StatusLine)
  /-- The log, which takes the agent's text. -/
  | log (text : String)
  /-- The handlers. -/
  | handlers (frame : Inbound)

/-- Whom a frame is for. -/
def Inbound.addressee : Inbound → Addressee
  | .terminalOutput data => .terminal data
  | .terminalOpened => .notice .terminalOpened
  | .terminalClosed => .notice .terminalClosed
  | .log text => .log text
  | frame => .handlers frame

/-- Whom the octets of a message are for. -/
def addressee (octets : Bytes) : Addressee :=
  match Inbound.decode octets with
  | .ok frame => frame.addressee
  | .error failure => .nobody failure

namespace Client

/-- Deals with the octets of a frame, whatever handlers go by. -/
def dispatchBy (verdicts : Verdicts) (client : Client) (octets : Bytes) : Client :=
  match addressee octets with
  | .handlers frame => client.offerBy verdicts frame client.handlers
  | _ => client.dispatch octets

/-- Deals with messages one after another, whatever handlers go by. -/
def dispatchAll (verdicts : Verdicts) (client : Client) (messages : List Bytes) : Client :=
  messages.foldl (dispatchBy verdicts) client

/-- One step, whatever handlers go by. Nothing but a frame that comes in on a running socket is
offered to them. -/
def stepBy (verdicts : Verdicts) (client : Client) : Action → Client
  | .receive generation (.binary octets) =>
    if client.link.stage? generation = some .running ∧ client.isHeld = true then
      client.dispatchBy verdicts octets
    else client.step (.receive generation (.binary octets))
  | action => client.step action

/-- Several steps, whatever handlers go by. -/
def runBy (verdicts : Verdicts) (client : Client) (actions : List Action) : Client :=
  actions.foldl (stepBy verdicts) client

/-- The client of a configuration after a run, whatever handlers go by. -/
abbrev ranBy (verdicts : Verdicts) (config : Config) (actions : List Action) : Client :=
  (Client.initial config).runBy verdicts actions

/-- Messages that come in on the sockets of generations. -/
def arrivals (messages : List (Nat × Bytes)) : List Action :=
  messages.map fun message => .receive message.1 (.binary message.2)

/-- What a message brings about with the one whom it is for, the first thing first. -/
def Arrives (verdicts : Verdicts) (client : Client) (octets : Bytes) (events : List Event) :
    Addressee → Prop
  | .nobody failure => events = [.malformed failure octets.length]
  | .terminal data => events = client.lines data
  | .notice line => events = client.lines (line.octets client.config.agent)
  | .log text => events = [.logged agentLogTarget text]
  | .handlers frame => Consults verdicts client.trace frame client.handlers events

/-- All that becomes of a message. -/
structure Lands (verdicts : Verdicts) (client : Client) (octets : Bytes) (events : List Event)
    (after : Client) : Prop where
  told : after.trace = events.reverse ++ client.trace
  /-- What is done is done with the one whom the octets are for. -/
  arrives : Arrives verdicts client octets events (addressee octets)
  /-- Handlers are asked exactly if the octets are a frame and their tag is none that the connection
  deals with itself. -/
  asked : (∃ handler frame claimed, .offered handler frame claimed ∈ events) ↔
    (∃ frame, Inbound.decode octets = .ok frame) ∧
      ∀ kind, octets.head? = some (InboundKind.tag kind) → kind.isTerminal = false
  /-- The file service claims every reply, whether it waits for it or not. -/
  reply : ∀ {frame}, Inbound.decode octets = .ok frame → frame.reply?.isSome = true →
    events = [.offered .fileService frame true]
  /-- Other handlers only get frames whose tag has no kind. -/
  strange : ∀ {handler frame claimed}, .offered handler frame claimed ∈ events →
    handler ≠ .fileService →
      ∃ tag payload, frame = .unknown tag payload ∧ InboundKind.ofTag? tag = none
  /-- The first one of them gets every such frame. -/
  first : ∀ {tag payload next later}, Inbound.decode octets = .ok (.unknown tag payload) →
    client.handlers = .fileService :: next :: later → ∃ claimed rest,
      events = .offered .fileService (.unknown tag payload) false ::
        .offered next (.unknown tag payload) claimed :: rest
  requests : after.requests = match Inbound.decode octets with
    | .ok frame => client.requests.afterFrame frame
    | .error _ => client.requests
  /-- Everything else is as it was, so that every socket runs on that was running. -/
  same : after = { client with trace := after.trace, requests := after.requests }

/-- Messages land one after another. -/
inductive LandInTurn (verdicts : Verdicts) :
    Client → List Bytes → List Event → Client → Prop where
  | nothing {client : Client} : LandInTurn verdicts client [] [] client
  | next {client middle after : Client} {octets : Bytes} {later : List Bytes}
      {events rest : List Event} (lands : Lands verdicts client octets events middle)
      (land : LandInTurn verdicts middle later rest after) :
      LandInTurn verdicts client (octets :: later) (events ++ rest) after

/-- How messages that come in after a run find their way. -/
structure Routes (verdicts : Verdicts) (config : Config) (before : List Action)
    (messages : List (Nat × Bytes)) : Prop where
  /-- With handlers that go by tags, this is what the client itself does. -/
  own : verdicts = .byTag → ranBy verdicts config (before ++ arrivals messages) =
    ran config (before ++ arrivals messages)
  /-- The file service is the first handler, and the others follow as they were registered. -/
  chain : (ranBy verdicts config before).handlers =
    .fileService :: before.filterMap Action.handler?
  /-- Each message has landed before the next one does. -/
  inOrder : ∃ events,
    LandInTurn verdicts (ranBy verdicts config before) (messages.map (·.2)) events
        (ranBy verdicts config (before ++ arrivals messages)) ∧
      (ranBy verdicts config (before ++ arrivals messages)).trace =
        events.reverse ++ (ranBy verdicts config before).trace
  /-- No message ends the socket on which it comes, or any other one. -/
  running : (ranBy verdicts config (before ++ arrivals messages)).link =
    (ranBy verdicts config before).link

end Client

/-! ## Tags -/

/-- The connection deals itself with the frames of exactly those kinds that are said to be so. -/
theorem Inbound.Spells.addressee_iff {octets : Bytes} {frame : Inbound}
    (spells : Inbound.Spells octets frame) : frame.addressee = .handlers frame ↔
      ∀ kind, octets.head? = some (InboundKind.tag kind) → kind.isTerminal = false := by
  have own : ∀ {kind : InboundKind} {payload : Bytes}, kind.isTerminal = true →
      frame.addressee ≠ .handlers frame → (frame.addressee = .handlers frame ↔
        ∀ other, (kind.tag :: payload).head? = some (InboundKind.tag other) →
          other.isTerminal = false) := by
    intro kind payload terminal aside
    refine iff_of_false aside fun others => ?_
    exact absurd (others kind rfl) (by simp [terminal])
  have offered : ∀ {kind : InboundKind} {payload : Bytes}, kind.isTerminal = false →
      ∀ other, (kind.tag :: payload).head? = some (InboundKind.tag other) →
        other.isTerminal = false := by
    intro kind payload notTerminal other same
    rwa [← InboundKind.tag_injective (Option.some.inj same)]
  cases spells with
  | terminalOutput => exact own rfl (by simp [Inbound.addressee])
  | terminalOpened => exact own rfl (by simp [Inbound.addressee])
  | terminalClosed => exact own rfl (by simp [Inbound.addressee])
  | log => exact own rfl (by simp [Inbound.addressee])
  | fileWritten => exact iff_of_true rfl (offered rfl)
  | fileInfo => exact iff_of_true rfl (offered rfl)
  | fileChunk => exact iff_of_true rfl (offered rfl)
  | unknown payload noKind =>
    refine iff_of_true rfl fun kind same => ?_
    cases noKind.symm.trans (InboundKind.ofTag?_eq_some_iff.mpr (Option.some.inj same))

theorem Inbound.eq_of_addressee {frame other : Inbound}
    (offered : frame.addressee = .handlers other) : other = frame := by
  cases frame <;> cases offered <;> rfl

/-- Octets are for the handlers exactly if they are a frame with a tag that the connection does not
deal with itself. -/
theorem addressee_eq_handlers_iff {octets : Bytes} {frame : Inbound} :
    addressee octets = .handlers frame ↔ Inbound.decode octets = .ok frame ∧
      ∀ kind, octets.head? = some (InboundKind.tag kind) → kind.isTerminal = false := by
  unfold addressee
  cases decoded : Inbound.decode octets with
  | error failure => simp
  | ok other =>
    rw [← (Inbound.decides.holds_of_eq decoded : Inbound.Spells octets other).addressee_iff]
    constructor
    · intro offered
      obtain rfl := Inbound.eq_of_addressee offered
      exact ⟨rfl, offered⟩
    · rintro ⟨same, offered⟩
      obtain rfl := Except.ok.inj same
      exact offered

/-- A frame for the handlers is a reply, or its tag has no kind. -/
theorem reply_or_unknown {octets : Bytes} {frame : Inbound}
    (offered : addressee octets = .handlers frame) : frame.reply?.isSome = true ∨
      frame.reply? = none ∧
        ∃ tag payload, frame = .unknown tag payload ∧ InboundKind.ofTag? tag = none := by
  obtain ⟨decoded, tagged⟩ := addressee_eq_handlers_iff.mp offered
  have spells : Inbound.Spells octets frame := Inbound.decides.holds_of_eq decoded
  have forHandlers := spells.addressee_iff.mpr tagged
  cases spells with
  | unknown payload noKind => exact .inr ⟨rfl, _, payload, rfl, noKind⟩
  | fileWritten => exact .inl rfl
  | fileInfo => exact .inl rfl
  | fileChunk => exact .inl rfl
  | _ => cases forHandlers

theorem addressee_of_ok {octets : Bytes} {frame : Inbound}
    (decoded : Inbound.decode octets = .ok frame) : addressee octets = frame.addressee := by
  rw [addressee, decoded]

theorem addressee_of_reply {octets : Bytes} {frame : Inbound}
    (decoded : Inbound.decode octets = .ok frame) (reply : frame.reply?.isSome = true) :
    addressee octets = .handlers frame := by
  rw [addressee_of_ok decoded]
  cases frame <;> first | rfl | cases reply

namespace Client

variable {verdicts : Verdicts} {client after : Client} {octets : Bytes} {frame : Inbound}
  {later : List Handler}

/-! ## One message -/

/-- A message that is not for the handlers lands where it is told. -/
theorem lands_of_aside {events : List Event} {whom : Addressee} (reached : addressee octets = whom)
    (aside : ∀ frame, whom ≠ .handlers frame) (arrives : Arrives verdicts client octets events whom)
    (silent : ∀ handler frame claimed, .offered handler frame claimed ∉ events)
    (dispatched : client.dispatch octets = client.noteAll events) :
    Lands verdicts client octets events (client.dispatchBy verdicts octets) := by
  subst reached
  have same : client.dispatchBy verdicts octets = client.noteAll events := by
    rw [← dispatched, dispatchBy]
    split
    · next frame offered => exact absurd offered (aside frame)
    · rfl
  rw [same, noteAll_eq]
  refine ⟨rfl, arrives, ⟨?_, ?_⟩, ?_, ?_, ?_, ?_, rfl⟩
  · rintro ⟨handler, frame, claimed, member⟩
    exact absurd member (silent handler frame claimed)
  · rintro ⟨⟨frame, decoded⟩, tagged⟩
    exact absurd (addressee_eq_handlers_iff.mpr ⟨decoded, tagged⟩) (aside frame)
  · exact fun decoded reply => absurd (addressee_of_reply decoded reply) (aside _)
  · exact fun member _ => absurd member (silent _ _ _)
  · exact fun decoded _ => absurd (addressee_of_ok decoded) (aside _)
  · cases decoded : Inbound.decode octets with
    | error failure => rfl
    | ok frame =>
      have none : frame.reply? = none := by
        cases reply : frame.reply? with
        | none => rfl
        | some answer => exact absurd (addressee_of_reply decoded (by simp [reply])) (aside frame)
      simp [Requests.afterFrame, none]

/-- The file service answers the request that a frame answers, before other handlers get it. -/
theorem offerBy_requests (chain : client.handlers = .fileService :: later)
    (custom : .fileService ∉ later) :
    (client.offerBy verdicts frame client.handlers).requests =
      client.requests.afterFrame frame := by
  have called : (client.handleBy verdicts frame .fileService).requests =
      client.requests.afterFrame frame := by
    rw [handleBy, handle_fileService]
  rw [chain, offerBy]
  split
  · exact called
  · exact (offerBy_requests_of_custom custom).trans called

/-- A message for the handlers lands with those that are asked. -/
theorem lands_of_handlers (offered : addressee octets = .handlers frame)
    (chain : client.handlers = .fileService :: later) (custom : .fileService ∉ later) :
    ∃ events, Lands verdicts client octets events
      (client.offerBy verdicts frame client.handlers) := by
  obtain ⟨decoded, tagged⟩ := addressee_eq_handlers_iff.mp offered
  obtain ⟨events, told, consults⟩ := @offerBy_consults verdicts client frame client.handlers
  have begins := consults
  rw [chain] at begins
  obtain ⟨own, rest, first⟩ := begins.head
  -- A reply goes no further than the file service, and everything else goes past it.
  have reply : frame.reply?.isSome = true → events = [.offered .fileService frame true] := by
    intro reply
    rcases begins.cons_inv with ⟨_, alone⟩ | ⟨passed, _⟩
    · exact alone
    · cases passed.symm.trans reply
  have strange : ∀ {handler other claimed}, .offered handler other claimed ∈ events →
      handler ≠ .fileService →
        ∃ tag payload, other = .unknown tag payload ∧ InboundKind.ofTag? tag = none := by
    intro handler other claimed member notFirst
    obtain ⟨_, _, _, same⟩ := begins.of_mem member
    cases same
    rcases reply_or_unknown offered with isReply | ⟨_, unknown⟩
    · rw [reply isReply] at member
      cases List.mem_singleton.mp member
      exact absurd rfl notFirst
    · exact unknown
  have next : ∀ {tag payload second others}, frame = .unknown tag payload →
      client.handlers = .fileService :: second :: others → ∃ claimed rest,
        events = .offered .fileService (.unknown tag payload) false ::
          .offered second (.unknown tag payload) claimed :: rest := by
    rintro tag payload second others rfl follows
    rw [follows] at consults
    rcases consults.cons_inv with ⟨claimed, _⟩ | ⟨_, rest, rfl, consultsNext⟩
    · cases claimed
    · obtain ⟨claimed, more, rfl⟩ := consultsNext.head
      exact ⟨claimed, more, rfl⟩
  refine ⟨events, told, by rw [offered]; exact consults,
    ⟨fun _ => ⟨⟨frame, decoded⟩, tagged⟩, fun _ => ?_⟩, fun same isReply => ?_, strange,
    fun same follows => ?_, ?_, offerBy_same⟩
  · exact ⟨.fileService, frame, own, by rw [first]; exact List.mem_cons_self⟩
  · obtain rfl := Except.ok.inj (decoded.symm.trans same)
    exact reply isReply
  · exact next (Except.ok.inj (decoded.symm.trans same)) follows
  · rw [decoded, offerBy_requests chain custom]

/-- Every message lands somewhere. -/
theorem dispatchBy_lands (octets : Bytes) (chain : client.handlers = .fileService :: later)
    (custom : .fileService ∉ later) :
    ∃ events, Lands verdicts client octets events (client.dispatchBy verdicts octets) := by
  have written : ∀ data handler frame claimed,
      .offered handler frame claimed ∉ client.lines data := by
    intro data handler frame claimed member
    cases isNotice_of_mem_lines member
  cases decoded : Inbound.decode octets with
  | error failure =>
    have reached : addressee octets = .nobody failure := by rw [addressee, decoded]
    refine ⟨_, lands_of_aside reached (by simp) rfl (by simp) ?_⟩
    rw [dispatch, decoded]
    rfl
  | ok frame =>
    have reached := addressee_of_ok decoded
    have dispatched : client.dispatch octets = client.route frame := by rw [dispatch, decoded]
    cases frame with
    | terminalOutput data =>
      exact ⟨_, lands_of_aside reached (by simp [Inbound.addressee]) rfl (written _)
        (dispatched.trans (client.write_eq _))⟩
    | terminalOpened =>
      exact ⟨_, lands_of_aside reached (by simp [Inbound.addressee]) rfl (written _)
        (dispatched.trans (client.write_eq _))⟩
    | terminalClosed =>
      exact ⟨_, lands_of_aside reached (by simp [Inbound.addressee]) rfl (written _)
        (dispatched.trans (client.write_eq _))⟩
    | log text =>
      exact ⟨_, lands_of_aside reached (by simp [Inbound.addressee]) rfl (by simp) dispatched⟩
    | _ =>
      simp only [dispatchBy, reached, Inbound.addressee]
      exact lands_of_handlers reached chain custom

/-! ## Handlers that go by tags -/

/-- A message for the handlers is offered to them. -/
theorem dispatch_of_handlers (offered : addressee octets = .handlers frame) :
    client.dispatch octets = client.offer frame client.handlers := by
  obtain ⟨decoded, _⟩ := addressee_eq_handlers_iff.mp offered
  rw [addressee_of_ok decoded] at offered
  rw [dispatch, decoded]
  cases frame <;> first | rfl | cases offered

/-- What handlers go by only matters in a step that offers them a frame. -/
theorem stepBy_cases (verdicts : Verdicts) (client : Client) (action : Action) :
    client.stepBy verdicts action = client.step action ∨ ∃ generation octets frame,
      action = .receive generation (.binary octets) ∧
        client.stepBy verdicts action = client.offerBy verdicts frame client.handlers ∧
        client.step action = client.offer frame client.handlers := by
  unfold stepBy
  split
  · next generation octets =>
    split
    · next both =>
      obtain ⟨socket, found, running⟩ := Option.map_eq_some_iff.mp both.1
      rw [step_receive_binary both.2 found running, dispatchBy]
      split
      · next frame offered =>
        exact .inr ⟨generation, octets, frame, rfl, rfl, dispatch_of_handlers offered⟩
      · exact .inl rfl
    · exact .inl rfl
  · exact .inl rfl

/-- What handlers do that go by tags is what the client itself does. -/
theorem stepBy_byTag : stepBy .byTag = step := by
  funext client action
  rcases stepBy_cases .byTag client action with same | ⟨_, _, frame, _, offered, own⟩
  · exact same
  · rw [offered, own, offerBy_byTag]

/-- The client goes by tags. -/
theorem runBy_byTag (actions : List Action) :
    client.runBy .byTag actions = client.run actions := by
  rw [runBy, stepBy_byTag, run]

/-! ## Runs -/

theorem runBy_append (first later : List Action) :
    client.runBy verdicts (first ++ later) = (client.runBy verdicts first).runBy verdicts later :=
  List.foldl_append

/-- Whatever handlers go by, a step registers the handler of its action and no other one. -/
theorem stepBy_handlers (action : Action) (held : (client.stepBy verdicts action).isHeld = true) :
    client.isHeld = true ∧ (client.stepBy verdicts action).handlers =
      client.handlers ++ action.handler?.toList := by
  rcases stepBy_cases verdicts client action with same | ⟨_, _, frame, rfl, offered, _⟩
  · rw [same] at held ⊢
    exact ⟨(client.step_tells action).held held, (client.step_tells action).handlers held⟩
  · rw [offered, offerBy_same] at held ⊢
    exact ⟨held, (List.append_nil _).symm⟩

/-- Handlers stand in the order of their registration, as long as somebody holds the client. -/
theorem handlers_of_runBy {actions : List Action}
    (held : (client.runBy verdicts actions).isHeld = true) :
    client.isHeld = true ∧ (client.runBy verdicts actions).handlers =
      client.handlers ++ actions.filterMap Action.handler? := by
  induction actions generalizing client with
  | nil => exact ⟨held, (List.append_nil _).symm⟩
  | cons action later inductionHypothesis =>
    obtain ⟨heldNext, handlers⟩ := inductionHypothesis held
    obtain ⟨heldBefore, registered⟩ := stepBy_handlers action heldNext
    refine ⟨heldBefore, ?_⟩
    rw [registrations_cons, ← List.append_assoc, ← registered]
    exact handlers

/-- A message leaves the link as it is. -/
theorem Lands.link {events : List Event} (lands : Lands verdicts client octets events after) :
    after.link = client.link := by
  rw [lands.same]

/-- Messages land one after another. -/
theorem dispatchAll_lands (messages : List Bytes) (chain : client.handlers = .fileService :: later)
    (custom : .fileService ∉ later) :
    ∃ events, LandInTurn verdicts client messages events
      (client.dispatchAll verdicts messages) := by
  induction messages generalizing client with
  | nil => exact ⟨[], .nothing⟩
  | cons octets messages inductionHypothesis =>
    obtain ⟨events, lands⟩ := @dispatchBy_lands verdicts client later octets chain custom
    obtain ⟨more, land⟩ := @inductionHypothesis (client.dispatchBy verdicts octets)
      (by rw [lands.same]; exact chain)
    exact ⟨events ++ more, .next lands land⟩

/-- Messages that come in on running sockets are dealt with one after another. -/
theorem runBy_arrivals {messages : List (Nat × Bytes)}
    (running : ∀ message ∈ messages, client.link.stage? message.1 = some .running)
    (held : client.isHeld = true) (chain : client.handlers = .fileService :: later)
    (custom : .fileService ∉ later) :
    client.runBy verdicts (arrivals messages) =
      client.dispatchAll verdicts (messages.map (·.2)) := by
  induction messages generalizing client with
  | nil => rfl
  | cons message rest inductionHypothesis =>
    obtain ⟨now, afterwards⟩ := List.forall_mem_cons.mp running
    obtain ⟨_, lands⟩ := @dispatchBy_lands verdicts client later message.2 chain custom
    have stepped : client.stepBy verdicts (.receive message.1 (.binary message.2)) =
        client.dispatchBy verdicts message.2 := if_pos ⟨now, held⟩
    have same := lands.same
    change (client.stepBy verdicts (.receive message.1 (.binary message.2))).runBy verdicts
      (arrivals rest) = _
    rw [stepped]
    exact inductionHypothesis (by rw [lands.link]; exact afterwards) (by rw [same]; exact held)
      (by rw [same]; exact chain)

/-- What is done with messages is done in their order. -/
theorem LandInTurn.told {messages : List Bytes} {events : List Event}
    (land : LandInTurn verdicts client messages events after) :
    after.trace = events.reverse ++ client.trace := by
  induction land with
  | nothing => rfl
  | next lands _ inductionHypothesis =>
    rw [inductionHypothesis, lands.told, List.reverse_append, List.append_assoc]

/-- Messages leave the link as it is. -/
theorem LandInTurn.link {messages : List Bytes} {events : List Event}
    (land : LandInTurn verdicts client messages events after) : after.link = client.link := by
  induction land with
  | nothing => rfl
  | next lands _ inductionHypothesis => exact inductionHypothesis.trans lands.link

/-- Whatever the handlers go by, messages that come in on running sockets find their way one after
another, as long as somebody holds the client. -/
theorem messages_routed (verdicts : Verdicts) (config : Config) (before : List Action)
    (messages : List (Nat × Bytes)) (held : (ranBy verdicts config before).isHeld = true)
    (running : ∀ message ∈ messages,
      (ranBy verdicts config before).link.stage? message.1 = some .running) :
    Routes verdicts config before messages := by
  have chain : (ranBy verdicts config before).handlers =
      .fileService :: before.filterMap Action.handler? := (handlers_of_runBy held).2
  have custom : Handler.fileService ∉ before.filterMap Action.handler? := by
    rw [List.mem_filterMap]
    rintro ⟨action, _, registers⟩
    cases action <;> cases registers
  obtain ⟨events, land⟩ := @dispatchAll_lands verdicts _ _ (messages.map (·.2)) chain custom
  rw [← runBy_arrivals running held chain custom, ← runBy_append] at land
  exact
    { own := fun byTag => by rw [byTag, ranBy, runBy_byTag]
      chain
      inOrder := ⟨events, land, land.told⟩
      running := land.link }

/-- A handler that claims frames without a payload gets one whose tag has no kind, and the terminal
shows the octets of the next message. -/
theorem messages_routed_of_stranger :
    let verdicts : Verdicts := fun _ _ frame => frame.payload.isEmpty
    let before : List Action := [.register "second" .every false, .attachTerminal (some "screen"),
      .connect, .settle 1 .accepted, .resolve 1]
    let messages : List (Nat × Bytes) := [(1, [0x7A]), (1, [0x00, 0x24])]
    Routes verdicts .loopback before messages ∧
      (ranBy verdicts .loopback (before ++ arrivals messages)).trace.take 3 =
        [.wrote "screen" [0x24],
          .offered (.custom "second" .every false) (.unknown 0x7A []) true,
          .offered .fileService (.unknown 0x7A []) false] := by
  intro verdicts before messages
  exact ⟨messages_routed verdicts .loopback before messages (by decide) (by decide), rfl⟩

end Client

end RemoteAgent
