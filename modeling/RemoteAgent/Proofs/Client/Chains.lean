import RemoteAgent.Proofs.Client.Generations

/-!
# Handlers that judge by more than tags

The handlers that an action registers go by the tag of a frame. A handler may go by more than that:
by the whole frame, and by all that has been done before. `Verdicts` is what such handlers make of
frames, and `offerBy` offers a frame to a chain of them. What a client does by itself is the case of
handlers that go by tags (`offerBy_byTag`). Whatever they go by, a frame is offered to handlers in
the order of their registration, up to the first that claims it (`offerBy_consults`).
-/

namespace RemoteAgent

/-- What the handlers of callers make of frames, after all that was done before, the last thing
first. Every offer is one more thing done, so whatever handlers may answer in the course of a run
has this form. -/
abbrev Verdicts := List Event → Handler → Inbound → Bool

/-- Handlers that go by the tags of frames alone. -/
def Verdicts.byTag : Verdicts := fun _ => Handler.claims

/-- Whether a handler claims a frame. The file service goes by the frame alone. -/
def Verdicts.claims (verdicts : Verdicts) (seen : List Event) : Handler → Inbound → Bool
  | .fileService, frame => Handler.fileService.claims frame
  | .custom name tags hears, frame => verdicts seen (.custom name tags hears) frame

/-- What happens as a frame is offered to handlers one after another, each of which is asked after
those before it. -/
structure Consults (verdicts : Verdicts) (seen : List Event) (frame : Inbound)
    (handlers : List Handler) (events : List Event) : Prop where
  /-- In the order of their registration they pass on the frame, until one claims it; if none does,
  all of them have passed it on. -/
  inOrder : ∃ passed claimant unasked, handlers = passed ++ Option.toList claimant ++ unasked ∧
    events = passed.map (Event.offered · frame false) ++
      claimant.toList.map (Event.offered · frame true) ∧
    (claimant = none → unasked = [])
  /-- What a handler does is its verdict on the frame at that time. -/
  judged : ∀ earlier handler claimed later,
    events = earlier ++ .offered handler frame claimed :: later →
      verdicts.claims (earlier.reverse ++ seen) handler frame = claimed

namespace Consults

variable {verdicts : Verdicts} {seen events : List Event} {frame : Inbound} {handler : Handler}
  {later : List Handler}

theorem nobody : Consults verdicts seen frame [] [] where
  inOrder := ⟨[], none, [], rfl, rfl, fun _ => rfl⟩
  judged _ _ _ _ split := by simp at split

theorem claims (claimed : verdicts.claims seen handler frame = true) :
    Consults verdicts seen frame (handler :: later) [.offered handler frame true] where
  inOrder := ⟨[], some handler, later, rfl, rfl, by simp⟩
  judged _ _ _ _ split := by
    obtain ⟨rfl, same⟩ | ⟨_, _, none⟩ := List.cons_eq_append_iff.mp split
    · cases same
      exact claimed
    · simp at none

theorem passes (passed : verdicts.claims seen handler frame = false)
    (consults : Consults verdicts (.offered handler frame false :: seen) frame later events) :
    Consults verdicts seen frame (handler :: later) (.offered handler frame false :: events) where
  inOrder := by
    obtain ⟨before, claimant, unasked, rfl, rfl, all⟩ := consults.inOrder
    exact ⟨handler :: before, claimant, unasked, rfl, rfl, all⟩
  judged _ _ _ _ split := by
    obtain ⟨rfl, same⟩ | ⟨earlier, rfl, rest⟩ := List.cons_eq_append_iff.mp split
    · cases same
      exact passed
    · simpa using consults.judged _ _ _ _ rest

/-- Nothing happens but that handlers of the chain are offered the frame. -/
theorem of_mem (consults : Consults verdicts seen frame later events) {event : Event}
    (member : event ∈ events) : ∃ handler ∈ later, ∃ claimed,
      event = .offered handler frame claimed := by
  obtain ⟨passed, claimant, unasked, rfl, rfl, _⟩ := consults.inOrder
  rcases List.mem_append.mp member with inPassed | inClaimant
  · obtain ⟨handler, among, rfl⟩ := List.mem_map.mp inPassed
    exact ⟨handler, by simp [among], false, rfl⟩
  · obtain ⟨handler, among, rfl⟩ := List.mem_map.mp inClaimant
    exact ⟨handler, List.mem_append_left _ (List.mem_append_right _ among), true, rfl⟩

/-- The first handler is asked, and it alone if it claims the frame. -/
theorem cons_inv (consults : Consults verdicts seen frame (handler :: later) events) :
    (verdicts.claims seen handler frame = true ∧ events = [.offered handler frame true]) ∨
      verdicts.claims seen handler frame = false ∧ ∃ rest,
        events = .offered handler frame false :: rest ∧
          Consults verdicts (.offered handler frame false :: seen) frame later rest := by
  obtain ⟨passed, claimant, unasked, chain, rfl, all⟩ := consults.inOrder
  cases passed with
  | nil =>
    cases claimant with
    | none => simp [all rfl] at chain
    | some claimant =>
      obtain ⟨rfl, _⟩ := List.cons.inj chain
      exact .inl ⟨consults.judged [] _ _ _ rfl, rfl⟩
  | cons first passed =>
    obtain ⟨rfl, rfl⟩ := List.cons.inj chain
    refine .inr ⟨consults.judged [] _ _ _ rfl, _, rfl, ?_⟩
    refine ⟨⟨passed, claimant, unasked, rfl, rfl, all⟩, ?_⟩
    intro earlier next claimed rest split
    have judged := consults.judged (.offered handler frame false :: earlier) _ _ _
      (congrArg (Event.offered handler frame false :: ·) split)
    simpa using judged

/-- The first handler of a chain is always asked. -/
theorem head (consults : Consults verdicts seen frame (handler :: later) events) :
    ∃ claimed rest, events = .offered handler frame claimed :: rest := by
  rcases consults.cons_inv with ⟨_, rfl⟩ | ⟨_, rest, rfl, _⟩
  · exact ⟨true, [], rfl⟩
  · exact ⟨false, rest, rfl⟩

end Consults

/-- The requests after a frame that has come in: the one that it answers learns of it. -/
def Requests.afterFrame (requests : Requests) (frame : Inbound) : Requests :=
  frame.reply?.elim requests fun answer => requests.deliver answer.1 answer.2

namespace Client

variable (verdicts : Verdicts)

/-- A handler gets a frame, whatever it goes by. -/
def handleBy (client : Client) (frame : Inbound) : Handler → Client
  | .fileService => client.handle frame .fileService
  | .custom name tags hears =>
    client.note (.offered (.custom name tags hears) frame
      (verdicts client.trace (.custom name tags hears) frame))

/-- Offers a frame to handlers in turn until one of them claims it, whatever they go by. -/
def offerBy (client : Client) (frame : Inbound) : List Handler → Client
  | [] => client
  | handler :: later =>
    if verdicts.claims client.trace handler frame then client.handleBy verdicts frame handler
    else (client.handleBy verdicts frame handler).offerBy frame later

variable {verdicts} {client : Client} {frame : Inbound} {handlers : List Handler}

/-! ## What handlers that get a frame change -/

/-- The file service claims a reply, and brings it to the request that it answers. -/
theorem handle_fileService : client.handle frame .fileService =
    { client.note (.offered .fileService frame frame.reply?.isSome) with
      requests := client.requests.afterFrame frame } := by
  unfold handle Requests.afterFrame
  cases answers : frame.reply? <;> simp [Handler.claims, answers, note]

/-- A handler that is asked leaves a note of its verdict. -/
theorem handleBy_trace (handler : Handler) : (client.handleBy verdicts frame handler).trace =
    .offered handler frame (verdicts.claims client.trace handler frame) :: client.trace := by
  cases handler with
  | fileService =>
    rw [handleBy, handle_fileService]
    rfl
  | custom name tags hears => rfl

/-- A handler adds to what was done, and may answer a request. -/
theorem handleBy_same (handler : Handler) : client.handleBy verdicts frame handler =
    { client with
      trace := (client.handleBy verdicts frame handler).trace
      requests := (client.handleBy verdicts frame handler).requests } := by
  cases handler with
  | fileService =>
    rw [handleBy, handle_fileService]
    rfl
  | custom name tags hears => rfl

/-- A chain of handlers changes the trace and the requests only. -/
theorem offerBy_same : client.offerBy verdicts frame handlers =
    { client with
      trace := (client.offerBy verdicts frame handlers).trace
      requests := (client.offerBy verdicts frame handlers).requests } := by
  induction handlers generalizing client with
  | nil => rfl
  | cons handler later inductionHypothesis =>
    unfold offerBy
    split
    · exact handleBy_same handler
    · rw [inductionHypothesis, handleBy_same handler]

/-- A frame is offered up to the first handler that claims it. -/
theorem offerBy_consults : ∃ events,
    (client.offerBy verdicts frame handlers).trace = events.reverse ++ client.trace ∧
      Consults verdicts client.trace frame handlers events := by
  induction handlers generalizing client with
  | nil => exact ⟨[], rfl, .nobody⟩
  | cons handler later inductionHypothesis =>
    unfold offerBy
    have asked := @handleBy_trace verdicts client frame handler
    split
    · next claimed =>
      rw [claimed] at asked
      exact ⟨[.offered handler frame true], asked, .claims claimed⟩
    · next passed =>
      rw [Bool.eq_false_iff.mpr passed] at asked
      obtain ⟨events, told, consults⟩ :=
        @inductionHypothesis (client.handleBy verdicts frame handler)
      rw [asked] at told consults
      exact ⟨_, by simpa using told, .passes (Bool.eq_false_iff.mpr passed) consults⟩

/-- Only the file service answers requests. -/
theorem offerBy_requests_of_custom (custom : .fileService ∉ handlers) :
    (client.offerBy verdicts frame handlers).requests = client.requests := by
  induction handlers generalizing client with
  | nil => rfl
  | cons handler later inductionHypothesis =>
    obtain ⟨other, rest⟩ := List.ne_and_not_mem_of_not_mem_cons custom
    have kept : (client.handleBy verdicts frame handler).requests = client.requests := by
      cases handler with
      | fileService => exact absurd rfl other
      | custom name tags hears => rfl
    unfold offerBy
    split
    · exact kept
    · exact (inductionHypothesis rest).trans kept

/-! ## Handlers that go by tags -/

theorem handleBy_byTag (handler : Handler) :
    client.handleBy .byTag frame handler = client.handle frame handler := by
  cases handler with
  | fileService => rfl
  | custom name tags hears =>
    unfold handle
    cases frame.reply? <;> rfl

theorem offerBy_byTag : client.offerBy .byTag frame handlers = client.offer frame handlers := by
  induction handlers generalizing client with
  | nil => rfl
  | cons handler later inductionHypothesis =>
    have own : Verdicts.byTag.claims client.trace handler frame = handler.claims frame := by
      cases handler <;> rfl
    rw [offerBy, offer, own, handleBy_byTag, inductionHypothesis]

end Client

end RemoteAgent
