import RemoteAgent.Proofs.Client.InFlight
import RemoteAgent.Proofs.Client.Replies
import RemoteAgent.Proofs.Client.Runs

/-!
# The loss of a socket

When the file service is told of the end of a socket, the requests in flight on it are lost, and
no others. What stood behind them in their lanes has its turn then: each of these requests is sent
on the socket that is open at that time, or fails for want of one. `socket_loss` follows both to the
point where nothing goes on by itself, in any run in which their owner does not give them up.
-/

namespace RemoteAgent.Client

/-- The file service is the next to be told of the end of the socket of a generation. -/
def AboutToLose (client : Client) (generation : Nat) : Prop :=
  ∃ socket later, client.link.socket? generation = some socket ∧
    socket.stage = .reporting (.fileService :: later)

variable {client after : Client} {action : Action}

/-! ## What the loss does at once -/

theorem step_report {generation : Nat} (loses : client.AboutToLose generation) :
    (client.step (.report generation)).requests = client.requests.disconnect generation ∧
      (client.step (.report generation)).link.lifecycle = client.link.lifecycle := by
  obtain ⟨⟨_, _, _, _⟩, later, found, rfl⟩ := loses
  simp only [step, Action.isOwners, Bool.false_and, perform, report, found]
  refine ⟨rfl, ?_⟩
  cases later <;> rfl

/-- The lanes are as they were when a socket is lost. -/
theorem queue_disconnect (requests : Requests) (generation : Nat) (key : RequestKey) :
    (requests.disconnect generation).queue key = requests.queue key := by
  simp only [Requests.queue, Requests.lane?, Requests.disconnect_lanes]

/-! ## At rest -/

/-- At rest, no request has anything to do. -/
theorem IsQuiescent.idle (quiescent : client.IsQuiescent) (sound : client.Sound) {number : Nat}
    {request : Request} (found : client.requests.find? number = some request) :
    request.standing.isEager = false := by
  refine Bool.not_eq_true _ |>.mp fun eager => ?_
  have ready := sound.requests.ready found eager
  rw [quiescent.1] at ready
  cases ready

/-- At rest, the only socket is the open one. -/
theorem IsQuiescent.opened (quiescent : client.IsQuiescent) (sound : client.Sound)
    {generation : Nat} {socket : Socket} (found : client.link.socket? generation = some socket) :
    client.link.lifecycle = .opened generation := by
  obtain ⟨running, written⟩ := quiescent.2.2.1 socket (List.mem_of_find?_eq_some found)
  apply (sound.link.shutdown found running).resolve_right
  rw [written]
  exact List.not_mem_nil

/-- At rest and without an open socket, nothing is in flight. -/
theorem IsQuiescent.inFlight_eq_nil (quiescent : client.IsQuiescent) (sound : client.Sound)
    (owed : client.EntriesOwed)
    (unopened : ∀ generation, client.link.lifecycle ≠ .opened generation) :
    client.requests.inFlight = [] := by
  refine List.eq_nil_iff_forall_not_mem.mpr fun entry member => ?_
  obtain ⟨socket, found, _⟩ := owed entry member
  exact unopened _ (quiescent.opened sound found)

/-- A queued request waits for one that came before it. -/
theorem holder_of_queued {requests : Requests} (sound : requests.Sound) {number : Nat}
    {request : Request} (found : requests.find? number = some request)
    (queued : request.standing = .queued) :
    ∃ holder held, holder < number ∧ requests.find? holder = some held ∧
      held.key = request.key ∧ held.standing ≠ .queued := by
  have member := (sound.queue_iff request.key number).mpr ⟨request, found, rfl, queued⟩
  cases holds : requests.holder? request.key with
  | none =>
    rw [sound.free _ holds] at member
    cases member
  | some holder =>
    obtain ⟨held, foundHolder, sameKey, turn⟩ := (sound.holder_iff _ holder).mp holds
    have ordered := sound.ordered request.key
    rw [holds, List.pairwise_append] at ordered
    exact ⟨holder, held, ordered.2.2 holder (by simp) number member, foundHolder, sameKey, turn⟩

/-! ## Requests that have lost their socket -/

/-- A request that has lost its socket learns so, unless it is given up. -/
theorem run_lost (sound : client.Sound) {number : Nat} {request : Request}
    (found : client.requests.find? number = some request)
    (gone : request.standing = .disconnected) {actions : List Action}
    (spares : client.Spares number actions) :
    (∃ last, (client.run actions).requests.find? number = some last ∧
        last.standing = .disconnected) ∨
      .answered number (.error .connectionClosed) ∈ (client.run actions).trace := by
  refine @run_while client (fun client action => ¬ client.GivesUp number action)
    (fun client => (∃ last, client.requests.find? number = some last ∧
        last.standing = .disconnected) ∨
      .answered number (.error .connectionClosed) ∈ client.trace)
    sound actions spares (fun _ _ _ moves spared => moves.spares spared) ?_
    (.inl ⟨request, found, gone⟩)
  rintro action middle next soundMiddle moves spared (⟨before, foundBefore, lost⟩ | answered)
  · rcases moves.foundBefore soundMiddle foundBefore with ⟨last, foundLast, follows⟩ |
      ⟨outcome, _, ending, told, _⟩ | ⟨givesUp, _⟩
    · refine .inl ⟨last, foundLast, ?_⟩
      cases follows with
      | same => exact lost
      | granted queued => exact absurd (lost.symm.trans queued) (by simp)
      | sent _ turn => exact absurd (lost.symm.trans turn) (by simp)
      | answered waits => simp [Standing.isWaiting, lost] at waits
      | lost waits => rfl
    · obtain rfl := ending.unique (.lost lost)
      exact .inr (told ▸ List.mem_cons_self)
    · exact absurd givesUp spared
  · exact .inr (moves.remembers soundMiddle answered)

/-- A request that is there at the end of a run was there before it, under its key; and if it had
lost its socket, it has done nothing since. -/
theorem origin_of_run (sound : client.Sound) {number : Nat}
    (past : number < client.requests.issued) {actions : List Action} {last : Request}
    (foundLast : (client.run actions).requests.find? number = some last) :
    ∃ request, client.requests.find? number = some request ∧ last.key = request.key ∧
      (request.standing = .disconnected → last.standing = .disconnected) := by
  cases found : client.requests.find? number with
  | none =>
    rw [run_gone sound past found actions] at foundLast
    cases foundLast
  | some request =>
    refine ⟨request, rfl, ?_⟩
    have kept := (@run_keeps client (fun client => number < client.requests.issued ∧
      ∀ other, client.requests.find? number = some other → other.key = request.key ∧
        (request.standing = .disconnected → other.standing = .disconnected)) sound actions
      ?_ ⟨past, ?_⟩).2
    · exact kept.2 last foundLast
    · intro action _ middle next soundMiddle moves ⟨pastMiddle, holds⟩
      refine ⟨Nat.lt_of_lt_of_le pastMiddle moves.issued_le, ?_⟩
      intro other foundOther
      rcases moves.foundAfter soundMiddle foundOther with ⟨before, foundBefore, follows⟩ |
        ⟨_, newest, _⟩
      · obtain ⟨sameKey, stays⟩ := holds before foundBefore
        refine ⟨(key_of_follows follows).trans sameKey, ?_⟩
        intro lost
        have lostBefore := stays lost
        cases follows with
        | same => exact lostBefore
        | granted queued => exact absurd (lostBefore.symm.trans queued) (by simp)
        | sent _ turn => exact absurd (lostBefore.symm.trans turn) (by simp)
        | answered waits => simp [Standing.isWaiting, lostBefore] at waits
        | lost => rfl
      · omega
    · intro other foundOther
      rw [found] at foundOther
      cases foundOther
      exact ⟨rfl, id⟩

/-- The request that a queued one waits for at the end of a run was there before it, under its
key. -/
theorem holder_of_run (sound : client.Sound) {number : Nat} {request : Request}
    (found : client.requests.find? number = some request) {actions : List Action} {last : Request}
    (foundLast : (client.run actions).requests.find? number = some last)
    (queued : last.standing = .queued) :
    ∃ holder origin held, holder < number ∧ client.requests.find? holder = some origin ∧
      origin.key = request.key ∧ (client.run actions).requests.find? holder = some held ∧
      held.standing ≠ .queued ∧
      (origin.standing = .disconnected → held.standing = .disconnected) := by
  obtain ⟨holder, held, earlier, foundHolder, sameKey, turn⟩ :=
    holder_of_queued (sound.run actions).requests foundLast queued
  have past := sound.requests.number_lt found
  obtain ⟨before, foundBefore, lastKey, _⟩ := origin_of_run sound past foundLast
  rw [found] at foundBefore
  cases foundBefore
  obtain ⟨origin, foundOrigin, heldKey, stays⟩ :=
    origin_of_run sound (Nat.lt_trans earlier past) foundHolder
  exact ⟨holder, origin, held, earlier, foundOrigin, heldKey.symm.trans (sameKey.trans lastKey),
    foundHolder, turn, stays⟩

/-! ## Requests behind them -/

/-- The frame of a request was not accepted so far. -/
def Awaiting (client : Client) (number : Nat) : Prop :=
  ∃ request, client.requests.find? number = some request ∧
    (request.standing = .granted ∨ request.standing = .queued)

/-- At its turn, a request is sent on the open socket, or fails for want of one. -/
theorem Move.awaiting (moves : Move action client after) (sound : client.Sound) {number : Nat}
    (awaiting : client.Awaiting number) (spared : ¬ client.GivesUp number action) :
    after.Awaiting number ∨
      (∃ generation, action.runsRequests = true ∧ client.link.lifecycle = .opened generation ∧
        .sent number generation ∈ after.trace) ∨
      action.runsRequests = true ∧
        (∀ generation, client.link.lifecycle ≠ .opened generation) ∧
        after.trace = .answered number (.error .notConnected) :: client.trace ∧
        after.requests.find? number = none := by
  obtain ⟨request, found, early⟩ := awaiting
  have named := Requests.number_of_find? found
  rcases moves.foundBefore sound found with ⟨last, foundLast, follows⟩ |
    ⟨outcome, runs, ending, told, gone⟩ | ⟨givesUp, _⟩
  · cases follows with
    | same => exact .inl ⟨_, foundLast, early⟩
    | granted => exact .inl ⟨_, foundLast, .inl rfl⟩
    | sent runs _ opened told =>
      refine .inr (.inl ⟨_, runs, opened, ?_⟩)
      rw [told, named]
      exact List.mem_cons_self
    | answered waits => rcases early with turn | turn <;> simp [Standing.isWaiting, turn] at waits
    | lost waits => rcases early with turn | turn <;> simp [Standing.waitsOn, turn] at waits
  · refine .inr (.inr ?_)
    cases ending with
    | unsent _ shut => exact ⟨runs, shut, told, gone⟩
    | overdue waits => rcases early with turn | turn <;> simp [turn] at waits
    | answered came => rcases early with turn | turn <;> simp [turn] at came
    | lost lost => rcases early with turn | turn <;> simp [turn] at lost
  · exact absurd givesUp spared

/-- A request that is gone is not sent. -/
theorem Move.unsent (moves : Move action client after) (sound : client.Sound) {number : Nat}
    (gone : client.requests.find? number = none)
    (unsent : ∀ generation, .sent number generation ∉ client.trace) (generation : Nat) :
    .sent number generation ∉ after.trace := by
  intro sent
  rcases moves.explains sound sent with old | ⟨_, _, request, found, _⟩
  · exact unsent generation old
  · rw [gone] at found
    cases found

/-- Without an open socket, a request that was not sent fails unsent, unless it is given up. -/
theorem run_unsent (sound : client.Sound) (outcomes : client.Outcomes) {number : Nat}
    (awaiting : client.Awaiting number) {actions : List Action}
    (spares : client.Spares number actions)
    (unopened : client.Throughout actions fun client =>
      ∀ generation, client.link.lifecycle ≠ .opened generation) :
    (client.run actions).Awaiting number ∨
      .answered number (.error .notConnected) ∈ (client.run actions).trace ∧
        ∀ generation, .sent number generation ∉ (client.run actions).trace := by
  refine (@run_while client
    (fun client action => ¬ client.GivesUp number action ∧
      (action.runsRequests = true → ∀ generation, client.link.lifecycle ≠ .opened generation))
    (fun client => client.Outcomes ∧ (client.Awaiting number ∨
      (number < client.requests.issued ∧ client.requests.find? number = none) ∧
        .answered number (.error .notConnected) ∈ client.trace ∧
        ∀ generation, .sent number generation ∉ client.trace)) sound actions
    ?_ ?_ ?_ ⟨outcomes, .inl awaiting⟩).2.imp_right And.right
  · intro first action later same
    exact ⟨spares first action later same, fun _ => unopened first (action :: later) same⟩
  · rintro action middle next moves ⟨spared, shut⟩
    refine ⟨moves.spares spared, fun runs => ?_⟩
    rw [moves.lifecycle_of_runs runs]
    exact shut runs
  · rintro action middle next soundMiddle moves ⟨spared, shut⟩ ⟨outcomesMiddle, holds⟩
    refine ⟨moves.outcomes soundMiddle outcomesMiddle, ?_⟩
    rcases holds with waits | ⟨⟨past, gone⟩, failed, unsent⟩
    · obtain ⟨request, found, early⟩ := id waits
      rcases moves.awaiting soundMiddle waits spared with still | ⟨generation, runs, opened, _⟩ |
        ⟨_, _, told, gone⟩
      · exact .inl still
      · exact absurd opened (shut runs generation)
      · have past := soundMiddle.requests.number_lt found
        refine .inr ⟨⟨Nat.lt_of_lt_of_le past moves.issued_le, gone⟩, ?_, ?_⟩
        · rw [told]
          exact List.mem_cons_self
        · intro generation sent
          rw [told, List.mem_cons] at sent
          exact sent.elim (by simp) (outcomesMiddle.unsent found early)
    · exact .inr ⟨⟨Nat.lt_of_lt_of_le past moves.issued_le, moves.gone soundMiddle past gone⟩,
        moves.remembers soundMiddle failed, moves.unsent soundMiddle gone unsent⟩

/-- While one socket is open, a request that was not sent is sent on it, unless it is given up. -/
theorem run_sent (sound : client.Sound) {number newest : Nat} (awaiting : client.Awaiting number)
    {actions : List Action} (spares : client.Spares number actions)
    (opened : client.Throughout actions fun client => client.link.lifecycle = .opened newest) :
    (client.run actions).Awaiting number ∨ .sent number newest ∈ (client.run actions).trace := by
  refine @run_while client
    (fun client action => ¬ client.GivesUp number action ∧
      (action.runsRequests = true → client.link.lifecycle = .opened newest))
    (fun client => client.Awaiting number ∨ .sent number newest ∈ client.trace) sound actions
    ?_ ?_ ?_ (.inl awaiting)
  · intro first action later same
    exact ⟨spares first action later same, fun _ => opened first (action :: later) same⟩
  · rintro action middle next moves ⟨spared, stays⟩
    exact ⟨moves.spares spared, fun runs => (moves.lifecycle_of_runs runs).trans (stays runs)⟩
  · rintro action middle next soundMiddle moves ⟨spared, stays⟩ (waits | sent)
    · rcases moves.awaiting soundMiddle waits spared with still | ⟨generation, runs, now, sent⟩ |
        ⟨runs, shut, _⟩
      · exact .inl still
      · rw [stays runs] at now
        cases now
        exact .inr sent
      · exact absurd (stays runs) (shut newest)
    · exact .inr (moves.remembers soundMiddle sent)

/-- What came before one in a queue stands ahead of it. -/
theorem ahead_of_lt {requests : Requests} (sound : requests.Sound) {key : RequestKey}
    {ahead behind : List Nat} {number other : Nat}
    (queue : requests.queue key = ahead ++ number :: behind) (member : other ∈ requests.queue key)
    (earlier : other < number) : other ∈ ahead := by
  have ordered := (List.pairwise_append.mp (sound.ordered key)).2.1
  rw [queue] at member ordered
  refine (List.mem_append.mp member).resolve_right fun notAhead => ?_
  rcases List.mem_cons.mp notAhead with rfl | isBehind
  · exact Nat.lt_irrefl _ earlier
  · have later := List.rel_of_pairwise_cons (List.pairwise_append.mp ordered).2.1 isBehind
    omega

/-- Without an open socket, a request that was not sent has failed at rest, unsent, unless it was
given up. -/
theorem Reachable.fails_at_rest {config : Config} (reachable : Reachable config client)
    {number : Nat} (awaiting : client.Awaiting number) {actions : List Action}
    (spares : client.Spares number actions)
    (unopened : client.Throughout actions fun client =>
      ∀ generation, client.link.lifecycle ≠ .opened generation)
    (quiescent : (client.run actions).IsQuiescent) :
    .answered number (.error .notConnected) ∈ (client.run actions).trace ∧
      (∀ outcome, .answered number outcome ∈ (client.run actions).trace →
        outcome = .error .notConnected) ∧
      ∀ generation, .sent number generation ∉ (client.run actions).trace := by
  have reachableFinal := reachable.run actions
  have nothing : (client.run actions).requests.inFlight = [] :=
    quiescent.inFlight_eq_nil reachableFinal.sound reachableFinal.entriesOwed
      (unopened actions [] (List.append_nil _).symm)
  rcases run_unsent reachable.sound reachable.outcomes awaiting spares unopened with
    ⟨last, foundLast, granted | stillQueued⟩ | ⟨failed, unsent⟩
  · have idle := quiescent.idle reachableFinal.sound foundLast
    rw [granted] at idle
    cases idle
  · -- The request that it waits for has had its turn, and cannot be in flight.
    obtain ⟨holder, held, _, foundHolder, _, turn⟩ :=
      holder_of_queued reachableFinal.sound.requests foundLast stillQueued
    have idle := quiescent.idle reachableFinal.sound foundHolder
    cases standing : held.standing with
    | waiting opened sentAt =>
      have inFlight := reachableFinal.sound.requests.entry_of_waiting foundHolder standing
      rw [nothing] at inFlight
      cases inFlight
    | queued => exact absurd standing turn
    | _ =>
      rw [standing] at idle
      cases idle
  · exact ⟨failed, fun outcome answered =>
      reachableFinal.outcomes.answered_unique answered failed, unsent⟩

/-- While one socket is open, a request that was not sent has been sent on it at rest, unless it was
given up, if each one before it in its lane had lost its socket or was given up. -/
theorem Sound.sent_at_rest (sound : client.Sound) {number newest : Nat} {request : Request}
    (found : client.requests.find? number = some request)
    (early : request.standing = .granted ∨ request.standing = .queued) {actions : List Action}
    (spares : client.Spares number actions)
    (opened : client.Throughout actions fun client => client.link.lifecycle = .opened newest)
    (quiescent : (client.run actions).IsQuiescent)
    (before : ∀ other origin, other < number → client.requests.find? other = some origin →
      origin.key = request.key →
        origin.standing = .disconnected ∨ ¬ client.Spares other actions) :
    .sent number newest ∈ (client.run actions).trace := by
  have soundFinal := sound.run actions
  rcases run_sent sound ⟨request, found, early⟩ spares opened with
    ⟨last, foundLast, granted | stillQueued⟩ | sent
  · have idle := quiescent.idle soundFinal foundLast
    rw [granted] at idle
    cases idle
  · -- The request that it waits for was there before the run, and cannot be there at rest.
    exfalso
    obtain ⟨holder, origin, held, earlier, foundOrigin, sameKey, foundHolder, _, stays⟩ :=
      holder_of_run sound found foundLast stillQueued
    rcases before holder origin earlier foundOrigin sameKey with gone | given
    · have idle := quiescent.idle soundFinal foundHolder
      rw [stays gone] at idle
      cases idle
    · rw [gone_of_not_spares sound (sound.requests.number_lt foundOrigin) given] at foundHolder
      cases foundHolder
  · exact sent

/-! ## The loss of a socket -/

section Losing

variable {config : Config} {generation : Nat}

/-- A request in flight on the socket has lost it. -/
theorem lost_of_entry (sound : client.Sound) (loses : client.AboutToLose generation) {entry : Entry}
    (member : entry ∈ client.requests.inFlight) (own : entry.generation = generation) :
    ∃ request, (client.step (.report generation)).requests.find? entry.request = some request ∧
      request.key = entry.key ∧ request.standing = .disconnected := by
  obtain ⟨request, sentAt, found, sameKey, _, waits⟩ := (sound.requests.entry_iff entry).mp member
  refine ⟨{ request with standing := .disconnected }, ?_, sameKey, rfl⟩
  rw [(step_report loses).1, sound.requests.disconnect_find?, found, Option.map_some, if_pos]
  simp [waits, Standing.waitsOn, own]

/-- A request that stands in a queue waits for its turn still. -/
theorem awaiting_of_queued (sound : client.Sound) (loses : client.AboutToLose generation)
    {key : RequestKey} {number : Nat} (queued : number ∈ client.requests.queue key) :
    (client.step (.report generation)).Awaiting number := by
  have soundAfter := sound.step (.report generation)
  rw [← queue_disconnect client.requests generation key, ← (step_report loses).1] at queued
  obtain ⟨request, found, _, standing⟩ := (soundAfter.requests.queue_iff key number).mp queued
  exact ⟨request, found, .inr standing⟩

/-- A request in flight on the socket fails, and fails in no other way, unless it is given up. -/
theorem loss_of_own (reachable : Reachable config client) (loses : client.AboutToLose generation)
    {entry : Entry} (member : entry ∈ client.requests.inFlight)
    (own : entry.generation = generation) {actions : List Action}
    (spares : (client.step (.report generation)).Spares entry.request actions) :
    let final := (client.step (.report generation)).run actions
    .answered entry.request (.error .connectionClosed) ∈
        (final.step (.poll entry.request)).trace ∧
      (final.IsQuiescent → .answered entry.request (.error .connectionClosed) ∈ final.trace) ∧
      ∀ outcome, .answered entry.request outcome ∈ final.trace →
        outcome = .error .connectionClosed := by
  intro final
  have reachableFinal : Reachable config final := (reachable.step _).run actions
  obtain ⟨request, found, _, gone⟩ := lost_of_entry reachable.sound loses member own
  have polled : .answered entry.request (.error .connectionClosed) ∈
      (final.step (.poll entry.request)).trace := by
    rcases run_lost (reachable.step _).sound found gone spares with ⟨last, foundLast, lost⟩ | failed
    · exact step_poll_lost foundLast lost
    · exact run_remembers reachableFinal.sound [.poll entry.request] failed
  refine ⟨polled, ?_, ?_⟩
  · intro quiescent
    rcases run_lost (reachable.step _).sound found gone spares with ⟨last, foundLast, lost⟩ | failed
    · have idle := quiescent.idle reachableFinal.sound foundLast
      rw [lost] at idle
      cases idle
    · exact failed
  · intro outcome answered
    exact (reachableFinal.step (.poll entry.request)).outcomes.answered_unique
      (run_remembers reachableFinal.sound [.poll entry.request] answered) polled

/-- A request in flight on another socket stays in flight, and can be answered. -/
theorem loss_of_other (sound : client.Sound) (loses : client.AboutToLose generation)
    {entry : Entry} (member : entry ∈ client.requests.inFlight)
    (other : entry.generation ≠ generation) :
    let after := client.step (.report generation)
    entry ∈ after.requests.inFlight ∧
      after.requests.find? entry.request = client.requests.find? entry.request ∧
      ∀ open_ socket octets frame reply, after.link.socket? open_ = some socket →
        socket.stage = .running → Inbound.decode octets = .ok frame →
        frame.reply? = some (entry.key, reply) →
        .answered entry.request (.ok reply) ∈
          ((after.step (.receive open_ (.binary octets))).step (.poll entry.request)).trace := by
  intro after
  obtain ⟨request, sentAt, found, sameKey, _, waits⟩ := (sound.requests.entry_iff entry).mp member
  have stays : entry ∈ after.requests.inFlight := by
    change entry ∈ (client.step (.report generation)).requests.inFlight
    rw [(step_report loses).1, Requests.disconnect_inFlight]
    exact List.mem_filter.mpr ⟨member, by simpa using other⟩
  refine ⟨stays, ?_, ?_⟩
  · change (client.step (.report generation)).requests.find? entry.request = _
    rw [(step_report loses).1, sound.requests.disconnect_find?, found, Option.map_some, if_neg]
    simp [waits, Standing.waitsOn, other]
  · intro open_ socket octets frame reply foundSocket running decoded answers
    exact answers_of_entry (sound.step (.report generation)) stays foundSocket running decoded
      answers

/-- Without an open socket, what was queued when the socket was lost has failed at rest, unsent,
unless it was given up. -/
theorem loss_unopened (reachable : Reachable config client) (loses : client.AboutToLose generation)
    {actions : List Action}
    (unopened : (client.step (.report generation)).Throughout actions fun client =>
      ∀ generation, client.link.lifecycle ≠ .opened generation)
    (quiescent : ((client.step (.report generation)).run actions).IsQuiescent)
    {key : RequestKey} {number : Nat} (queued : number ∈ client.requests.queue key)
    (spares : (client.step (.report generation)).Spares number actions) :
    let final := (client.step (.report generation)).run actions
    .answered number (.error .notConnected) ∈ final.trace ∧
      (∀ outcome, .answered number outcome ∈ final.trace → outcome = .error .notConnected) ∧
      ∀ generation, .sent number generation ∉ final.trace :=
  (reachable.step _).fails_at_rest (awaiting_of_queued reachable.sound loses queued) spares unopened
    quiescent

/-- While a newer socket is open, the first request that was queued behind one that lost its
socket, and was not given up, has been sent on the newer socket at rest. -/
theorem loss_opened (reachable : Reachable config client) (loses : client.AboutToLose generation)
    {actions : List Action} {newest : Nat}
    (opened : (client.step (.report generation)).Throughout actions fun client =>
      client.link.lifecycle = .opened newest)
    (quiescent : ((client.step (.report generation)).run actions).IsQuiescent)
    {entry : Entry} (member : entry ∈ client.requests.inFlight)
    (isOwn : entry.generation = generation) {ahead behind : List Nat} {number : Nat}
    (queue : client.requests.queue entry.key = ahead ++ number :: behind)
    (given : ∀ other ∈ ahead, ¬ (client.step (.report generation)).Spares other actions)
    (spares : (client.step (.report generation)).Spares number actions) :
    .sent number newest ∈ ((client.step (.report generation)).run actions).trace := by
  have soundAfter := reachable.sound.step (.report generation)
  have queueAfter : (client.step (.report generation)).requests.queue entry.key =
      ahead ++ number :: behind := by
    rw [(step_report loses).1, queue_disconnect, queue]
  obtain ⟨own, foundOwn, ownKey, queued⟩ :=
    (soundAfter.requests.queue_iff entry.key number).mp (by simp [queueAfter])
  refine soundAfter.sent_at_rest foundOwn (.inr queued) spares opened quiescent ?_
  intro other origin earlier foundOrigin sameKey
  have originKey := sameKey.trans ownKey
  by_cases waits : origin.standing = .queued
  · have inQueue := (soundAfter.requests.queue_iff entry.key other).mpr
      ⟨origin, foundOrigin, originKey, waits⟩
    exact .inr (given other (ahead_of_lt soundAfter.requests queueAfter inQueue earlier))
  · obtain ⟨lost, foundLost, lostKey, gone⟩ := lost_of_entry reachable.sound loses member isOwn
    obtain ⟨_, rfl⟩ := soundAfter.requests.turn_unique foundLost (by simp [gone]) foundOrigin
      waits (originKey.trans lostKey.symm)
    exact .inl gone

/-- The socket that is open when another is lost is newer. -/
theorem newer_of_opened (sound : client.Sound) (loses : client.AboutToLose generation)
    {newest : Nat} (opened : (client.step (.report generation)).link.lifecycle = .opened newest) :
    generation < newest := by
  obtain ⟨socket, later, found, reporting⟩ := id loses
  rw [(step_report loses).2] at opened
  obtain ⟨rfl, live, foundLive, isLive⟩ := sound.link.opened opened
  apply Nat.lt_of_le_of_ne (sound.link.generation_le found)
  rintro rfl
  rw [found] at foundLive
  cases foundLive
  simp [Socket.isLive, reporting] at isLive

/-- The end of a socket fails the requests in flight on it, and no others: those in flight on other
sockets stay, and can be answered. At rest after that, what was queued behind a request that
failed has itself failed unsent if no socket was open, and then nothing is in flight; and if a newer
socket was open, the first of each queue has been sent on that one. Requests that are given up on the
way are left out. -/
theorem socket_loss (reachable : Reachable config client) (loses : client.AboutToLose generation)
    (actions : List Action) :
    let after := client.step (.report generation)
    let final := after.run actions
    (∀ entry ∈ client.requests.inFlight, entry.generation = generation →
      after.Spares entry.request actions →
        .answered entry.request (.error .connectionClosed) ∈
            (final.step (.poll entry.request)).trace ∧
          (final.IsQuiescent →
            .answered entry.request (.error .connectionClosed) ∈ final.trace) ∧
          ∀ outcome, .answered entry.request outcome ∈ final.trace →
            outcome = .error .connectionClosed) ∧
    (∀ entry ∈ client.requests.inFlight, entry.generation ≠ generation →
      entry ∈ after.requests.inFlight ∧
        after.requests.find? entry.request = client.requests.find? entry.request ∧
        ∀ receiver socket octets frame reply, after.link.socket? receiver = some socket →
          socket.stage = .running → Inbound.decode octets = .ok frame →
          frame.reply? = some (entry.key, reply) →
          .answered entry.request (.ok reply) ∈
            ((after.step (.receive receiver (.binary octets))).step
              (.poll entry.request)).trace) ∧
    (final.IsQuiescent →
      ((∀ opened, final.link.lifecycle ≠ .opened opened) → final.requests.inFlight = []) ∧
      ∀ entry ∈ client.requests.inFlight, entry.generation = generation →
        ((after.Throughout actions fun client =>
            ∀ opened, client.link.lifecycle ≠ .opened opened) →
          ∀ number ∈ client.requests.queue entry.key, after.Spares number actions →
            .answered number (.error .notConnected) ∈ final.trace ∧
              (∀ outcome, .answered number outcome ∈ final.trace →
                outcome = .error .notConnected) ∧
              ∀ opened, .sent number opened ∉ final.trace) ∧
        ∀ newest, (after.Throughout actions fun client =>
            client.link.lifecycle = .opened newest) →
          generation < newest ∧
            ∀ ahead number behind, client.requests.queue entry.key = ahead ++ number :: behind →
              (∀ other ∈ ahead, ¬ after.Spares other actions) → after.Spares number actions →
              .sent number newest ∈ final.trace) := by
  intro after final
  have reachableFinal : Reachable config final := (reachable.step _).run actions
  refine ⟨?_, ?_, ?_⟩
  · intro entry member own spares
    exact loss_of_own reachable loses member own spares
  · intro entry member other
    exact loss_of_other reachable.sound loses member other
  · intro quiescent
    refine ⟨quiescent.inFlight_eq_nil reachableFinal.sound reachableFinal.entriesOwed, ?_⟩
    intro entry member own
    refine ⟨?_, ?_⟩
    · intro unopened number queued spares
      exact loss_unopened reachable loses unopened quiescent queued spares
    · intro newest opened
      refine ⟨newer_of_opened reachable.sound loses (opened [] actions rfl), ?_⟩
      intro ahead number behind queue given spares
      exact loss_opened reachable loses opened quiescent member own queue given spares

/-- A client that is about to lose a socket with one question in flight and another queued behind
it, after a newer socket was opened with a question of its own. -/
def reconnected : Client :=
  (Client.initial .loopback).run
    [.connect, .settle 1 .accepted, .resolve 1, .start (.query "a") none,
      .start (.query "a") none, .transmit 1, .receive 1 .ending, .report 1, .connect,
      .settle 2 .accepted, .resolve 2, .start (.query "b") none]

/-- The first question fails, the second is sent on the newer socket, and the third stays in flight
on it. -/
theorem socket_loss_of_reconnect :
    let after := reconnected.step (.report 1)
    let final := after.run [.poll 0, .poll 1, .transmit 2, .transmit 2]
    reconnected.AboutToLose 1 ∧ final.IsQuiescent ∧
      .answered 0 (.error .connectionClosed) ∈ final.trace ∧ .sent 1 2 ∈ final.trace ∧
      ⟨.info "b", 2, 2, .info⟩ ∈ after.requests.inFlight := by
  intro after final
  have loses : reconnected.AboutToLose 1 :=
    ⟨⟨1, 1, [], .reporting [.fileService]⟩, [], by decide, rfl⟩
  have quiescent : final.IsQuiescent := by decide
  have inFlight : reconnected.requests.inFlight =
    [⟨.info "a", 1, 0, .info⟩, ⟨.info "b", 2, 2, .info⟩] := by decide
  have queue : reconnected.requests.queue (.info "a") = [] ++ 1 :: [] := by decide
  have spares : ∀ number, after.Spares number [.poll 0, .poll 1, .transmit 2, .transmit 2] :=
    fun number => spares_of_not_owners (by decide)
  have opened : after.Throughout [.poll 0, .poll 1, .transmit 2, .transmit 2]
      (fun client => client.link.lifecycle = .opened 2) := by
    simp only [throughout_cons, throughout_nil]
    decide
  obtain ⟨own, others, atRest⟩ := socket_loss (Reachable.initial.run _) loses
    [.poll 0, .poll 1, .transmit 2, .transmit 2]
  have first : ⟨.info "a", 1, 0, .info⟩ ∈ reconnected.requests.inFlight := by simp [inFlight]
  have last : ⟨.info "b", 2, 2, .info⟩ ∈ reconnected.requests.inFlight := by simp [inFlight]
  refine ⟨loses, quiescent, ?_, ?_, ?_⟩
  · exact (own _ first rfl (spares 0)).2.1 quiescent
  · exact (((atRest quiescent).2 _ first rfl).2 2 opened).2 [] 1 [] queue (by simp) (spares 1)
  · exact (others _ last (by decide)).1

end Losing

end RemoteAgent.Client
