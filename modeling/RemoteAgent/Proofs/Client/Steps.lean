import RemoteAgent.Proofs.Client.Loss

/-!
# What a step does to the requests

Moves tell what can become of a request in a step, and this module tells when it does. Most actions
leave the requests alone (`step_apart`); a message does so unless it is a reply (`step_receive_same`),
the report of a socket unless it is the one to the file service (`step_report_same`). When requests
run, those that wait for a reply stay as they are, up to the one that runs
(`step_start_waiting`, `step_poll_waiting`).
-/

namespace RemoteAgent

/-- The action has nothing to do with requests. -/
def Action.isApart : Action → Bool
  | .connect | .send _ | .attachTerminal _ | .register _ _ _ | .close | .settle _ _ | .wait _
  | .resolve _ | .transmit _ => true
  | _ => false

namespace Client

variable {client : Client} {action : Action}

/-! ## Actions apart -/

/-- To record events leaves the requests. -/
@[simp] theorem noteAll_requests (client : Client) (events : List Event) :
    (client.noteAll events).requests = client.requests := by
  rw [noteAll_eq]

/-- To sweep attempts away leaves the requests. -/
@[simp] theorem sweep_requests (client : Client) : client.sweep.requests = client.requests := by
  simp [sweep]

/-- A notice for the terminal leaves the requests. -/
@[simp] theorem announce_requests (client : Client) (line : StatusLine) :
    (client.announce line).requests = client.requests := write_requests _ _

/-- What callers of an attempt learn leaves the requests. -/
@[simp] theorem tellCallers_requests (client : Client) (attempt : Attempt)
    (outcome : Except Failure Unit) :
    (client.tellCallers attempt outcome).requests = client.requests := noteAll_requests _ _

/-- An attempt that goes on leaves the requests. -/
theorem resolve_requests (client : Client) (number : Nat) :
    (client.resolve number).requests = client.requests := by
  unfold resolve openSocket failAttempt
  split
  · rfl
  · split
    · split
      · split <;> simp
      · simp
      · simp
    · rfl

/-- An action that has nothing to do with requests leaves them as they are. -/
theorem step_apart (apart : action.isApart = true) :
    (client.step action).requests = client.requests := by
  unfold step
  split
  · rfl
  · cases action with
    | connect =>
      simp only [perform, connect]
      split <;> rfl
    | send frame =>
      simp only [perform, send]
      split <;> rfl
    | attachTerminal terminal => rfl
    | register name claims hears => rfl
    | close => simp [perform, close]
    | settle attempt handshake => rfl
    | wait time => rfl
    | resolve attempt => exact resolve_requests client attempt
    | transmit generation =>
      simp only [perform, transmit]
      split <;> rfl
    | _ => cases apart

/-! ## Messages and reports -/

/-- A reply under a key comes in on a running socket, and somebody holds the client. -/
def Receives (client : Client) (generation : Nat) (octets : Bytes) (key : RequestKey)
    (reply : Reply) : Prop :=
  client.isHeld = true ∧
    (∃ socket, client.link.socket? generation = some socket ∧ socket.stage = .running) ∧
    ∃ frame, Inbound.decode octets = .ok frame ∧ frame.reply? = some (key, reply)

/-- Octets bring one reply, under one key. -/
theorem Receives.unique {generation : Nat} {octets : Bytes} {key other : RequestKey}
    {reply otherReply : Reply} (first : client.Receives generation octets key reply)
    (second : client.Receives generation octets other otherReply) :
    key = other ∧ reply = otherReply := by
  obtain ⟨_, _, frame, decoded, replies⟩ := first
  obtain ⟨_, _, frameToo, decodedToo, repliesToo⟩ := second
  rw [decoded] at decodedToo
  cases decodedToo
  rw [replies] at repliesToo
  cases repliesToo
  exact ⟨rfl, rfl⟩

/-- A reply that comes in goes to the table of requests. -/
theorem Receives.requests (sound : client.Sound) {generation : Nat} {octets : Bytes}
    {key : RequestKey} {reply : Reply} (receives : client.Receives generation octets key reply) :
    (client.step (.receive generation (.binary octets))).requests =
      client.requests.deliver key reply := by
  obtain ⟨held, ⟨socket, found, running⟩, frame, decoded, replies⟩ := receives
  exact step_receive sound held found running decoded replies

/-- A frame that is no reply leaves the requests, whoever gets it. -/
theorem handle_requests_of_none (client : Client) {frame : Inbound} (none : frame.reply? = none)
    (handler : Handler) : (client.handle frame handler).requests = client.requests := by
  unfold handle
  rw [none]
  split
  · next replies => cases replies
  · rfl

/-- A frame that is no reply leaves the requests, whoever claims it. -/
theorem offer_requests_of_none (client : Client) {frame : Inbound} (none : frame.reply? = none)
    (handlers : List Handler) : (client.offer frame handlers).requests = client.requests := by
  induction handlers generalizing client with
  | nil => rfl
  | cons handler later inductionHypothesis =>
    unfold offer
    split
    · exact client.handle_requests_of_none none handler
    · exact (inductionHypothesis _).trans (client.handle_requests_of_none none handler)

/-- A frame that is no reply does not reach the table of requests. -/
theorem dispatch_requests_of_none (client : Client) {octets : Bytes}
    (none : ∀ frame, Inbound.decode octets = .ok frame → frame.reply? = none) :
    (client.dispatch octets).requests = client.requests := by
  unfold dispatch
  split
  · next frame decoded =>
    unfold route
    split
    · simp
    · simp
    · simp
    · simp
    · exact client.offer_requests_of_none (none frame decoded) _
  · rfl

/-- A message that brings no reply leaves the requests as they are. -/
theorem step_receive_same {generation : Nat} {message : Message}
    (none : ∀ octets key reply, message = .binary octets →
      ¬ client.Receives generation octets key reply) :
    (client.step (.receive generation message)).requests = client.requests := by
  simp only [step, Action.isOwners, Bool.false_and, Bool.false_eq_true, if_false, perform]
  unfold receive
  split
  · next octets found =>
    split
    · next held =>
      apply client.dispatch_requests_of_none
      intro frame decoded
      cases replies : frame.reply? with
      | none => rfl
      | some pair =>
        exact absurd ⟨held, ⟨_, found, rfl⟩, frame, decoded, replies⟩
          (none octets pair.1 pair.2 rfl)
    · rfl
  · rfl
  · rfl

/-- A report that is not for the file service leaves the requests as they are. -/
theorem step_report_same {generation : Nat} (keeps : ¬ client.AboutToLose generation) :
    (client.step (.report generation)).requests = client.requests := by
  simp only [step, Action.isOwners, Bool.false_and, Bool.false_eq_true, if_false, perform]
  unfold report
  split
  · split
    · simp
    · rfl
  · next handler later found =>
    cases handler with
    | fileService => exact absurd ⟨_, later, found, rfl⟩ keeps
    | custom name claims hears => rfl
  · rfl
  · rfl

/-! ## Requests that run -/

section Running

variable {number : Nat} {waiting : Request}

/-- The end of a call leaves the requests. -/
@[simp] theorem finish_requests (client : Client) (call : Call)
    (outcome : Except Failure Delivery) :
    (client.finish call outcome).requests = client.requests := rfl

/-- What is told of a failed request leaves the requests. -/
@[simp] theorem failRequest_requests (client : Client) (number : Nat) (failure : Failure) :
    (client.failRequest number failure).requests = client.requests := by
  dsimp only [failRequest]
  split <;> rfl

/-- The end of a request leaves those alone that wait for their reply. -/
theorem release_waiting (sound : client.requests.Sound)
    (found : client.requests.find? number = some waiting)
    (waits : waiting.standing.isWaiting = true) {request : Request}
    (other : number ≠ request.number) :
    (client.requests.release request).find? number = some waiting := by
  rw [Requests.release_find?, if_neg other]
  split
  · next first =>
    obtain ⟨queued, foundQueued, _, standing⟩ :=
      (sound.queue_iff request.key number).mp (List.mem_of_head? first)
    rw [found] at foundQueued
    cases foundQueued
    rw [standing] at waits
    cases waits
  · exact found

/-- A request that waits for its reply still does when another one is sent. -/
theorem sendRequest_waiting (sound : client.requests.Sound)
    (found : client.requests.find? number = some waiting)
    (waits : waiting.standing.isWaiting = true) {request : Request}
    (foundSent : client.requests.find? request.number = some request)
    (turn : request.standing = .granted) :
    (client.sendRequest request).requests.find? number = some waiting := by
  have other : number ≠ request.number := by
    rintro rfl
    rw [found] at foundSent
    cases foundSent
    rw [turn] at waits
    cases waits
  unfold sendRequest
  split
  · rw [note_requests, note_requests, sound.enter_find? _ _ foundSent turn, if_neg other]
    exact found
  · rw [failRequest_requests]
    exact release_waiting sound found waits other

/-- A request that waits for its reply still does when another one is issued. -/
theorem ask_waiting (sound : client.requests.Sound)
    (found : client.requests.find? number = some waiting)
    (waits : waiting.standing.isWaiting = true) {call : Call} {want : Want}
    (wanted : call.transfer.wants client.config.chunkSize = .ok want) :
    (client.ask call want).requests.find? number = some waiting := by
  have past := sound.number_lt found
  have issued : (client.issue call want).1.requests.find? number = some waiting := by
    refine (sound.issue_find? want call.limit number).trans ?_
    rw [if_neg (Nat.ne_of_lt past)]
    exact found
  have soundIssued : (client.issue call want).1.requests.Sound :=
    sound.issue want call.limit (Transfer.awaits_of_wants wanted)
  dsimp only [ask]
  split
  · next turn =>
    exact sendRequest_waiting soundIssued issued waits (find?_of_issue sound call want) turn
  · exact issued

/-- A request that waits for its reply still does when another call goes on. -/
theorem proceed_waiting (sound : client.requests.Sound)
    (found : client.requests.find? number = some waiting)
    (waits : waiting.standing.isWaiting = true) (call : Call) (turn : Transfer.Turn) :
    (client.proceed call turn).requests.find? number = some waiting := by
  unfold proceed
  split
  · exact found
  · split
    · next wanted => exact ask_waiting sound found waits wanted
    · exact found

/-- A call that comes in leaves those requests alone that wait for their reply. -/
theorem step_start_waiting (sound : client.requests.Sound)
    (found : client.requests.find? number = some waiting)
    (waits : waiting.standing.isWaiting = true) (operation : Operation)
    (limit : Option Duration) :
    (client.step (.start operation limit)).requests.find? number = some waiting := by
  unfold step
  split
  · exact found
  · simp only [perform, start]
    split
    · exact found
    · exact @proceed_waiting (Client.note { client with called := client.called + 1 }
        (.started client.called operation)) _ _ sound found waits _ _

/-- A request that runs leaves the others alone that wait for their reply, and itself if it waits
and is not overdue. -/
theorem step_poll_waiting (sound : client.requests.Sound)
    (found : client.requests.find? number = some waiting)
    (waits : waiting.standing.isWaiting = true) {polled : Nat}
    (spared : polled = number → waiting.isOverdue client.clock = false) :
    (client.step (.poll polled)).requests.find? number = some waiting := by
  simp only [step, Action.isOwners, Bool.false_and, Bool.false_eq_true, if_false, perform, poll]
  cases foundPolled : client.requests.find? polled with
  | none => exact found
  | some request =>
    obtain rfl := Requests.number_of_find? foundPolled
    have apart : request.standing.isWaiting = false → number ≠ request.number := by
      rintro idle rfl
      rw [found] at foundPolled
      cases foundPolled
      rw [waits] at idle
      cases idle
    dsimp only
    split
    · exact found
    · next turn => exact sendRequest_waiting sound found waits foundPolled turn
    · split
      · split
        · next limit limited overdue =>
          rw [failRequest_requests]
          refine release_waiting sound found waits ?_
          rintro rfl
          rw [found] at foundPolled
          cases foundPolled
          rw [spared rfl] at overdue
          cases overdue
        · exact found
      · exact found
    · next reply came =>
      have released := sound.release foundPolled (by simp [came])
      have stays := release_waiting sound found waits (apart (by rw [came]; rfl))
      dsimp only [answerRequest]
      split
      · exact stays
      · exact proceed_waiting released stays waits _ _
    · next gone =>
      rw [failRequest_requests]
      exact release_waiting sound found waits (apart (by rw [gone]; rfl))

/-- A request that is overdue ends when it runs, and nothing else happens to the requests. -/
theorem step_poll_overdue {request : Request}
    (found : client.requests.find? request.number = some request)
    (overdue : request.isOverdue client.clock = true) :
    (client.step (.poll request.number)).requests = client.requests.release request := by
  have late := overdue
  unfold Request.isOverdue at late
  split at late
  · next waits limited =>
    simp only [step, Action.isOwners, Bool.false_and, Bool.false_eq_true, if_false, perform, poll,
      found, waits, limited, overdue, if_true, failRequest_requests]
  · cases late

end Running

end Client

end RemoteAgent
