import RemoteAgent.Proofs.Client.Moves

/-!
# Every step is a course of moves

A step of a client is taken apart into the moves of its action. The requests have to be sound for
that, since only then is a request that has just been made the one that is found under its number.
Moves keep them sound (`Move.sound`). `Reachable.byMoves` and `Course.induct` turn what every move
keeps into what every reachable client has, and what every run keeps.
-/

namespace RemoteAgent

/-- An agent on the same machine, with a second to connect. -/
def Config.loopback : Config where
  url := { scheme := "ws", host := .ipv4 0x7f000001 }
  agent := "box"
  agentId := none
  connectTimeout := .ofSeconds 1
  requestTimeout := none
  chunkSize := 4

namespace Client

/-! ## Events -/

/-- Events are recorded in the order of a list. -/
theorem noteAll_eq (client : Client) (events : List Event) :
    client.noteAll events = { client with trace := events.reverse ++ client.trace } := by
  induction events generalizing client with
  | nil => rfl
  | cons event later inductionHypothesis =>
    apply (inductionHypothesis (client.note event)).trans
    simp [note]

/-! ## Remarks -/

namespace Remarks

/-- Nothing needs to be remarked. -/
theorem refl (client : Client) : client.Remarks client where
  config := rfl
  clock := rfl
  link := rfl
  handlers := rfl
  requests := rfl
  calls := List.Sublist.refl _
  called := Nat.le_refl _
  isHeld := rfl
  trace := ⟨[], by simp, rfl⟩

/-- A remark is a remark. -/
theorem note (client : Client) {event : Event} (remark : event.isRemark = true) :
    client.Remarks (client.note event) :=
  { refl client with trace := ⟨[event], by simpa using remark, rfl⟩ }

/-- Remarks may be recorded. -/
theorem noteAll (client : Client) {events : List Event}
    (remarks : ∀ event ∈ events, event.isRemark = true) :
    client.Remarks (client.noteAll events) := by
  rw [noteAll_eq]
  exact { refl client with
    trace := ⟨events.reverse, fun event member => remarks event (List.mem_reverse.mp member), rfl⟩ }

/-- What the terminal gets is remarked. -/
theorem write (client : Client) (data : Bytes) : client.Remarks (client.write data) := by
  unfold Client.write
  split
  · exact refl client
  · exact note client rfl

/-- A call that ends is told of, and gone. -/
theorem finish (client : Client) (call : Call) (outcome : Except Failure Delivery) :
    client.Remarks (client.finish call outcome) :=
  { refl client with
    calls := List.filter_sublist
    trace := ⟨[.finished call.number call.progress outcome], by simp [Event.isRemark], rfl⟩ }

end Remarks

/-! ## Requests that run -/

section Running

variable {client : Client} {action : Action}

/-- The client that a request was issued for finds it. -/
theorem find?_of_issue (sound : client.requests.Sound) (call : Call) (want : Want) :
    (client.issue call want).1.requests.find? (client.issue call want).2.number =
      some (client.issue call want).2 := by
  have made := sound.issue_find? want call.limit (client.requests.issue want call.limit).2.number
  rwa [if_pos (Requests.issue_number ..)] at made

variable (runs : action.runsRequests = true)
include runs

/-- A request that fails is released, and its call ends with it. -/
theorem course_fail {request : Request} {failure : Failure}
    (found : client.requests.find? request.number = some request)
    (ending : client.Ends request (.error failure)) :
    Course action client
      ({ client with requests := client.requests.release request }.failRequest request.number
        failure) := by
  refine .head (.request (.ends runs found ending)) ?_
  dsimp only [failRequest]
  split
  · exact .refl
  · exact .single (.remarks (.finish _ _ _))

/-- At its turn, a request is sent, or fails for want of an open link. -/
theorem course_send {request : Request}
    (found : client.requests.find? request.number = some request)
    (turn : request.standing = .granted) :
    Course action client (client.sendRequest request) := by
  unfold sendRequest
  split
  · next link generation accepted =>
    obtain ⟨opened, rfl⟩ := Link.accept_eq_some_iff.mp accepted
    exact .single (.request (.sends runs found turn opened))
  · next refused =>
    refine course_fail runs found (.unsent turn ?_)
    intro generation opened
    rw [Link.accept_eq_some_iff.mpr ⟨opened, rfl⟩] at refused
    cases refused

/-- A call issues a request for what it wants, which runs at once if its lane is free. -/
theorem course_ask (sound : client.requests.Sound)
    (asked : client.isHeld = true ∨ client.calls ≠ []) {call : Call} {want : Want}
    (wanted : call.transfer.wants client.config.chunkSize = .ok want) :
    Course action client (client.ask call want) := by
  have made : Move action client (client.issue call want).1 := .request (.issues runs asked wanted)
  dsimp only [ask]
  split
  · next turn => exact .head made (course_send runs (find?_of_issue sound call want) turn)
  · exact .single made

/-- A call ends, or asks for what it wants next. -/
theorem course_proceed (sound : client.requests.Sound)
    (asked : client.isHeld = true ∨ client.calls ≠ []) (call : Call) (turn : Transfer.Turn) :
    Course action client (client.proceed call turn) := by
  unfold proceed
  split
  · exact .single (.remarks (.finish _ _ _))
  · split
    · next wanted => exact course_ask runs sound asked wanted
    · exact .single (.remarks (.finish _ _ _))

/-- With its reply, the call that waits for a request goes on. -/
theorem course_resume {number : Nat} {reply : Reply}
    (sound : (client.note (.answered number (.ok reply))).requests.Sound) :
    Course action (client.note (.answered number (.ok reply)))
      (client.answerRequest number reply) := by
  dsimp only [answerRequest]
  split
  · exact .refl
  · next waits =>
    refine course_proceed runs sound (.inr ?_) _ _
    exact List.ne_nil_of_mem (List.mem_of_find?_eq_some waits)

/-- A request that has its reply is released, and its call goes on. -/
theorem course_answer (sound : client.requests.Sound) {request : Request} {reply : Reply}
    (found : client.requests.find? request.number = some request)
    (came : request.standing = .answered reply) :
    Course action client
      ({ client with requests := client.requests.release request }.answerRequest request.number
        reply) := by
  have released := sound.release found (by simp [came])
  exact .head (.request (.ends runs found (.answered came))) (course_resume runs released)

omit runs

/-- A request that runs does so by moves, whatever it finds. -/
theorem course_poll (sound : client.requests.Sound) (number : Nat) :
    Course (.poll number) client (client.poll number) := by
  have rested : (∀ request, client.requests.find? number = some request →
      request.standing.isEager = false) →
      Course (.poll number) client { client with requests := client.requests.rest number } :=
    fun idle => .single (.request (.rests rfl idle))
  dsimp only [poll]
  cases found : client.requests.find? number with
  | none => exact rested (by simp [found])
  | some request =>
    obtain rfl := Requests.number_of_find? found
    have restedToo : request.standing.isEager = false →
        Course (.poll request.number) client
          { client with requests := client.requests.rest request.number } := by
      intro idle
      apply rested
      intro other foundOther
      rw [found] at foundOther
      cases foundOther
      exact idle
    have runs : (Action.poll request.number).runsRequests = true := rfl
    dsimp only
    split
    · next queued => exact restedToo (by rw [queued]; rfl)
    · next turn => exact course_send runs found turn
    · next waits =>
      have idle : request.standing.isEager = false := by rw [waits]; rfl
      split
      · next limit limited =>
        split
        · next late =>
          have due := late
          simp only [Request.isOverdue, waits, limited, decide_eq_true_eq] at due
          exact course_fail runs found (.overdue waits limited due)
        · exact restedToo idle
      · exact restedToo idle
    · next came => exact course_answer runs sound found came
    · next gone => exact course_fail runs found (.lost gone)

/-- A call begins with a remark, and goes on if its operation can. -/
theorem course_start (sound : client.requests.Sound) (held : client.isHeld = true)
    (operation : Operation) (limit : Option Duration) :
    Course (.start operation limit) client (client.start operation limit) := by
  have counted : client.Remarks
      ({ client with called := client.called + 1 }.note (.started client.called operation)) :=
    { Remarks.refl client with
      called := Nat.le_succ _
      trace := ⟨[.started client.called operation], by simp [Event.isRemark], rfl⟩ }
  have soundToo : ({ client with called := client.called + 1 }.note
      (.started client.called operation)).requests.Sound := sound
  dsimp only [start]
  split
  · exact .head (.remarks counted) (.single (.remarks (.note _ rfl)))
  · exact .head (.remarks counted) (course_proceed rfl soundToo (.inl held) _ _)

/-- A call that is given up drops its request. -/
theorem course_abandon (number : Nat) :
    Course (.cancel number) client (client.abandon number) := by
  unfold abandon
  split
  · exact .refl
  · next call waits =>
    have named : call.number = number := by simpa using List.find?_some waits
    subst named
    dsimp only
    split
    · exact .single (.remarks { Remarks.refl client with
        calls := List.filter_sublist })
    · next request found => exact .single (.request (.drops rfl waits found))

end Running

/-! ## The link and its sockets -/

section Links

variable (client : Client)

/-- A call for an open link dials, joins an attempt, or is answered at once. -/
theorem course_connect (held : client.isHeld = true) : Course .connect client client.connect := by
  unfold connect Link.join
  cases standing : client.link.lifecycle with
  | opened generation => exact .single (.link (.finds rfl standing) rfl)
  | connecting number => exact .single (.link (.joins rfl standing) rfl)
  | idle => exact .single (.link (.dials _ rfl held (by simp [standing]) (by simp [standing])) rfl)
  | closed => exact .single (.link (.dials _ rfl held (by simp [standing]) (by simp [standing])) rfl)

/-- Attempts that nobody can wait for any more go one move at a time. -/
theorem course_sweep {action : Action} (aside : action.runsRequests = false) :
    Course action client client.sweep := by
  refine .head (.link .sweeps aside) (.single (.remarks (.noteAll _ ?_)))
  intro event member
  obtain ⟨number, _, rfl⟩ := List.mem_map.mp member
  rfl

/-- To close the link is a move, behind which attempts are swept away. -/
theorem course_close : Course .close client client.close :=
  .head (.link (.closes rfl) rfl) (course_sweep _ rfl)

/-- A call of either kind is given up by moves. -/
theorem course_cancel (call : Nat) : Course (.cancel call) client (client.cancel call) :=
  (course_abandon call).trans (.head (.link (.parts rfl) rfl) (course_sweep _ rfl))

/-- An attempt fails, and its callers learn of it. -/
theorem course_failAttempt {client : Client} {attempt : Attempt} {failure : Failure}
    (found : client.link.attempt? attempt.number = some attempt)
    (blamed : failure.isConnectionError = true) :
    Course (.resolve attempt.number) client (client.failAttempt attempt failure) := by
  rw [failAttempt, tellCallers, noteAll_eq]
  exact .single (.link (.fails rfl found blamed) rfl)

/-- An attempt opens a socket while it is wanted, and fails its callers otherwise. -/
theorem course_openSocket {client : Client} {attempt : Attempt}
    (found : client.link.attempt? attempt.number = some attempt) :
    Course (.resolve attempt.number) client (client.openSocket attempt) := by
  unfold openSocket
  split
  · next own =>
    simp only [tellCallers, noteAll_eq, announce, write]
    split
    · exact .single (.link (@LinkMove.opens _ _ _ [] rfl found own (by simp)) rfl)
    · next terminal _ =>
      exact .single (.link
        (@LinkMove.opens _ _ _ [.wrote terminal _] rfl found own (by simp [Event.isRemark])) rfl)
  · next other =>
    -- The attempt is let go as one that fails is, since the lifecycle does not name it.
    have failed : client.link.fail attempt.number = client.link.forget attempt.number := by
      simp only [Link.fail, Lifecycle.afterFailure, if_neg other]
      rfl
    rw [← failed]
    have forsaken : Course (.resolve attempt.number) client
        (client.note (.forsook attempt.number)) := .single (.remarks (.note _ rfl))
    have foundToo : (client.note (.forsook attempt.number)).link.attempt? attempt.number =
        some attempt := found
    have blamed : (Failure.connection .abandoned).isConnectionError = true := rfl
    exact forsaken.trans (course_failAttempt foundToo blamed)

/-- An attempt goes on by moves: with its handshake, or with the end of its time. -/
theorem course_resolve (number : Nat) :
    Course (.resolve number) client (client.resolve number) := by
  unfold resolve
  split
  · exact .refl
  · next attempt found =>
    have named : attempt.number = number := by simpa using List.find?_some found
    subst named
    split
    · split
      · exact course_openSocket found
      · exact course_failAttempt found rfl
      · exact (course_failAttempt found rfl).trans (.single (.remarks (.note _ rfl)))
    · exact .refl

/-- A frame of the owner is accepted, or nothing happens. -/
theorem course_send_raw (frame : Bytes) : Course (.send frame) client (client.send frame) := by
  unfold send
  split
  · exact .refl
  · next link generation accepted =>
    obtain ⟨opened, rfl⟩ := Link.accept_eq_some_iff.mp accepted
    exact .single (.link (.accepts frame rfl opened) rfl)

/-- A socket writes what is next in its queue. -/
theorem course_transmit (generation : Nat) :
    Course (.transmit generation) client (client.transmit generation) := by
  unfold transmit
  split
  · exact .refl
  · next taken =>
    obtain ⟨socket, rest, found, running, queued, rfl⟩ := Link.dequeue_eq_some taken
    exact .single (.link (.writes rfl found running queued) rfl)
  · next taken =>
    obtain ⟨socket, rest, found, running, _⟩ := Link.dequeue_eq_some taken
    exact .head (.link (.breaks found running) rfl) (.single (.remarks (.note _ rfl)))

/-- A handler that gets a frame lets the reply in it through at most. -/
theorem course_handle {client : Client} {generation : Nat} {octets : Bytes} {socket : Socket}
    {frame : Inbound} (found : client.link.socket? generation = some socket)
    (running : socket.stage = .running) (decoded : Inbound.decode octets = .ok frame)
    (handler : Handler) :
    Course (.receive generation (.binary octets)) client (client.handle frame handler) ∧
      (client.handle frame handler).link = client.link := by
  have offered : Course (.receive generation (.binary octets)) client
      (client.note (.offered handler frame (handler.claims frame))) :=
    .single (.remarks (.note _ rfl))
  unfold handle
  split
  · next answers =>
    exact ⟨offered.tail (.request (.delivers rfl found running decoded answers)), rfl⟩
  · exact ⟨offered, rfl⟩

/-- A frame is offered to one handler after the other, and the file service delivers a reply. -/
theorem course_offer {client : Client} {generation : Nat} {octets : Bytes} {socket : Socket}
    {frame : Inbound} (found : client.link.socket? generation = some socket)
    (running : socket.stage = .running) (decoded : Inbound.decode octets = .ok frame)
    (handlers : List Handler) :
    Course (.receive generation (.binary octets)) client (client.offer frame handlers) := by
  induction handlers generalizing client with
  | nil => exact .refl
  | cons handler later inductionHypothesis =>
    obtain ⟨handled, same⟩ := course_handle found running decoded handler
    unfold offer
    split
    · exact handled
    · exact handled.trans (inductionHypothesis (same ▸ found))

/-- Octets that come in on a running socket are dealt with by moves. -/
theorem course_dispatch {client : Client} {generation : Nat} {socket : Socket}
    (found : client.link.socket? generation = some socket) (running : socket.stage = .running)
    (octets : Bytes) :
    Course (.receive generation (.binary octets)) client (client.dispatch octets) := by
  unfold dispatch
  split
  · next frame decoded =>
    unfold route
    split
    · exact .single (.remarks (.write _ _))
    · exact .single (.remarks (.write _ _))
    · exact .single (.remarks (.write _ _))
    · exact .single (.remarks (.note _ rfl))
    · exact course_offer found running decoded _
  · exact .single (.remarks (.note _ rfl))

/-- A message does something on a running socket only. -/
theorem course_receive (generation : Nat) (message : Message) :
    Course (.receive generation message) client (client.receive generation message) := by
  unfold receive
  split
  · next octets found =>
    split
    · exact course_dispatch found rfl _
    · exact .head (.link (.breaks found rfl) rfl) (.single (.remarks (.note _ rfl)))
  · next found => exact .single (.link (.breaks found rfl) rfl)
  · exact .refl

/-- A socket that has ended tells of it step by step. -/
theorem course_report (generation : Nat) :
    Course (.report generation) client (client.report generation) := by
  unfold report
  split
  · next found =>
    split
    · exact .head (.link (.announces found rfl) rfl) (.single (.remarks (.write _ _)))
    · next unheld =>
      have free : client.isHeld = false := by simpa using unheld
      exact .single (.link (.retires found (.inr ⟨rfl, free⟩)) rfl)
  · next handler later found =>
    cases handler with
    | fileService => exact .single (.loses rfl found rfl)
    | custom name claims hears => exact .single (.link (.tells found rfl) rfl)
  · next found => exact .single (.link (.retires found (.inl rfl)) rfl)
  · exact .refl

/-- To let go of the client closes the link and drops all calls. -/
theorem course_release (held : client.isHeld = true) : Course .release client client.release := by
  refine .head (.releases rfl held) (.single (.remarks (.noteAll _ ?_)))
  intro event member
  obtain ⟨attempt, _, rfl⟩ := List.mem_map.mp member
  rfl

end Links

/-- Every step is a course of moves. -/
theorem course_step {client : Client} (sound : client.requests.Sound) (action : Action) :
    Course action client (client.step action) := by
  unfold step
  split
  · exact .refl
  · next possible =>
    cases action with
    | connect =>
      have held : client.isHeld = true := by simpa [Action.isOwners] using possible
      exact course_connect client held
    | start operation limit =>
      have held : client.isHeld = true := by simpa [Action.isOwners] using possible
      exact course_start sound held operation limit
    | cancel call => exact course_cancel client call
    | send frame => exact course_send_raw client frame
    | attachTerminal terminal => exact .single (.remarks { Remarks.refl client with })
    | register name claims hears => exact .single (.registers name claims hears)
    | close => exact course_close client
    | release =>
      have held : client.isHeld = true := by simpa [Action.isOwners] using possible
      exact course_release client held
    | settle attempt handshake => exact .single (.link (.settles attempt handshake rfl) rfl)
    | receive generation message => exact course_receive client generation message
    | wait time => exact .single (.waits rfl)
    | resolve attempt => exact course_resolve client attempt
    | poll request => exact course_poll sound request
    | transmit generation => exact course_transmit client generation
    | report generation => exact course_report client generation

/-! ## What moves keep -/

section Keeping

variable {client after : Client} {action : Action}

/-- Moves of the link let requests be. -/
theorem LinkMove.requests (moves : LinkMove action client after) :
    after.requests = client.requests := by
  cases moves <;> rfl

/-- Moves keep the requests sound. -/
theorem Move.sound (moves : Move action client after) (sound : client.requests.Sound) :
    after.requests.Sound := by
  cases moves with
  | remarks remarks => exact remarks.requests ▸ sound
  | registers name claims hears => exact sound
  | waits => exact sound
  | request moves =>
    cases moves with
    | issues _ _ wanted => exact sound.issue _ _ (Transfer.awaits_of_wants wanted)
    | sends _ found turn _ => exact sound.enter _ _ found turn
    | @ends request _ _ found ending =>
      apply sound.release found
      intro queued
      cases ending with
      | unsent turn => exact absurd (turn.symm.trans queued) (by simp)
      | overdue waits => exact absurd (waits.symm.trans queued) (by simp)
      | answered came => exact absurd (came.symm.trans queued) (by simp)
      | lost gone => exact absurd (gone.symm.trans queued) (by simp)
    | rests _ idle => exact sound.rest idle
    | @drops call request _ _ found =>
      exact sound.drop (Requests.number_of_find? found ▸ found)
    | delivers => exact sound.deliver _ _
  | link moves => exact moves.requests ▸ sound
  | loses => exact sound.disconnect _
  | releases => exact Requests.sound_nothing _

/-- A course keeps the requests sound, and what every move of it keeps besides. -/
theorem Course.induct {property : Client → Prop} (course : Course action client after)
    (sound : client.requests.Sound)
    (kept : ∀ middle next, middle.requests.Sound → Move action middle next → property middle →
      property next) (before : property client) : after.requests.Sound ∧ property after := by
  induction course with
  | refl => exact ⟨sound, before⟩
  | tail _ moves inductionHypothesis =>
    obtain ⟨soundToo, holds⟩ := inductionHypothesis
    exact ⟨moves.sound soundToo, kept _ _ soundToo moves holds⟩

/-- A step keeps the requests sound, and what every move of it keeps besides. -/
theorem step_induct {property : Client → Prop} (sound : client.requests.Sound)
    (kept : ∀ middle next, middle.requests.Sound → Move action middle next → property middle →
      property next) (before : property client) :
    (client.step action).requests.Sound ∧ property (client.step action) :=
  (course_step sound action).induct sound kept before

/-- The requests of every client are sound. -/
theorem Reachable.requests_sound {config : Config} (reachable : Reachable config client) :
    client.requests.Sound := by
  induction reachable with
  | initial => exact Requests.sound_nothing 0
  | step action _ inductionHypothesis =>
    exact (@step_induct _ action (fun _ => True) inductionHypothesis (fun _ _ _ _ _ => trivial)
      trivial).1

/-- What holds at the beginning and is kept by every move holds always. -/
theorem Reachable.byMoves {config : Config} {property : Client → Prop}
    (reachable : Reachable config client) (initially : property (Client.initial config))
    (kept : ∀ action client after, client.requests.Sound → Move action client after →
      property client → property after) : property client := by
  induction reachable with
  | initial => exact initially
  | step action before inductionHypothesis =>
    exact (step_induct before.requests_sound (kept action) inductionHypothesis).2

end Keeping

end Client

end RemoteAgent
