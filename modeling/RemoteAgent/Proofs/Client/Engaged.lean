import RemoteAgent.Proofs.Client.Calls

/-!
# One call on an open link

A client is engaged in one call at most: its link is open, and beside the call there is only the
request that the call waits for. What each step does to such a client is said as a whole: what
waits in the queue of its socket, the call, the request, and what the step adds to the trace.
-/

namespace RemoteAgent.Client

/-- The link is open, and nothing is under way but what waits in the queue of its socket, some calls,
and one request at most. -/
structure Engaged (client : Client) (generation : Nat) (queue : List Command) (calls : List Call)
    (only : Option Request) : Prop where
  held : client.isHeld = true
  opened : client.link.lifecycle = .opened generation
  running : ∃ attempt,
    client.link.socket? generation = some ⟨generation, attempt, queue, .running⟩
  calls : client.calls = calls
  requests : ∀ number, client.requests.find? number = only.filter (·.number == number)

/-- Nothing is under way on an open link. -/
def Rests (client : Client) (generation : Nat) : Prop := client.Engaged generation [] [] none

variable {client : Client} {generation : Nat} {queue : List Command} {calls : List Call}
  {only : Option Request} {request : Request} {call : Call}

namespace Engaged

theorem found (engaged : client.Engaged generation queue calls (some request)) :
    client.requests.find? request.number = some request := by
  simp [engaged.requests]

theorem wait (engaged : client.Engaged generation queue calls only) (time : Duration) :
    (client.step (.wait time)).Engaged generation queue calls only :=
  { engaged with }

/-! ## The socket -/

/-- The socket writes what is next in its queue. -/
theorem transmit {frame : Bytes}
    (engaged : client.Engaged generation (.frame frame :: queue) calls only) :
    (∃ link, client.link.dequeue generation = some (link, .frame frame)) ∧
      (client.step (.transmit generation)).Engaged generation queue calls only ∧
      (client.step (.transmit generation)).trace =
        .transmitted generation frame :: client.trace := by
  obtain ⟨attempt, found⟩ := engaged.running
  let link := client.link.changeSocket generation fun socket => { socket with queue }
  have taken : client.link.dequeue generation = some (link, .frame frame) := by
    simp only [Link.dequeue, found, link]
  have stepped : client.step (.transmit generation) =
      { client with link }.note (.transmitted generation frame) := by
    simp only [step, Action.isOwners, Bool.false_and, Bool.false_eq_true, if_false, perform,
      Client.transmit, taken]
  rw [stepped]
  refine ⟨⟨link, taken⟩, { engaged with running := ⟨attempt, ?_⟩ }, rfl⟩
  have changed := client.link.socket?_changeSocket generation generation
    (fun (socket : Socket) => (rfl : ({ socket with queue } : Socket).generation = _))
  rw [if_pos rfl, found] at changed
  exact changed

/-- A socket with an empty queue writes nothing. -/
theorem transmit_nothing (engaged : client.Engaged generation [] calls only) :
    client.link.dequeue generation = none ∧ client.step (.transmit generation) = client := by
  obtain ⟨attempt, found⟩ := engaged.running
  have nothing : client.link.dequeue generation = none := by
    simp only [Link.dequeue, found]
  refine ⟨nothing, ?_⟩
  simp only [step, Action.isOwners, Bool.false_and, Bool.false_eq_true, if_false, perform,
    Client.transmit, nothing]

/-- The reply to the request comes in. -/
theorem receive (sound : client.Sound)
    (engaged : client.Engaged generation queue calls (some request))
    (waits : request.standing.isWaiting = true) {octets : Bytes} {frame : Inbound} {reply : Reply}
    (decoded : Inbound.decode octets = .ok frame)
    (answers : frame.reply? = some (request.key, reply)) :
    (client.step (.receive generation (.binary octets))).Engaged generation queue calls
        (some { request with standing := .answered reply }) ∧
      (client.step (.receive generation (.binary octets))).trace =
        .offered .fileService frame true :: client.trace := by
  obtain ⟨attempt, found⟩ := engaged.running
  rw [step_receive_reply sound engaged.held found rfl decoded answers]
  refine ⟨{ engaged with requests := fun number => ?_ }, rfl⟩
  rw [withReply, sound.requests.deliver_find? (Inbound.reply?_eq_some_key_kind answers),
    engaged.requests, Option.filter_some, Option.filter_some]
  split
  · simp [waits]
  · rfl

/-! ## The request -/

/-- Nothing happens when no request has the number that is to run. -/
theorem poll_nothing (engaged : client.Engaged generation queue calls only) {number : Nat}
    (absent : ∀ request, only = some request → request.number ≠ number) :
    (client.step (.poll number)).Engaged generation queue calls only ∧
      (client.step (.poll number)).trace = client.trace := by
  have missing : client.requests.find? number = none := by
    rw [engaged.requests, Option.filter_eq_none_iff]
    simpa using absent
  simp only [step, Action.isOwners, Bool.false_and, Bool.false_eq_true, if_false, perform,
    Client.poll, missing]
  exact ⟨{ engaged with }, trivial⟩

/-- A request that waits for its reply fails when it runs, or nothing happens. -/
theorem poll_waiting (engaged : client.Engaged generation queue calls (some request))
    (waits : request.standing.isWaiting = true) :
    (∃ failure, .answered request.number (.error failure) ∈
        (client.step (.poll request.number)).trace) ∨
      (client.step (.poll request.number)).Engaged generation queue calls (some request) ∧
        (client.step (.poll request.number)).trace = client.trace := by
  have rested : ({ client with requests := client.requests.rest request.number } : Client).Engaged
      generation queue calls (some request) := { engaged with }
  unfold Standing.isWaiting at waits
  split at waits
  · next standing =>
    simp only [step, Action.isOwners, Bool.false_and, Bool.false_eq_true, if_false, perform,
      Client.poll, engaged.found, standing]
    split
    · split
      · next limit _ _ =>
        refine .inl ⟨.requestTimeout request.key limit.milliseconds, ?_⟩
        dsimp only [failRequest]
        split
        · exact List.mem_cons_self
        · exact List.mem_cons_of_mem _ List.mem_cons_self
      · exact .inr ⟨rested, rfl⟩
    · exact .inr ⟨rested, rfl⟩
  · cases waits

/-! ## The call -/

/-- The call of an engaged client is the only one, so that none is left without it. -/
theorem others (engaged : client.Engaged generation queue calls only)
    (same : ∀ other ∈ calls, other.number = call.number) :
    client.calls.filter (·.number != call.number) = [] := by
  rw [engaged.calls]
  simpa [List.filter_eq_nil_iff] using same

/-- A call ends. -/
theorem finish (engaged : client.Engaged generation queue calls none)
    (same : ∀ other ∈ calls, other.number = call.number) (outcome : Except Failure Delivery) :
    (client.finish call outcome).Engaged generation queue [] none :=
  { engaged with calls := engaged.others same }

/-- A call makes a request, whose turn it is at once. -/
theorem issue (sound : client.requests.Sound) (engaged : client.Engaged generation queue calls none)
    (same : ∀ other ∈ calls, other.number = call.number) (want : Want) :
    client.issue call want =
        ((client.issue call want).1, client.requests.requestFor want call.limit .granted) ∧
      (client.issue call want).1.Engaged generation queue
        [{ call with request := client.requests.issued }]
        (some (client.requests.requestFor want call.limit .granted)) ∧
      (client.issue call want).1.trace =
        .issued client.requests.issued want.key :: client.trace := by
  have free : client.requests.holder? want.key = none := by
    refine Option.eq_none_iff_forall_ne_some.mpr fun holder holds => ?_
    obtain ⟨request, foundHolder, _⟩ := (sound.holder_iff _ _).mp holds
    rw [engaged.requests] at foundHolder
    cases foundHolder
  have made : (client.requests.issue want call.limit).2 =
      client.requests.requestFor want call.limit .granted := by
    rw [Requests.issue_of_free call.limit free]
  refine ⟨Prod.ext rfl made, { engaged with calls := ?_, requests := fun number => ?_ }, ?_⟩
  · simp only [Client.issue, keep, Requests.issue_number]
    exact congrArg (· ++ _) (engaged.others same)
  · have table : (client.issue call want).1.requests =
        (client.requests.issue want call.limit).1 := rfl
    rw [table, sound.issue_find?, made, engaged.requests, Option.filter_some]
    by_cases newest : number = client.requests.issued
    · simp [newest, Requests.requestFor]
    · simp [newest, Requests.requestFor, Ne.symm newest]
  · simp only [Client.issue, keep, note, made]
    rfl

/-- The request whose turn it is is sent. -/
theorem send (sound : client.requests.Sound)
    (engaged : client.Engaged generation queue calls (some request))
    (turn : request.standing = .granted) :
    (client.sendRequest request).Engaged generation (queue ++ [.frame request.frame]) calls
        (some { request with standing := .waiting generation client.clock }) ∧
      (client.sendRequest request).trace =
        .sent request.number generation :: .accepted generation request.frame :: client.trace := by
  obtain ⟨attempt, found⟩ := engaged.running
  have accepted := Link.accept_eq_some_iff.mpr
    ⟨engaged.opened, (rfl : client.link.changeSocket generation (·.push (.frame request.frame)) = _)⟩
  simp only [sendRequest, accepted]
  refine ⟨{ engaged with running := ⟨attempt, ?_⟩, requests := fun number => ?_ }, rfl⟩
  · have pushed := client.link.socket?_push generation generation (.frame request.frame)
    rw [if_pos rfl, found] at pushed
    exact pushed
  · rw [note_requests, note_requests, sound.enter_find? _ _ engaged.found turn,
      engaged.requests, Option.filter_some, Option.filter_some]
    by_cases own : number = request.number
    · simp [own]
    · simp [own, Ne.symm own]

/-- A call makes a request, which is sent at once. -/
theorem ask (sound : client.requests.Sound) (engaged : client.Engaged generation [] calls none)
    (same : ∀ other ∈ calls, other.number = call.number) {want : Want}
    (awaits : want.awaits = want.key.replyKind) :
    (client.ask call want).Engaged generation [.frame want.frame.encode]
        [{ call with request := client.requests.issued }]
        (some (client.requests.requestFor want call.limit (.waiting generation client.clock))) ∧
      (client.ask call want).trace = .sent client.requests.issued generation ::
        .accepted generation want.frame.encode ::
          .issued client.requests.issued want.key :: client.trace := by
  obtain ⟨made, issued, told⟩ := engaged.issue sound same want
  have sent : client.ask call want = (client.issue call want).1.sendRequest
      (client.requests.requestFor want call.limit .granted) := by
    rw [Client.ask, made]
    rfl
  obtain ⟨after, toldAfter⟩ := issued.send (sound.issue want call.limit awaits) rfl
  rw [sent, toldAfter, told]
  exact ⟨after, rfl⟩

/-- When the request has its reply, it ends, and the call goes on with the reply. -/
theorem poll_answered (sound : client.Sound)
    (engaged : client.Engaged generation queue [call] (some request))
    (own : request.number = call.request) {reply : Reply}
    (came : request.standing = .answered reply) :
    (client.ended request (.ok reply)).Engaged generation queue [call] none ∧
      (client.ended request (.ok reply)).requests.Sound ∧
      client.step (.poll request.number) = (client.ended request (.ok reply)).proceed
        { call with progress :=
            call.progress ++ (call.transfer.resume client.config.chunkSize reply).1.toList }
        (call.transfer.resume client.config.chunkSize reply).2 := by
  refine ⟨{ engaged with requests := fun number => ?_ },
    sound.requests.release engaged.found (by simp [came]), ?_⟩
  · have gone := client.requests.release_find? request number
    rw [engaged.requests number, Option.filter_some] at gone
    refine gone.trans ?_
    by_cases same : number = request.number
    · simp [same]
    · simp [same, Ne.symm same]
  · have waits : client.calls.find? (·.request == request.number) = some call := by
      simp [engaged.calls, own]
    simp only [step, Action.isOwners, Bool.false_and, Bool.false_eq_true, if_false, perform,
      Client.poll, engaged.found, came, answerRequest, note, waits]
    rfl

end Engaged

end RemoteAgent.Client
