import RemoteAgent.Proofs.Client.Trace

/-!
# What a request learns

A reply that comes in on a running socket goes to the request in flight under its key, which learns
it as soon as it runs (`answers_of_entry`). A request that has lost its socket learns that
in the same way (`step_poll_lost`).
-/

namespace RemoteAgent.Client

variable {client : Client}

/-- The file service has claimed a frame, and the reply in it goes to the table of requests. -/
def withReply (client : Client) (frame : Inbound) (key : RequestKey) (reply : Reply) : Client :=
  { client.note (.offered .fileService frame true) with
    requests := client.requests.deliver key reply }

/-- The file service claims a reply, and looks for the request in flight under its key. -/
theorem handle_reply {frame : Inbound} {key : RequestKey} {reply : Reply}
    (replies : frame.reply? = some (key, reply)) :
    client.handle frame .fileService = client.withReply frame key reply := by
  have claimed : Handler.fileService.claims frame = true := by simp [Handler.claims, replies]
  simp only [handle, replies, claimed]
  rfl

/-- A frame that comes in on a running socket is dealt with, if somebody holds the client. -/
theorem step_receive_binary (held : client.isHeld = true) {generation : Nat} {socket : Socket}
    (found : client.link.socket? generation = some socket) (running : socket.stage = .running)
    (octets : Bytes) :
    client.step (.receive generation (.binary octets)) = client.dispatch octets := by
  obtain ⟨number, attempt, queue, stage⟩ := socket
  cases running
  simp only [step, Action.isOwners, Bool.false_and, Bool.false_eq_true, if_false, perform, receive,
    found, held, if_true]

/-- A reply that comes in on a running socket is dealt with by the file service alone. -/
theorem step_receive_reply (sound : client.Sound) (held : client.isHeld = true) {generation : Nat}
    {socket : Socket} {octets : Bytes} {frame : Inbound} {key : RequestKey} {reply : Reply}
    (found : client.link.socket? generation = some socket) (running : socket.stage = .running)
    (decoded : Inbound.decode octets = .ok frame) (answers : frame.reply? = some (key, reply)) :
    client.step (.receive generation (.binary octets)) = client.withReply frame key reply := by
  obtain ⟨later, handlers, _⟩ := sound.handlers
  have claimed : Handler.fileService.claims frame = true := by simp [Handler.claims, answers]
  have first : client.route frame = client.handle frame .fileService := by
    have offered : client.route frame = client.offer frame client.handlers := by
      cases frame <;> first | rfl | cases answers
    rw [offered, handlers, offer, if_pos claimed]
  rw [step_receive_binary held found running, dispatch, decoded]
  exact first.trans (handle_reply answers)

/-- A reply that comes in on a running socket goes to the table of requests. -/
theorem step_receive (sound : client.Sound) (held : client.isHeld = true) {generation : Nat}
    {socket : Socket} {octets : Bytes} {frame : Inbound} {key : RequestKey} {reply : Reply}
    (found : client.link.socket? generation = some socket) (running : socket.stage = .running)
    (decoded : Inbound.decode octets = .ok frame) (answers : frame.reply? = some (key, reply)) :
    (client.step (.receive generation (.binary octets))).requests =
      client.requests.deliver key reply := by
  rw [step_receive_reply sound held found running decoded answers, withReply]

/-- A request whose reply has come learns it when it runs. -/
theorem step_poll_answered (sound : client.Sound) {number : Nat} {request : Request} {reply : Reply}
    (found : client.requests.find? number = some request)
    (came : request.standing = .answered reply) :
    .answered number (.ok reply) ∈ (client.step (.poll number)).trace := by
  obtain rfl := Requests.number_of_find? found
  have runs : (Action.poll request.number).runsRequests = true := rfl
  have ended : Move (.poll request.number) client _ := .request (.ends runs found (.answered came))
  have soundEnded := ended.keepsSound sound
  have polled : client.step (.poll request.number) =
      { client with requests := client.requests.release request }.answerRequest request.number
        reply := by
    simp [step, Action.isOwners, perform, poll, found, came]
  rw [polled]
  exact (course_resume runs soundEnded.requests).remembers soundEnded List.mem_cons_self

/-- A request that fails is told how. -/
theorem failRequest_told (client : Client) (number : Nat) (failure : Failure) :
    .answered number (.error failure) ∈ (client.failRequest number failure).trace := by
  dsimp only [failRequest]
  split
  · exact List.mem_cons_self
  · exact List.mem_cons_of_mem _ List.mem_cons_self

/-- A request that has lost its socket learns so when it runs. -/
theorem step_poll_lost {number : Nat} {request : Request}
    (found : client.requests.find? number = some request)
    (gone : request.standing = .disconnected) :
    .answered number (.error .connectionClosed) ∈ (client.step (.poll number)).trace := by
  have polled : client.step (.poll number) =
      { client with requests := client.requests.release request }.failRequest number
        .connectionClosed := by
    simp [step, Action.isOwners, perform, poll, found, gone]
  rw [polled]
  exact failRequest_told _ _ _

/-- A request in flight learns the reply that comes in under its key. -/
theorem answers_of_entry (sound : client.Sound) {entry : Entry}
    (member : entry ∈ client.requests.inFlight) {generation : Nat} {socket : Socket}
    {octets : Bytes} {frame : Inbound} {reply : Reply}
    (found : client.link.socket? generation = some socket) (running : socket.stage = .running)
    (decoded : Inbound.decode octets = .ok frame)
    (answers : frame.reply? = some (entry.key, reply)) :
    .answered entry.request (.ok reply) ∈
      ((client.step (.receive generation (.binary octets))).step (.poll entry.request)).trace := by
  obtain ⟨request, sentAt, foundRequest, sameKey, _, waits⟩ :=
    (sound.requests.entry_iff entry).mp member
  have held : client.isHeld = true := by
    refine Bool.not_eq_false _ |>.mp fun unheld => ?_
    rw [(sound.released unheld).2.2] at foundRequest
    cases foundRequest
  have fits := Inbound.reply?_eq_some_key_kind answers
  have foundAnswered : (client.step (.receive generation (.binary octets))).requests.find?
      entry.request = some { request with standing := .answered reply } := by
    rw [step_receive sound held found running decoded answers, sound.requests.deliver_find? fits,
      foundRequest, Option.map_some, if_pos]
    exact ⟨sameKey, by rw [waits]; rfl⟩
  exact step_poll_answered (sound.step _) foundAnswered rfl

end RemoteAgent.Client
