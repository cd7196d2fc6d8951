import RemoteAgent.Proofs.Client.Ownership
import RemoteAgent.Proofs.Requests.Vacancies

/-!
# Replies find the requests that they answer

A reply has no number, and the request that it answers is found by a key, which is made of the reply
on the one side and of the operation on the other. What it answers is said without keys: the frame of
a request that names the same operation, the same path and the same offset (`Inbound.Answers`). The
offset of a read has a sign on the wire and none in the reply, so offsets that the sign would change
are refused before anything is asked for (`Transfer.wants_of_far`). For all others both agree
(`Transfer.answers_iff`), and a reply completes the request in flight that it answers, with what is in
it, and no other (`replies_correlate`).
-/

namespace RemoteAgent

/-- A frame from the agent answers a frame to the agent: both are of the same operation, and name the
same path and the same offset. The offset of a read has a sign on the wire. -/
inductive Inbound.Answers : Inbound → Outbound → Prop
  | info (info : FileInfo) : Answers (.fileInfo info) (.queryFile info.path)
  | chunk (path : String) {chunk : Chunk} {offset : Int64} (size : UInt64)
      (same : offset.toInt = chunk.offset.toNat) :
      Answers (.fileChunk path chunk) (.readChunk path offset size)
  | written (path : String) (offset : UInt64) (data : Bytes) :
      Answers (.fileWritten path offset) (.writeChunk path ⟨offset, data⟩)

/-- What a frame from the agent has for the one who asked. -/
inductive Inbound.Brings : Inbound → Reply → Prop
  | info (info : FileInfo) : Brings (.fileInfo info) (.info info)
  | chunk (path : String) (chunk : Chunk) : Brings (.fileChunk path chunk) (.chunk chunk)
  | written (path : String) (offset : UInt64) : Brings (.fileWritten path offset) .written

/-- A frame brings a reply exactly if it is one under a key. -/
theorem Inbound.brings_iff {frame : Inbound} {reply : Reply} :
    frame.Brings reply ↔ ∃ key, frame.reply? = some (key, reply) := by
  constructor
  · rintro (info | ⟨path, chunk⟩ | ⟨path, offset⟩)
    · exact ⟨_, rfl⟩
    · exact ⟨_, rfl⟩
    · exact ⟨_, rfl⟩
  · rintro ⟨key, replies⟩
    cases frame <;> cases replies
    · exact .written _ _
    · exact .info _
    · exact .chunk _ _

/-- A read is answered by the pieces at its offset. -/
theorem Want.answers_read {path : String} {offset size : UInt64} {want : Want}
    (made : Want.read path offset size = .ok want) {frame : Inbound} {key : RequestKey}
    {reply : Reply} (replies : frame.reply? = some (key, reply)) :
    frame.Answers want.frame ↔ key = want.key := by
  unfold Want.read at made
  split at made
  · next small =>
    cases made
    constructor
    · rintro (_ | ⟨_, _, same⟩ | _)
      cases replies
      rw [Want.toInt_offset small] at same
      exact congrArg (RequestKey.read path) (UInt64.toNat_inj.mp (Int.ofNat.inj same.symm))
    · intro same
      cases frame <;> cases replies <;> cases same
      exact .chunk _ _ (Want.toInt_offset small)
  · cases made

/-- The replies to what a transfer asks for are those under its key. -/
theorem Transfer.answers_iff {chunkSize : UInt64} {transfer : Transfer} {want : Want}
    (wanted : transfer.wants chunkSize = .ok want) {frame : Inbound} {key : RequestKey}
    {reply : Reply} (replies : frame.reply? = some (key, reply)) :
    frame.Answers want.frame ↔ key = want.key := by
  have queried : ∀ path, frame.Answers (.queryFile path) ↔ key = .info path := by
    intro path
    constructor
    · rintro ⟨info⟩
      cases replies
      rfl
    · rintro rfl
      cases frame <;> cases replies
      exact .info _
  have written : ∀ path chunk, frame.Answers (.writeChunk path chunk) ↔
      key = .write path chunk.offset := by
    rintro path ⟨offset, data⟩
    constructor
    · rintro (_ | _ | _)
      cases replies
      rfl
    · rintro rfl
      cases frame <;> cases replies
      exact .written _ _ _
  cases transfer with
  | reading path offset => exact Want.answers_read wanted replies
  | receiving path destination info received offset => exact Want.answers_read wanted replies
  | querying path =>
    cases wanted
    exact queried path
  | sizing path destination =>
    cases wanted
    exact queried path
  | writing path chunk =>
    cases wanted
    exact written path chunk
  | cutting path receipt data =>
    cases wanted
    exact written path ⟨count data, []⟩
  | sending path receipt total offset remaining =>
    cases wanted
    exact written path ⟨offset, remaining.take chunkSize.toNat⟩

/-- The piece at which a transfer reads. -/
def Transfer.readsAt? : Transfer → Option (String × UInt64)
  | reading path offset => some (path, offset)
  | receiving path _ _ _ offset => some (path, offset)
  | _ => none

/-- A read at an offset that the sign would change is not asked for. -/
theorem Transfer.wants_of_far {transfer : Transfer} {path : String} {offset : UInt64}
    (reads : transfer.readsAt? = some (path, offset)) (far : 0x8000000000000000 ≤ offset.toNat)
    (chunkSize : UInt64) :
    transfer.wants chunkSize = .error (.protocol (.offsetOutOfRange offset)) := by
  have refused : Want.read path offset chunkSize =
      .error (.protocol (.offsetOutOfRange offset)) := by
    rw [Want.read, if_neg (Nat.not_lt.mpr far)]
  cases transfer <;> cases reads <;> exact refused

/-- What a transfer asks for under the key of a read is a read, whose offset stands on the wire as it
is. -/
theorem Transfer.frame_of_read {chunkSize : UInt64} {transfer : Transfer} {want : Want}
    (wanted : transfer.wants chunkSize = .ok want) {path : String} {offset : UInt64}
    (reads : want.key = .read path offset) :
    ∃ wire size, want.frame = .readChunk path wire size ∧ wire.toInt = offset.toNat := by
  have read : ∀ {other : String} {start : UInt64}, Want.read other start chunkSize = .ok want →
      ∃ wire size, want.frame = .readChunk path wire size ∧ wire.toInt = offset.toNat := by
    intro other start made
    unfold Want.read at made
    split at made
    · next small =>
      cases made
      cases reads
      exact ⟨_, _, rfl, Want.toInt_offset small⟩
    · cases made
  cases transfer with
  | reading path offset => exact read wanted
  | receiving path destination info received offset => exact read wanted
  | _ =>
    cases wanted
    cases reads

namespace Client

variable {config : Config} {client after : Client} {action : Action}

/-! ## What was asked -/

/-- Every request that has not ended is what a transfer asks for. -/
def AllWanted (client : Client) : Prop :=
  ∀ number request, client.requests.find? number = some request →
    ∃ transfer : Transfer, ∃ want, transfer.wants client.config.chunkSize = .ok want ∧
      request.key = want.key ∧ request.frame = want.frame.encode

/-- A move issues only requests that a transfer asks for. -/
theorem Move.allWanted (moves : Move action client after) (sound : client.Sound)
    (wanted : client.AllWanted) : after.AllWanted := by
  intro number request found
  rw [moves.config]
  rcases moves.foundAfter sound found with ⟨before, foundBefore, follows⟩ | ⟨_, _, _, wants, _⟩
  · rw [key_of_follows follows, frame_of_follows follows]
    exact wanted number before foundBefore
  · exact wants

/-- In every run, requests are what transfers ask for. -/
theorem Reachable.allWanted (reachable : Reachable config client) : client.AllWanted :=
  reachable.bySoundMoves (by simp [Client.initial, Requests.find?, AllWanted])
    fun _ _ _ sound moves wanted => moves.allWanted sound wanted

/-- The frames of the requests that have not ended, by their numbers. -/
structure Asks (client : Client) (asked : Nat → Outbound) : Prop where
  /-- The octets to send are those of the frame. -/
  encoded : ∀ {number request}, client.requests.find? number = some request →
    request.frame = (asked number).encode
  /-- The replies to the frame are those under the key of the request. -/
  answered : ∀ {number request}, client.requests.find? number = some request →
    ∀ {frame : Inbound} {key reply}, frame.reply? = some (key, reply) →
      (frame.Answers (asked number) ↔ key = request.key)
  /-- The offset of a read stands on the wire as it is. -/
  reads : ∀ {number request}, client.requests.find? number = some request →
    ∀ {path offset}, request.key = .read path offset →
      ∃ wire size, asked number = .readChunk path wire size ∧ wire.toInt = offset.toNat

theorem AllWanted.asks (wanted : client.AllWanted) : ∃ asked, client.Asks asked := by
  have each : ∀ number, ∃ frame : Outbound, ∀ request,
      client.requests.find? number = some request → ∃ transfer : Transfer, ∃ want,
        transfer.wants client.config.chunkSize = .ok want ∧ request.key = want.key ∧
          request.frame = want.frame.encode ∧ frame = want.frame := by
    intro number
    cases found : client.requests.find? number with
    | none => exact ⟨.closeTerminal, by rintro request ⟨⟩⟩
    | some request =>
      obtain ⟨transfer, want, made, key, frame⟩ := wanted number request found
      refine ⟨want.frame, ?_⟩
      rintro other ⟨⟩
      exact ⟨transfer, want, made, key, frame, rfl⟩
  choose asked made using each
  refine ⟨asked, ?_, ?_, ?_⟩
  · intro number request found
    obtain ⟨_, want, _, _, frame, same⟩ := made number request found
    rw [frame, same]
  · intro number request found frame key reply replies
    obtain ⟨transfer, want, wants, sameKey, _, same⟩ := made number request found
    rw [same, sameKey]
    exact Transfer.answers_iff wants replies
  · intro number request found path offset reads
    obtain ⟨transfer, want, wants, sameKey, _, same⟩ := made number request found
    rw [same]
    exact Transfer.frame_of_read wants (sameKey ▸ reads)

/-! ## What a reply does -/

/-- The request of an entry has a reply, and all else stays as it was. -/
structure Completes (client after : Client) (entry : Entry) (reply : Reply) : Prop where
  /-- There is such a request. -/
  exists_request : ∃ request, client.requests.find? entry.request = some request
  /-- It has the reply, and every other request is as it was. -/
  standings : ∀ number, after.requests.find? number =
    (client.requests.find? number).map fun request =>
      if number = entry.request then { request with standing := .answered reply } else request
  /-- It is no longer in flight, and every other one still is. -/
  inFlight : after.requests.inFlight = client.requests.inFlight.filter (· ≠ entry)
  lanes : after.requests.lanes = client.requests.lanes

/-- What a reply does to the requests of a client, which have asked for frames. -/
structure Correlates (client : Client) (asked : Nat → Outbound) (frame : Inbound)
    (reply : Reply) : Prop where
  /-- The file service claims the reply. -/
  claimed : Handler.fileService.claims frame = true
  /-- At most one request in flight is answered. -/
  single : ∀ entry ∈ client.requests.inFlight, ∀ other ∈ client.requests.inFlight,
    frame.Answers (asked entry.request) → frame.Answers (asked other.request) → entry = other
  /-- Its entry waits for a reply of the kind that comes. -/
  matched : ∀ entry ∈ client.requests.inFlight, frame.Answers (asked entry.request) →
    entry.awaits = reply.kind
  /-- Its request has what the reply brings. -/
  completed : ∀ entry ∈ client.requests.inFlight, frame.Answers (asked entry.request) →
    client.Completes (client.handle frame .fileService) entry reply
  /-- If no request in flight is answered, nothing changes. -/
  unasked : (∀ entry ∈ client.requests.inFlight, ¬ frame.Answers (asked entry.request)) →
    client.handle frame .fileService = client.note (.offered .fileService frame true)

/-- A reply under the key of an entry completes its request. -/
theorem Reachable.completes (reachable : Reachable config client) {entry : Entry}
    (member : entry ∈ client.requests.inFlight) {reply : Reply}
    (fits : reply.kind = entry.key.replyKind)
    (handled : after.requests = client.requests.deliver entry.key reply) :
    client.Completes after entry reply := by
  have sound := reachable.sound.requests
  obtain ⟨request, sentAt, found, ownKey, _, waits⟩ := (sound.entry_iff entry).mp member
  refine ⟨⟨request, found⟩, fun number => ?_, ?_, ?_⟩
  · rw [handled, sound.deliver_find? fits]
    cases foundOther : client.requests.find? number with
    | none => rfl
    | some other =>
      rw [Option.map_some, Option.map_some]
      congr 1
      refine if_congr ⟨fun waiting => ?_, ?_⟩ rfl rfl
      · -- A lane has one holder, so the request that waits under the key is that of the entry.
        have unqueued : other.standing ≠ .queued := by
          intro queued
          rw [queued] at waiting
          cases waiting.2
        exact (sound.turn_unique found (by simp [waits]) foundOther unqueued
          (waiting.1.trans ownKey.symm)).1
      · rintro rfl
        rw [found] at foundOther
        cases foundOther
        exact ⟨ownKey, by rw [waits]; rfl⟩
  · rw [handled, Requests.deliver_inFlight]
    refine List.filter_congr fun other memberOther => ?_
    rw [bne, decide_not, beq_eq_decide]
    congr 1
    refine decide_eq_decide.mpr ⟨fun same => ?_, congrArg Entry.key⟩
    exact reachable.entriesDistinct.own memberOther member same
  · rw [handled]
    exact Requests.deliver_lanes client.requests entry.key reply

/-- In every run, a reply goes to the request in flight that it answers. -/
theorem Reachable.correlates (reachable : Reachable config client) {asked : Nat → Outbound}
    (asks : client.Asks asked) {frame : Inbound} {reply : Reply} (brings : frame.Brings reply) :
    client.Correlates asked frame reply := by
  obtain ⟨key, replies⟩ := Inbound.brings_iff.mp brings
  have sound := reachable.sound.requests
  have fits := Inbound.reply?_eq_some_key_kind replies
  have answers : ∀ entry ∈ client.requests.inFlight,
      (frame.Answers (asked entry.request) ↔ entry.key = key) := by
    intro entry member
    obtain ⟨request, _, found, sameKey, _, _⟩ := (sound.entry_iff entry).mp member
    rw [asks.answered found replies, sameKey]
    exact eq_comm
  refine ⟨by simp [Handler.claims, replies], ?_, ?_, ?_, ?_⟩
  · intro entry member other memberOther first second
    refine reachable.entriesDistinct.own member memberOther ?_
    rw [(answers entry member).mp first, (answers other memberOther).mp second]
  · intro entry member isAnswered
    obtain ⟨request, _, found, sameKey, awaits, _⟩ := (sound.entry_iff entry).mp member
    rw [← awaits, sound.awaits found, sameKey, (answers entry member).mp isAnswered, fits]
  · intro entry member isAnswered
    obtain rfl := (answers entry member).mp isAnswered
    exact reachable.completes member fits (by rw [handle_reply replies, withReply])
  · intro unanswered
    have nothing : client.requests.entryFor? key = none :=
      Requests.entryFor?_eq_none_iff.mpr fun entry member same =>
        unanswered entry member ((answers entry member).mpr same)
    rw [handle_reply replies, withReply, Requests.deliver, nothing]
    rfl

/-- A read fails without a request, a lane, or anything on the wire. -/
structure FailsUnasked (client after : Client) (failure : Failure) (number : Nat)
    (progress : List Progress) (earlier : List Event) : Prop where
  requests : after.requests = client.requests
  link : after.link = client.link
  told : after.trace = .finished number progress (.error failure) :: earlier

/-- A reply completes the request in flight that it answers, if there is one, and does nothing else. It
comes there from every running socket, and the request learns of it. Reads at offsets that the sign on
the wire would change are never asked for. -/
theorem replies_correlate (reachable : Reachable config client) :
    ∃ asked, client.Asks asked ∧
      (∀ frame reply, frame.Brings reply → client.Correlates asked frame reply) ∧
      (∀ generation socket octets frame reply, client.isHeld = true →
        client.link.socket? generation = some socket → socket.stage = .running →
          Inbound.decode octets = .ok frame → frame.Brings reply →
            client.step (.receive generation (.binary octets)) = client.handle frame .fileService ∧
            ∀ entry ∈ client.requests.inFlight, frame.Answers (asked entry.request) →
              .answered entry.request (.ok reply) ∈ ((client.step
                (.receive generation (.binary octets))).step (.poll entry.request)).trace) ∧
      (∀ call transfer path offset, transfer.readsAt? = some (path, offset) →
        0x8000000000000000 ≤ offset.toNat →
          client.FailsUnasked (client.proceed call (.go transfer))
            (.protocol (.offsetOutOfRange offset)) call.number call.progress client.trace) ∧
      ∀ path offset limit, 0x8000000000000000 ≤ offset.toNat →
        client.FailsUnasked (client.start (.read path offset) limit)
          (.protocol (.offsetOutOfRange offset)) client.called []
          (.started client.called (.read path offset) :: client.trace) := by
  obtain ⟨asked, asks⟩ := reachable.allWanted.asks
  refine ⟨asked, asks, fun frame reply brings => reachable.correlates asks brings, ?_, ?_, ?_⟩
  · intro generation socket octets frame reply held found running decoded brings
    obtain ⟨key, replies⟩ := Inbound.brings_iff.mp brings
    constructor
    · rw [step_receive_reply reachable.sound held found running decoded replies,
        handle_reply replies]
    · intro entry member isAnswered
      obtain ⟨request, _, foundRequest, sameKey, _, _⟩ :=
        (reachable.sound.requests.entry_iff entry).mp member
      have own := (asks.answered foundRequest replies).mp isAnswered
      rw [own, sameKey] at replies
      exact answers_of_entry reachable.sound member found running decoded replies
  · intro call transfer path offset reads far
    rw [proceed, Transfer.wants_of_far reads far]
    exact ⟨rfl, rfl, rfl⟩
  · intro path offset limit far
    have reads : (Transfer.reading path offset).readsAt? = some (path, offset) := rfl
    unfold start
    rw [Transfer.begin]
    dsimp only
    rw [proceed, Transfer.wants_of_far reads far]
    exact ⟨rfl, rfl, rfl⟩

/-- The last piece that can be asked for is read, and the one behind it cannot be asked for. -/
theorem replies_correlate_of_last_offset :
    let client := (Client.initial .loopback).run [.connect, .settle 1 .accepted, .resolve 1,
      .start (.read "a" 0x7FFFFFFFFFFFFFFF) none]
    let frame : Inbound := .fileChunk "a" ⟨0x7FFFFFFFFFFFFFFF, [0x01]⟩
    client.requests.inFlight = [⟨.read "a" 0x7FFFFFFFFFFFFFFF, 1, 0, .chunk⟩] ∧
      (client.handle frame .fileService).requests.inFlight = [] ∧
      ((client.handle frame .fileService).requests.find? 0).map Request.standing =
        some (.answered (.chunk ⟨0x7FFFFFFFFFFFFFFF, [0x01]⟩)) ∧
      (client.start (.read "a" 0x8000000000000000) none).requests = client.requests := by
  intro client frame
  have reachable : Reachable .loopback client := Reachable.initial.run _
  have inFlight : client.requests.inFlight =
      [⟨.read "a" 0x7FFFFFFFFFFFFFFF, 1, 0, .chunk⟩] := by decide
  have found : ∃ request, client.requests.find? 0 = some request ∧
      request.key = .read "a" 0x7FFFFFFFFFFFFFFF := ⟨_, rfl, rfl⟩
  obtain ⟨request, found, reads⟩ := found
  obtain ⟨asked, asks, correlates, _, _, far⟩ := replies_correlate reachable
  obtain ⟨wire, size, read, same⟩ := asks.reads found reads
  have answers : frame.Answers (asked 0) := read ▸ .chunk "a" size same
  have member : ⟨.read "a" 0x7FFFFFFFFFFFFFFF, 1, 0, .chunk⟩ ∈ client.requests.inFlight := by
    rw [inFlight]
    exact List.mem_singleton.mpr rfl
  have completes := (correlates frame _ (.chunk _ _)).completed _ member answers
  refine ⟨inFlight, ?_, ?_, (far "a" 0x8000000000000000 none (by decide)).requests⟩
  · rw [completes.inFlight, inFlight]
    rfl
  · rw [completes.standings, found]
    rfl

end Client

end RemoteAgent
