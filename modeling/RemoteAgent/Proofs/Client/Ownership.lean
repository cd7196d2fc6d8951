import RemoteAgent.Proofs.Client.Places
import RemoteAgent.Proofs.Client.Steps
import Mathlib.Data.Set.Card

/-!
# Who owns what is in flight

An entry in flight belongs to the request that holds the lane of its key, and stays until something
settles that very request (`Reachable.leaves_iff_settles`): its reply, its deadline, the loss of its
socket, or its owner. A request that is entered finds no entry under its key, and touches none
(`Reachable.enters_alone`). What is in flight is therefore what was sent and not settled since
(`entries_owned`).
-/

namespace RemoteAgent

/-- The standing of a request says that its frame has been sent. -/
def Standing.isSent : Standing → Bool
  | .queued | .granted => false
  | _ => true

/-- A request is the same as before, and has been sent if it had. -/
structure Request.Alike (before later : Request) : Prop where
  key : later.key = before.key
  frame : later.frame = before.frame
  sent : later.standing.isSent = before.standing.isSent

theorem Request.Alike.refl (request : Request) : request.Alike request := ⟨rfl, rfl, rfl⟩

theorem Request.Alike.trans {first middle last : Request} (before : first.Alike middle)
    (afterwards : middle.Alike last) : first.Alike last :=
  ⟨afterwards.key.trans before.key, afterwards.frame.trans before.frame,
    afterwards.sent.trans before.sent⟩

/-- Where no request runs, none is sent. -/
theorem Request.Follows.alike {action : Action} {client after : Client} {before request : Request}
    (follows : before.Follows action client after request) (aside : action.runsRequests = false) :
    before.Alike request := by
  cases follows with
  | same => exact .refl before
  | granted queued => exact ⟨rfl, rfl, by rw [queued]; rfl⟩
  | sent runs => exact absurd (runs.symm.trans aside) (by simp)
  | answered waits =>
    refine ⟨rfl, rfl, ?_⟩
    cases stands : before.standing <;> simp [stands, Standing.isWaiting] at waits
    rfl
  | lost waits =>
    refine ⟨rfl, rfl, ?_⟩
    cases stands : before.standing <;> simp [stands, Standing.waitsOn] at waits
    rfl

namespace Requests

/-- No two entries are under one key. -/
def EntriesDistinct (requests : Requests) : Prop :=
  requests.inFlight.Pairwise fun entry other => entry.key ≠ other.key

/-- There is one entry under a key. -/
theorem EntriesDistinct.own {requests : Requests} (distinct : requests.EntriesDistinct)
    {entry other : Entry} (member : entry ∈ requests.inFlight)
    (memberOther : other ∈ requests.inFlight) (sameKey : entry.key = other.key) : entry = other :=
  List.inj_on_of_nodup_map (List.pairwise_map.mpr distinct) member memberOther sameKey

/-- A request that is sent enters under a key without an entry. -/
theorem Sound.enter_entriesDistinct {requests : Requests} (sound : requests.Sound)
    (distinct : requests.EntriesDistinct) {request : Request} (generation clock : Nat)
    (found : requests.find? request.number = some request) (turn : request.standing = .granted) :
    (requests.enter request generation clock).EntriesDistinct := by
  rw [EntriesDistinct, sound.enter_inFlight generation clock found turn]
  refine List.pairwise_append.mpr ⟨distinct, List.pairwise_singleton _ _, ?_⟩
  intro entry member new isNew
  rw [List.mem_singleton.mp isNew]
  exact entryFor?_eq_none_iff.mp (sound.entryFor?_eq_none found turn) entry member

end Requests

namespace Client

variable {config : Config} {client after : Client} {action : Action}

/-! ## Entries and the requests that were sent -/

/-- What the trace tells of the requests that were sent. -/
structure Sendings (client : Client) : Prop where
  /-- A request that waits for its reply was sent on the socket that it waits on. -/
  waiting : ∀ {number request generation sentAt}, client.requests.find? number = some request →
    request.standing = .waiting generation sentAt → .sent number generation ∈ client.trace
  /-- A request is sent once. -/
  unique : ∀ {number generation other}, .sent number generation ∈ client.trace →
    .sent number other ∈ client.trace → generation = other

/-- A move keeps what the trace tells of the requests that were sent. -/
theorem Move.sendings (moves : Move action client after) (sound : client.Sound)
    (outcomes : client.Outcomes) (sendings : client.Sendings) : after.Sendings := by
  refine ⟨?_, ?_⟩
  · intro number request generation sentAt found waits
    rcases moves.foundAfter sound found with ⟨before, foundBefore, follows⟩ | ⟨_, _, early, _⟩
    · cases follows with
      | same => exact moves.remembers sound (sendings.waiting foundBefore waits)
      | granted => cases waits
      | sent _ _ _ told =>
        cases waits
        rw [told, Requests.number_of_find? foundBefore]
        exact List.mem_cons_self
      | answered => cases waits
      | lost => cases waits
    · rcases early with turn | turn <;> simp [turn] at waits
  · intro number generation other first second
    rcases moves.explains sound first with oldFirst | ⟨_, opened, request, found, turn, _⟩
    · rcases moves.explains sound second with oldSecond | ⟨_, _, request, found, turn, _⟩
      · exact sendings.unique oldFirst oldSecond
      · exact absurd oldFirst (outcomes.unsent found (.inl turn))
    · rcases moves.explains sound second with oldSecond | ⟨_, openedToo, _⟩
      · exact absurd oldSecond (outcomes.unsent found (.inl turn))
      · exact Lifecycle.opened.inj (opened.symm.trans openedToo)

/-- In every run, a request that waits for its reply was sent, and none is sent twice. -/
theorem Reachable.sendings (reachable : Reachable config client) : client.Sendings := by
  refine (@Reachable.bySoundMoves _ _ (fun client => client.Outcomes ∧ client.Sendings) reachable
    ⟨Reachable.initial.outcomes, ?_⟩ ?_).2
  · exact ⟨by simp [Client.initial, Requests.find?], by simp [Client.initial]⟩
  · rintro action client after sound moves ⟨outcomes, sendings⟩
    exact ⟨moves.outcomes sound outcomes, moves.sendings sound outcomes sendings⟩

/-- A move keeps the keys of the entries apart. -/
theorem Move.entriesDistinct (moves : Move action client after) (sound : client.Sound)
    (distinct : client.requests.EntriesDistinct) : after.requests.EntriesDistinct := by
  cases moves with
  | remarks remarks => exact remarks.requests ▸ distinct
  | registers => exact distinct
  | waits => exact distinct
  | request moves =>
    cases moves with
    | @issues call want =>
      change ((client.requests.issue want call.limit).1.inFlight).Pairwise _
      rw [Requests.issue_inFlight]
      exact distinct
    | sends _ found turn _ => exact sound.requests.enter_entriesDistinct distinct _ _ found turn
    | ends =>
      rw [Requests.EntriesDistinct, note_requests, Requests.release_inFlight]
      exact distinct.filter _
    | rests => exact distinct
    | drops => exact distinct.sublist (Requests.drop_inFlight _ _)
    | delivers =>
      rw [Requests.EntriesDistinct, Requests.deliver_inFlight]
      exact distinct.filter _
  | link moves => exact moves.requests ▸ distinct
  | loses =>
    rw [Requests.EntriesDistinct, Requests.disconnect_inFlight]
    exact distinct.filter _
  | releases => exact List.Pairwise.nil

/-- In every run, entries have different keys. -/
theorem Reachable.entriesDistinct (reachable : Reachable config client) :
    client.requests.EntriesDistinct :=
  reachable.bySoundMoves List.Pairwise.nil fun _ _ _ sound moves distinct =>
    moves.entriesDistinct sound distinct

/-! ## What settles a request -/

/-- The action ends the wait of a request for its reply: the reply comes in, the deadline has
passed, the file service is told that the socket of the request is gone, or its owner gives it
up. -/
def Settles (client : Client) (number : Nat) : Action → Prop
  | .receive generation (.binary octets) => ∃ key reply,
      client.Receives generation octets key reply ∧ .issued number key ∈ client.trace
  | .report generation => client.AboutToLose generation ∧ .sent number generation ∈ client.trace
  | .poll polled => polled = number ∧ ∃ request, client.requests.find? number = some request ∧
      request.isOverdue client.clock = true
  | action => client.GivesUp number action

/-- An entry is in flight as long as its request waits. -/
theorem entry_of_found (sound : client.requests.Sound) {entry : Entry} {request : Request}
    {sentAt : Nat} (found : client.requests.find? entry.request = some request)
    (key : request.key = entry.key) (awaits : request.awaits = entry.awaits)
    (waits : request.standing = .waiting entry.generation sentAt) :
    entry ∈ client.requests.inFlight :=
  (sound.entry_iff entry).mpr ⟨request, sentAt, found, key, awaits, waits⟩

/-- An entry goes with its request. -/
theorem leaves_of_gone (sound : client.requests.Sound) {entry : Entry}
    (gone : client.requests.find? entry.request = none) : entry ∉ client.requests.inFlight := by
  intro member
  obtain ⟨_, _, found, _⟩ := (sound.entry_iff entry).mp member
  rw [gone] at found
  cases found

/-- A request that waits for its reply stays as it is when another call is given up. -/
theorem step_cancel_waiting (sound : client.Sound) {number call : Nat} {waiting : Request}
    (found : client.requests.find? number = some waiting)
    (waits : waiting.standing.isWaiting = true)
    (spared : ¬ client.GivesUp number (.cancel call)) :
    (client.step (.cancel call)).requests.find? number = some waiting := by
  refine (@step_induct client (.cancel call) (fun client => client.Sound ∧
    ¬ client.GivesUp number (.cancel call) ∧ client.requests.find? number = some waiting)
    sound.requests ?_ ⟨sound, spared, found⟩).2.2.2
  rintro middle next _ moves ⟨soundMiddle, sparedMiddle, foundMiddle⟩
  refine ⟨moves.keepsSound soundMiddle, moves.spares sparedMiddle, ?_⟩
  rcases moves.foundBefore soundMiddle foundMiddle with ⟨last, foundLast, follows⟩ |
    ⟨_, runs, _⟩ | ⟨givesUp, _⟩
  · cases follows with
    | same => exact foundLast
    | granted queued => simp [Standing.isWaiting, queued] at waits
    | sent runs => cases runs
    | answered _ receives => cases receives
    | lost _ reports => cases reports
  · cases runs
  · exact absurd givesUp sparedMiddle

/-- Where a step neither changes what is in flight nor settles the request, the entry stays. -/
theorem leaves_iff_of_same {entry : Entry} (member : entry ∈ client.requests.inFlight)
    (same : (client.step action).requests = client.requests)
    (unsettled : ¬ client.Settles entry.request action) :
    entry ∉ (client.step action).requests.inFlight ↔ client.Settles entry.request action := by
  rw [same]
  exact ⟨fun gone => absurd member gone, fun settles => absurd settles unsettled⟩

/-- A frame takes the entry away whose request it replies to. -/
theorem Reachable.receive_leaves_iff (reachable : Reachable config client) {entry : Entry}
    (member : entry ∈ client.requests.inFlight) (generation : Nat) (message : Message) :
    entry ∉ (client.step (.receive generation message)).requests.inFlight ↔
      client.Settles entry.request (.receive generation message) := by
  by_cases receives : ∃ octets key reply, message = .binary octets ∧
      client.Receives generation octets key reply
  · obtain ⟨octets, key, reply, rfl, receives⟩ := receives
    rw [receives.requests reachable.sound, Requests.deliver_inFlight, List.mem_filter]
    obtain ⟨request, _, found, sameKey, _⟩ := (reachable.requests_sound.entry_iff entry).mp member
    have issued := reachable.outcomes.issued found
    constructor
    · intro gone
      have own : entry.key = key := by simpa [member] using gone
      exact ⟨key, reply, receives, own ▸ sameKey ▸ issued⟩
    · rintro ⟨other, otherReply, receivesToo, issuedToo⟩ ⟨_, different⟩
      obtain ⟨rfl, _⟩ := receives.unique receivesToo
      have own := reachable.outcomes.issued_unique issued issuedToo
      simp [← sameKey, own] at different
  · refine leaves_iff_of_same member (step_receive_same ?_) ?_
    · exact fun octets key reply binary comes => receives ⟨octets, key, reply, binary, comes⟩
    · cases message with
      | binary octets =>
        rintro ⟨key, reply, comes, _⟩
        exact receives ⟨octets, key, reply, rfl, comes⟩
      | _ => exact id

/-- A request that is polled takes its own entry away, once it is overdue. -/
theorem Reachable.poll_leaves_iff (reachable : Reachable config client) {entry : Entry}
    (member : entry ∈ client.requests.inFlight) (polled : Nat) :
    entry ∉ (client.step (.poll polled)).requests.inFlight ↔
      client.Settles entry.request (.poll polled) := by
  have soundAfter := (reachable.sound.step (.poll polled)).requests
  obtain ⟨request, sentAt, found, sameKey, sameKind, waits⟩ :=
    (reachable.requests_sound.entry_iff entry).mp member
  by_cases overdue : polled = entry.request ∧ request.isOverdue client.clock = true
  · obtain ⟨rfl, late⟩ := overdue
    have named := Requests.number_of_find? found
    refine ⟨fun _ => ⟨rfl, request, found, late⟩, fun _ => leaves_of_gone soundAfter ?_⟩
    rw [← named] at found ⊢
    rw [step_poll_overdue found late, Requests.release_find?, if_pos rfl]
  · have foundAfter : (client.step (.poll polled)).requests.find? entry.request = some request := by
      refine step_poll_waiting reachable.requests_sound found (by rw [waits]; rfl) fun own => ?_
      simpa [own] using overdue
    refine ⟨fun gone => absurd (entry_of_found soundAfter foundAfter sameKey sameKind waits) gone, ?_⟩
    rintro ⟨own, other, foundOther, late⟩
    rw [found] at foundOther
    cases foundOther
    exact absurd ⟨own, late⟩ overdue

/-- The report of a loss takes the entries away that were sent on the lost socket. -/
theorem Reachable.report_leaves_iff (reachable : Reachable config client) {entry : Entry}
    (member : entry ∈ client.requests.inFlight) (generation : Nat) :
    entry ∉ (client.step (.report generation)).requests.inFlight ↔
      client.Settles entry.request (.report generation) := by
  by_cases loses : client.AboutToLose generation
  · rw [(step_report loses).1, Requests.disconnect_inFlight, List.mem_filter]
    obtain ⟨request, sentAt, found, _, _, waits⟩ :=
      (reachable.requests_sound.entry_iff entry).mp member
    have sent := reachable.sendings.waiting found waits
    constructor
    · intro gone
      have own : entry.generation = generation := by simpa [member] using gone
      exact ⟨loses, own ▸ sent⟩
    · rintro ⟨_, sentToo⟩ ⟨_, different⟩
      simp [reachable.sendings.unique sent sentToo] at different
  · exact leaves_iff_of_same member (step_report_same loses) fun settles => loses settles.1

/-- An entry leaves in a step exactly when the step settles its request. -/
theorem Reachable.leaves_iff_settles (reachable : Reachable config client) (action : Action)
    {entry : Entry} (member : entry ∈ client.requests.inFlight) :
    entry ∉ (client.step action).requests.inFlight ↔ client.Settles entry.request action := by
  have sound := reachable.sound
  have soundAfter := (sound.step action).requests
  obtain ⟨request, sentAt, found, sameKey, sameKind, waits⟩ :=
    (sound.requests.entry_iff entry).mp member
  have waiting : request.standing.isWaiting = true := by rw [waits]; rfl
  have stays : (client.step action).requests.find? entry.request = some request →
      entry ∈ (client.step action).requests.inFlight :=
    fun foundAfter => entry_of_found soundAfter foundAfter sameKey sameKind waits
  cases action with
  | start operation limit =>
    refine ⟨fun gone => absurd ?_ gone, False.elim⟩
    exact stays (step_start_waiting sound.requests found waiting operation limit)
  | cancel call =>
    constructor
    · intro gone
      by_contra spared
      exact gone (stays (step_cancel_waiting sound found waiting spared))
    · exact fun givesUp => leaves_of_gone soundAfter (gone_of_givesUp sound givesUp)
  | release =>
    have givesUp : client.GivesUp entry.request .release := trivial
    exact ⟨fun _ => givesUp, fun _ => leaves_of_gone soundAfter (gone_of_givesUp sound givesUp)⟩
  | receive generation message => exact reachable.receive_leaves_iff member generation message
  | poll polled => exact reachable.poll_leaves_iff member polled
  | report generation => exact reachable.report_leaves_iff member generation
  | _ => exact leaves_iff_of_same member (step_apart rfl) id

/-! ## How entries come into flight -/

/-- An entry was in flight before a move, or its request has just been sent. -/
theorem Move.entered (moves : Move action client after) (sound : client.Sound)
    (outcomes : client.Outcomes) {entry : Entry} (member : entry ∈ after.requests.inFlight) :
    entry ∈ client.requests.inFlight ∨
      .sent entry.request entry.generation ∈ after.trace ∧
        .sent entry.request entry.generation ∉ client.trace := by
  obtain ⟨request, sentAt, found, sameKey, sameKind, waits⟩ :=
    ((moves.sound sound.requests).entry_iff entry).mp member
  rcases moves.foundAfter sound found with ⟨before, foundBefore, follows⟩ | ⟨_, _, early, _⟩
  · cases follows with
    | same => exact .inl (entry_of_found sound.requests foundBefore sameKey sameKind waits)
    | granted => cases waits
    | sent _ turn _ told =>
      cases waits
      refine .inr ⟨?_, outcomes.unsent foundBefore (.inl turn)⟩
      rw [told, Requests.number_of_find? foundBefore]
      exact List.mem_cons_self
    | answered => cases waits
    | lost => cases waits
  · rcases early with turn | turn <;> simp [turn] at waits

/-- A request is sent in a step. -/
def Sends (client : Client) (number : Nat) (action : Action) : Prop :=
  ∃ generation, .sent number generation ∈ (client.step action).trace ∧
    .sent number generation ∉ client.trace

/-- An entry was in flight before a step, or its request is sent in the step. -/
theorem Reachable.entered (reachable : Reachable config client) {entry : Entry}
    (member : entry ∈ (client.step action).requests.inFlight) :
    entry ∈ client.requests.inFlight ∨ client.Sends entry.request action := by
  have kept := (@Reachable.step_keeps _ _ action (fun middle => client.trace ⊆ middle.trace ∧
    ∀ entry ∈ middle.requests.inFlight, entry ∈ client.requests.inFlight ∨
      .sent entry.request entry.generation ∈ middle.trace ∧
        .sent entry.request entry.generation ∉ client.trace) reachable ?_
    ⟨fun _ told => told, fun _ old => .inl old⟩).2 entry member
  · exact kept.imp_right fun sent => ⟨_, sent⟩
  · rintro middle next sound outcomes _ moves ⟨grown, known⟩
    refine ⟨fun _ told => moves.remembers sound (grown told), fun entry member => ?_⟩
    rcases moves.entered sound outcomes member with old | ⟨sent, unsent⟩
    · exact (known entry old).imp_right (And.imp_left (moves.remembers sound))
    · exact .inr ⟨sent, fun told => unsent (grown told)⟩

/-- Nothing was told of requests that were sent, except of those that are in flight. -/
def Enters (client after : Client) : Prop :=
  ∀ number generation, .sent number generation ∈ after.trace →
    .sent number generation ∈ client.trace ∨
      ∃ entry ∈ after.requests.inFlight, entry.request = number

theorem enters_of_unsent (same : ∀ number generation, .sent number generation ∈ after.trace →
    .sent number generation ∈ client.trace) : client.Enters after :=
  fun number generation told => .inl (same number generation told)

theorem failRequest_enters (requests : Requests) (ended : Nat) (failure : Failure) :
    client.Enters ({ client with requests }.failRequest ended failure) := by
  refine enters_of_unsent fun number generation told => ?_
  dsimp only [failRequest] at told
  split at told
  · simpa [note] using told
  · simpa [note, finish] using told

/-- A request that is sent is in flight. -/
theorem sendRequest_enters (sound : client.requests.Sound) {request : Request}
    (found : client.requests.find? request.number = some request)
    (turn : request.standing = .granted) : client.Enters (client.sendRequest request) := by
  unfold sendRequest
  split
  · next link opened accepted =>
    intro number generation told
    rw [note_requests, note_requests, sound.enter_inFlight _ _ found turn]
    rcases List.mem_cons.mp told with own | before
    · cases own
      exact .inr ⟨_, List.mem_append_right _ (List.mem_singleton.mpr rfl), rfl⟩
    · exact .inl (by simpa [note] using before)
  · exact failRequest_enters _ _ _

/-- What a transfer asks for is in flight if it is sent. -/
theorem ask_enters (sound : client.requests.Sound) {call : Call} {want : Want}
    (wanted : call.transfer.wants client.config.chunkSize = .ok want) :
    client.Enters (client.ask call want) := by
  have issued : client.Enters (client.issue call want).1 :=
    enters_of_unsent fun _ _ told => by simpa [issue, keep, note] using told
  have soundIssued : (client.issue call want).1.requests.Sound :=
    sound.issue want call.limit (Transfer.awaits_of_wants wanted)
  dsimp only [ask]
  split
  · next turn =>
    intro number generation told
    refine (sendRequest_enters soundIssued (find?_of_issue sound call want) turn number generation
      told).imp_left fun before => ?_
    simpa [issue, keep, note] using before
  · exact issued

/-- What is sent as a transfer goes on or ends is in flight. -/
theorem proceed_enters (sound : client.requests.Sound) (call : Call) (turn : Transfer.Turn) :
    client.Enters (client.proceed call turn) := by
  unfold proceed
  split
  · exact enters_of_unsent fun _ _ told => by simpa [finish, note] using told
  · split
    · next wanted => exact ask_enters sound wanted
    · exact enters_of_unsent fun _ _ told => by simpa [finish, note] using told

/-- What is sent as a call starts is in flight. -/
theorem start_enters (sound : client.requests.Sound) (operation : Operation)
    (limit : Option Duration) : client.Enters (client.start operation limit) := by
  dsimp only [start]
  split
  · exact enters_of_unsent fun _ _ told => by simpa [note] using told
  · intro number generation told
    refine (@proceed_enters (Client.note { client with called := client.called + 1 }
      (.started client.called operation)) sound _ _ number generation told).imp_left fun before => ?_
    simpa [note] using before

/-- What is sent as a call hears a reply is in flight. -/
theorem answerRequest_enters (sound : client.requests.Sound) (answered : Nat) (reply : Reply) :
    client.Enters (client.answerRequest answered reply) := by
  dsimp only [answerRequest]
  split
  · exact enters_of_unsent fun _ _ told => by simpa [note] using told
  · intro number generation told
    refine (@proceed_enters (client.note (.answered answered (.ok reply))) sound _ _ number
      generation told).imp_left fun before => ?_
    simpa [note] using before

/-- What is sent as a request runs is in flight. -/
theorem poll_enters (sound : client.requests.Sound) (polled : Nat) :
    client.Enters (client.poll polled) := by
  have rested : client.Enters { client with requests := client.requests.rest polled } :=
    enters_of_unsent fun _ _ told => told
  dsimp only [poll]
  cases found : client.requests.find? polled with
  | none => exact rested
  | some request =>
    obtain rfl := Requests.number_of_find? found
    dsimp only
    split
    · exact rested
    · next turn => exact sendRequest_enters sound found turn
    · split
      · split
        · exact failRequest_enters _ _ _
        · exact rested
      · exact rested
    · next came => exact answerRequest_enters (sound.release found (by simp [came])) _ _
    · exact failRequest_enters _ _ _

/-- Where no request runs, none is sent. -/
theorem Sends.runs (sound : client.Sound) {number : Nat} (sends : client.Sends number action) :
    action.runsRequests = true := by
  obtain ⟨generation, told, untold⟩ := sends
  by_contra aside
  refine untold ((@step_induct client action (fun middle => middle.Sound ∧
    (.sent number generation ∈ middle.trace → .sent number generation ∈ client.trace))
    sound.requests ?_ ⟨sound, id⟩).2.2 told)
  rintro middle next _ moves ⟨soundMiddle, known⟩
  refine ⟨moves.keepsSound soundMiddle, fun member => ?_⟩
  rcases moves.explains soundMiddle member with old | ⟨runs, _⟩
  · exact known old
  · exact absurd runs aside

/-- Whatever is sent in a step is in flight after it. -/
theorem Sends.inFlight (sound : client.Sound) {number : Nat} (sends : client.Sends number action) :
    ∃ entry ∈ (client.step action).requests.inFlight, entry.request = number := by
  have runs := sends.runs sound
  have enters : client.Enters (client.step action) := by
    unfold step
    split
    · exact enters_of_unsent fun _ _ told => told
    · cases action with
      | start operation limit => exact start_enters sound.requests operation limit
      | poll polled => exact poll_enters sound.requests polled
      | _ => cases runs
  obtain ⟨generation, told, untold⟩ := sends
  exact (enters number generation told).resolve_left untold

/-- A request that is entered finds no entry under its key, and takes none away. -/
theorem Reachable.enters_alone (reachable : Reachable config client) {entry : Entry}
    (member : entry ∈ (client.step action).requests.inFlight)
    (new : entry ∉ client.requests.inFlight) :
    client.requests.entryFor? entry.key = none ∧
      client.requests.inFlight ⊆ (client.step action).requests.inFlight := by
  have stay : client.requests.inFlight ⊆ (client.step action).requests.inFlight := by
    intro other memberOther
    by_contra leaves
    have settles := (reachable.leaves_iff_settles action memberOther).mp leaves
    have runs := ((reachable.entered member).resolve_left new).runs reachable.sound
    cases action with
    | start => exact settles
    | poll polled =>
      -- A request that is overdue ends, and nothing is entered.
      obtain ⟨rfl, request, found, overdue⟩ := settles
      have named := Requests.number_of_find? found
      rw [← named] at found member
      rw [step_poll_overdue found overdue, Requests.release_inFlight] at member
      exact new (List.mem_filter.mp member).1
    | _ => cases runs
  refine ⟨Requests.entryFor?_eq_none_iff.mpr fun other memberOther sameKey => ?_, stay⟩
  have own := (reachable.step action).entriesDistinct.own (stay memberOther) member sameKey
  exact new (own ▸ memberOther)

/-! ## What is in flight -/

/-- At no point of a run is a request settled. -/
def Unsettled (client : Client) (number : Nat) (actions : List Action) : Prop :=
  ∀ first action later, actions = first ++ action :: later →
    ¬ (client.run first).Settles number action

/-- A request was sent in a run, and nothing has settled it since. -/
def Outstanding (client : Client) (actions : List Action) (number : Nat) : Prop :=
  ∃ first action later, actions = first ++ action :: later ∧
    (client.run first).Sends number action ∧ ((client.run first).step action).Unsettled number later

/-- A request stays unsettled with another action that does not settle it. -/
theorem Unsettled.concat {number : Nat} {actions : List Action}
    (unsettled : client.Unsettled number actions)
    (last : ¬ (client.run actions).Settles number action) :
    client.Unsettled number (actions ++ [action]) := by
  intro first next later same
  rcases List.eq_nil_or_concat later with rfl | ⟨rest, final, rfl⟩
  · obtain ⟨rfl, own⟩ := List.append_inj' same rfl
    cases own
    exact last
  · rw [List.concat_eq_append, ← List.cons_append, ← List.append_assoc] at same
    exact unsettled first next rest (List.append_inj' same rfl).1

/-- An entry stays in flight in a run that does not settle its request. -/
theorem Reachable.stays (reachable : Reachable config client) {entry : Entry}
    (member : entry ∈ client.requests.inFlight) {actions : List Action}
    (unsettled : client.Unsettled entry.request actions) :
    entry ∈ (client.run actions).requests.inFlight := by
  induction actions generalizing client with
  | nil => exact member
  | cons action later inductionHypothesis =>
    refine inductionHypothesis (reachable.step action) ?_ ?_
    · by_contra leaves
      exact unsettled [] action later rfl ((reachable.leaves_iff_settles action member).mp leaves)
    · rintro first next rest rfl
      exact unsettled (action :: first) next rest rfl

/-- What is in flight after a run is what was sent in it and not settled since. -/
theorem Reachable.outstanding_iff (reachable : Reachable config client)
    (nothing : client.requests.inFlight = []) (actions : List Action) (number : Nat) :
    client.Outstanding actions number ↔
      ∃ entry ∈ (client.run actions).requests.inFlight, entry.request = number := by
  constructor
  · rintro ⟨first, action, later, rfl, sends, unsettled⟩
    have before := reachable.run first
    obtain ⟨entry, member, rfl⟩ := sends.inFlight before.sound
    rw [run_append]
    exact ⟨entry, (before.step action).stays member unsettled, rfl⟩
  · rintro ⟨entry, member, rfl⟩
    induction actions using List.reverseRecOn with
    | nil =>
      change entry ∈ client.requests.inFlight at member
      rw [nothing] at member
      cases member
    | append_singleton earlier action inductionHypothesis =>
      have before := reachable.run earlier
      rw [run_append] at member
      rcases before.entered member with old | sends
      · obtain ⟨first, sending, later, rfl, sends, unsettled⟩ := inductionHypothesis old
        refine ⟨first, sending, later ++ [action], by simp, sends, unsettled.concat ?_⟩
        rw [run_append] at before old member
        exact fun settles => (before.leaves_iff_settles action old).mpr settles member
      · exact ⟨earlier, action, [], rfl, sends, by simp [Unsettled]⟩

/-- Each entry counts another request. -/
theorem Reachable.pending_eq (reachable : Reachable config client) :
    client.requests.pending =
      {number | ∃ entry ∈ client.requests.inFlight, entry.request = number}.ncard := by
  have distinct : (client.requests.inFlight.map (·.request)).Nodup := by
    refine List.pairwise_map.mpr (reachable.entriesDistinct.imp_of_mem ?_)
    intro entry other member memberOther different same
    obtain ⟨request, _, found, key, _⟩ := (reachable.requests_sound.entry_iff entry).mp member
    obtain ⟨_, _, foundOther, keyOther, _⟩ :=
      (reachable.requests_sound.entry_iff other).mp memberOther
    rw [← same, found] at foundOther
    cases foundOther
    exact different (key.symm.trans keyOther)
  have numbers : {number | ∃ entry ∈ client.requests.inFlight, entry.request = number} =
      ((client.requests.inFlight.map (·.request)).toFinset : Set Nat) := by
    ext number
    simp
  rw [numbers, Set.ncard_coe_finset, List.toFinset_card_of_nodup distinct, List.length_map]
  rfl

/-! ## Requests that end -/

/-- A request that is not given up is there after a step in which no request runs. -/
theorem step_spared (sound : client.Sound) {number : Nat} {before : Request}
    (found : client.requests.find? number = some before) (aside : action.runsRequests = false)
    (spared : ¬ client.GivesUp number action) :
    ∃ request, (client.step action).requests.find? number = some request ∧
      before.Alike request := by
  refine (@step_induct client action (fun client => client.Sound ∧
    ¬ client.GivesUp number action ∧ ∃ request, client.requests.find? number = some request ∧
      before.Alike request)
    sound.requests ?_ ⟨sound, spared, before, found, .refl before⟩).2.2.2
  rintro middle next _ moves ⟨soundMiddle, sparedMiddle, last, foundMiddle, alike⟩
  refine ⟨moves.keepsSound soundMiddle, moves.spares sparedMiddle, ?_⟩
  rcases moves.foundBefore soundMiddle foundMiddle with ⟨request, foundNext, follows⟩ |
    ⟨_, runs, _⟩ | ⟨givesUp, _⟩
  · exact ⟨request, foundNext, alike.trans (follows.alike aside)⟩
  · exact absurd (runs.symm.trans aside) (by simp)
  · exact absurd givesUp sparedMiddle

/-- A request that is there after a step in which none runs was there before. -/
theorem step_stood (sound : client.Sound) {number : Nat} {request : Request}
    (found : (client.step action).requests.find? number = some request)
    (aside : action.runsRequests = false) :
    ∃ before, client.requests.find? number = some before := by
  by_contra absent
  have gone : client.requests.find? number = none :=
    Option.eq_none_iff_forall_ne_some.mpr fun before stood => absent ⟨before, stood⟩
  have stays := (@step_induct client action (fun client => client.Sound ∧
    client.requests.find? number = none) sound.requests ?_ ⟨sound, gone⟩).2.2
  · rw [found] at stays
    cases stays
  · rintro middle next _ moves ⟨soundMiddle, goneMiddle⟩
    refine ⟨moves.keepsSound soundMiddle, Option.eq_none_iff_forall_ne_some.mpr ?_⟩
    intro request foundNext
    rcases moves.foundAfter soundMiddle foundNext with ⟨before, foundBefore, _⟩ | ⟨runs, _⟩
    · rw [goneMiddle] at foundBefore
      cases foundBefore
    · exact absurd (runs.symm.trans aside) (by simp)

/-- A request that is gone after a step took no entry but its own with it, unless the owner has let
go of everything. -/
theorem Reachable.ends_alone (reachable : Reachable config client) {number : Nat}
    {request : Request} (found : client.requests.find? number = some request)
    (gone : (client.step action).requests.find? number = none) (keeps : action ≠ .release)
    {entry : Entry} (member : entry ∈ client.requests.inFlight) (other : entry.request ≠ number) :
    entry ∈ (client.step action).requests.inFlight := by
  have sound := reachable.sound
  by_contra leaves
  have settles := (reachable.leaves_iff_settles action member).mp leaves
  have given : action.runsRequests = false → client.GivesUp number action := by
    intro aside
    by_contra spared
    obtain ⟨last, foundLast, _⟩ := step_spared sound found aside spared
    rw [gone] at foundLast
    cases foundLast
  cases action with
  | receive generation message => exact given rfl
  | report generation => exact given rfl
  | poll polled =>
    obtain ⟨rfl, own, foundOwn, overdue⟩ := settles
    have named := Requests.number_of_find? foundOwn
    rw [← named] at foundOwn gone other
    rw [step_poll_overdue foundOwn overdue, Requests.release_find?, if_neg other.symm, found] at gone
    split at gone <;> cases gone
  | cancel call =>
    obtain ⟨waiting, memberWaiting, rfl, rfl⟩ := given rfl
    obtain ⟨waitingToo, memberToo, sameCall, own⟩ := settles
    have same := List.inj_on_of_nodup_map sound.calls memberToo memberWaiting sameCall
    exact other (by rw [← own, same])
  | release => exact keeps rfl
  | _ => exact settles

/-- In every run, one request under a key has its turn; an entry in flight is that of the request
that holds the lane of its key, which was sent on the socket of the entry; the request whose turn it
is finds no entry under its key; an entry that comes into flight displaces none; a request that ends
takes no entry but its own with it; an entry stays until its own request is settled; and those in
flight are as many as the requests that were sent and not settled since. -/
theorem entries_owned (config : Config) (actions : List Action) :
    let client := (Client.initial config).run actions
    (∀ number other request turned, client.requests.find? number = some request →
      client.requests.find? other = some turned → turned.key = request.key →
      request.standing ≠ .queued → turned.standing ≠ .queued → other = number) ∧
    (∀ entry ∈ client.requests.inFlight,
      client.requests.holder? entry.key = some entry.request ∧
        .issued entry.request entry.key ∈ client.trace ∧
        .sent entry.request entry.generation ∈ client.trace) ∧
    (∀ number request, client.requests.find? number = some request →
      request.standing = .granted → client.requests.entryFor? request.key = none) ∧
    (∀ action, ∀ entry ∈ (client.step action).requests.inFlight,
      entry ∉ client.requests.inFlight → client.Sends entry.request action ∧
        client.requests.entryFor? entry.key = none ∧
        client.requests.inFlight ⊆ (client.step action).requests.inFlight) ∧
    (∀ action number request, action ≠ .release → client.requests.find? number = some request →
      (client.step action).requests.find? number = none →
        ∀ entry ∈ client.requests.inFlight, entry.request ≠ number →
          entry ∈ (client.step action).requests.inFlight) ∧
    (∀ action, ∀ entry ∈ client.requests.inFlight,
      entry ∉ (client.step action).requests.inFlight ↔ client.Settles entry.request action) ∧
    client.requests.pending =
      {number | (Client.initial config).Outstanding actions number}.ncard := by
  intro client
  have reachable : Reachable config client := Reachable.initial.run actions
  have sound := reachable.requests_sound
  refine ⟨?_, ?_, ?_, ?_, ?_, ?_, ?_⟩
  · intro number other request turned found foundOther sameKey turn turnOther
    exact (sound.turn_unique found turn foundOther turnOther sameKey).1
  · intro entry member
    obtain ⟨request, sentAt, found, sameKey, _, waits⟩ := (sound.entry_iff entry).mp member
    refine ⟨(sound.holder_iff _ _).mpr ⟨request, found, sameKey, by simp [waits]⟩, ?_,
      reachable.sendings.waiting found waits⟩
    exact sameKey ▸ reachable.outcomes.issued found
  · intro number request found turn
    exact sound.entryFor?_eq_none found turn
  · intro action entry member new
    exact ⟨(reachable.entered member).resolve_left new, reachable.enters_alone member new⟩
  · intro action number request keeps found gone entry member other
    exact reachable.ends_alone found gone keeps member other
  · intro action entry member
    exact reachable.leaves_iff_settles action member
  · rw [reachable.pending_eq]
    congr 1
    ext number
    exact ((Reachable.initial.outstanding_iff rfl actions number).symm)

/-- Of two questions for files one has timed out, so that one is outstanding. -/
theorem entries_owned_of_queries :
    let actions : List Action := [.connect, .settle 1 .accepted, .resolve 1,
      .start (.query "a") (some (.ofSeconds 1)), .start (.query "b") none, .wait (.ofSeconds 1),
      .poll 0]
    let client := (Client.initial .loopback).run actions
    client.requests.inFlight = [⟨.info "b", 1, 1, .info⟩] ∧
      client.requests.holder? (.info "b") = some 1 ∧ .sent 1 1 ∈ client.trace ∧
      {number | (Client.initial .loopback).Outstanding actions number}.ncard = 1 := by
  intro actions client
  have inFlight : client.requests.inFlight = [⟨.info "b", 1, 1, .info⟩] := by decide
  obtain ⟨_, owned, _, _, _, _, counted⟩ := entries_owned .loopback actions
  have own := owned ⟨.info "b", 1, 1, .info⟩ (inFlight ▸ List.mem_singleton.mpr rfl)
  refine ⟨inFlight, own.1, own.2.2, counted.symm.trans ?_⟩
  change client.requests.inFlight.length = 1
  rw [inFlight]
  rfl

end Client

end RemoteAgent
