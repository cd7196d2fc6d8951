import RemoteAgent.Proofs.Client.Silent
import RemoteAgent.Proofs.Client.Attribution
import RemoteAgent.Proofs.Transfer.Downloads

/-!
# Where calls have come

A call for files waits for one request of its own, the one that its transfer wants, and its transfer
is where the replies to its requests have brought it; and a call that has ended came to an end in this
way, or a request failed (`Calls`). Other steps than those in which a request runs let calls be, up
to those that are given up (`step_quiet`).
-/

namespace RemoteAgent

/-- The event tells of a call for files. -/
def Event.isOfCall : Event → Bool
  | .started _ _ | .finished _ _ _ => true
  | _ => false

namespace Client

variable {config : Config} {client after : Client} {action : Action}

/-! ## Steps that let calls be -/

/-- Calls are let be: none is new, and nothing is told of them. -/
structure Quiet (client after : Client) : Prop where
  config : after.config = client.config
  calls : after.calls.Sublist client.calls
  called : client.called ≤ after.called
  told : ∀ event ∈ after.trace, event.isOfCall = true → event ∈ client.trace

/-- Where nothing is told of calls, they are let be. -/
theorem Silent.quiet (silent : client.Silent after) : client.Quiet after where
  config := silent.config
  calls := silent.calls ▸ List.Sublist.refl _
  called := silent.called
  told := by
    intro event member ofCall
    obtain ⟨events, aside, grown⟩ := silent.trace
    rw [grown] at member
    rcases List.mem_append.mp member with new | old
    · have ofTransfer := aside event new
      cases event <;> simp [Event.isOfCall, Event.isOfTransfer] at ofCall ofTransfer
    · exact old

namespace Quiet

theorem refl (client : Client) : client.Quiet client :=
  ⟨rfl, List.Sublist.refl _, Nat.le_refl _, fun _ member _ => member⟩

theorem trans {first middle last : Client} (before : first.Quiet middle)
    (afterwards : middle.Quiet last) : first.Quiet last where
  config := afterwards.config.trans before.config
  calls := afterwards.calls.trans before.calls
  called := Nat.le_trans before.called afterwards.called
  told event member ofCall := before.told event (afterwards.told event member ofCall) ofCall

theorem within (client : Client) (link : Link) (requests : Requests) :
    client.Quiet { client with link, requests } :=
  { refl client with }

theorem note (client : Client) {event : Event} (aside : event.isOfCall = false) :
    client.Quiet (client.note event) :=
  { refl client with
    told := by
      intro other member ofCall
      rcases List.mem_cons.mp member with rfl | old
      · rw [aside] at ofCall
        cases ofCall
      · exact old }

/-- Giving up a request lets calls be. -/
theorem abandon (client : Client) (number : Nat) : client.Quiet (client.abandon number) := by
  unfold Client.abandon
  split
  · exact refl client
  · dsimp only
    split <;> exact { refl client with calls := List.filter_sublist }

/-- Cancelling a call tells of no call, and lets the others be. -/
theorem cancel (client : Client) (number : Nat) : client.Quiet (client.cancel number) :=
  (abandon client number).trans ((Silent.within _ _ _).trans (Silent.sweep _)).quiet

/-- Letting go of the client tells of no call. -/
theorem release (client : Client) : client.Quiet client.release := by
  have idle : client.Quiet { client with
      link := { client.link.close with attempts := [] }
      requests := { issued := client.requests.issued }
      calls := []
      isHeld := false } := { refl client with calls := List.nil_sublist _ }
  refine idle.trans (Silent.noteAll _ ?_).quiet
  intro event member
  obtain ⟨attempt, _, rfl⟩ := List.mem_map.mp member
  rfl

end Quiet

/-- A step in which no request runs lets calls be. -/
theorem step_quiet (client : Client) (aside : action.runsRequests = false) :
    client.Quiet (client.step action) := by
  cases action with
  | cancel call =>
    unfold step
    split
    · exact .refl client
    · exact .cancel client call
  | release =>
    unfold step
    split
    · exact .refl client
    · exact .release client
  | start => cases aside
  | poll => cases aside
  | _ => exact (client.step_silent rfl).quiet

/-! ## Calls and their requests -/

variable {heard : RequestKey → Reply → Prop}

/-- The replies that requests have, but have not learnt yet, were heard. -/
def Hears (client : Client) (heard : RequestKey → Reply → Prop) : Prop :=
  ∀ number request reply, client.requests.find? number = some request →
    request.standing = .answered reply → heard request.key reply

/-- A call has come to a turn with replies that were heard. -/
def Reached (client : Client) (heard : RequestKey → Reply → Prop) (number : Nat)
    (progress : List Progress) (turn : Transfer.Turn) : Prop :=
  ∃ operation exchanged, .started number operation ∈ client.trace ∧
    Transfer.Reaches client.config.chunkSize operation exchanged progress turn ∧
    ∀ pair ∈ exchanged, heard pair.1.key pair.2

/-- A call waits for the request that its transfer wants. -/
def Attends (client : Client) (heard : RequestKey → Reply → Prop) (call : Call) : Prop :=
  client.Reached heard call.number call.progress (.go call.transfer) ∧
    ∃ want request, call.transfer.wants client.config.chunkSize = .ok want ∧
      client.requests.find? call.request = some request ∧ request.key = want.key

/-- What is known of calls when the replies that came in were heard. -/
structure Calls (client : Client) (heard : RequestKey → Reply → Prop) : Prop where
  attends : ∀ call ∈ client.calls, client.Attends heard call
  /-- No two calls wait for one request. -/
  distinct : (client.calls.map (·.request)).Nodup
  started_lt : ∀ {number operation}, .started number operation ∈ client.trace →
    number < client.called
  /-- A call is for one operation. -/
  started_unique : ∀ {number operation other}, .started number operation ∈ client.trace →
    .started number other ∈ client.trace → operation = other
  /-- A call ends as its transfer does, or fails. -/
  finished : ∀ {number progress outcome}, .finished number progress outcome ∈ client.trace →
    ∃ turn, client.Reached heard number progress turn ∧
      (turn = .stop outcome ∨ ∃ failure, outcome = .error failure)

/-- Where a transfer has come depends on the trace only by what it contains. -/
theorem Reached.mono {number : Nat} {progress : List Progress} {turn : Transfer.Turn}
    (reached : client.Reached heard number progress turn) (config : after.config = client.config)
    (grown : client.trace ⊆ after.trace) : after.Reached heard number progress turn := by
  obtain ⟨operation, exchanged, started, reaches, all⟩ := reached
  exact ⟨operation, exchanged, grown started, config ▸ reaches, all⟩

/-- A call attends to its request as long as that is there under its key. -/
theorem Attends.mono {call : Call} (attends : client.Attends heard call)
    (config : after.config = client.config) (grown : client.trace ⊆ after.trace)
    (kept : ∀ request, client.requests.find? call.request = some request →
      ∃ later, after.requests.find? call.request = some later ∧ later.key = request.key) :
    after.Attends heard call := by
  obtain ⟨reached, want, request, wanted, found, sameKey⟩ := attends
  obtain ⟨later, foundLater, laterKey⟩ := kept request found
  exact ⟨reached.mono config grown, want, later, config ▸ wanted, foundLater,
    laterKey.trans sameKey⟩

/-- What lets calls be and keeps their requests keeps what is known of them. -/
theorem Calls.keep (calls : client.Calls heard) (quiet : client.Quiet after)
    (grown : client.trace ⊆ after.trace)
    (kept : ∀ call ∈ after.calls, ∀ request, client.requests.find? call.request = some request →
      ∃ later, after.requests.find? call.request = some later ∧ later.key = request.key) :
    after.Calls heard where
  attends call member :=
    (calls.attends call (quiet.calls.subset member)).mono quiet.config grown (kept call member)
  distinct := (quiet.calls.map _).nodup calls.distinct
  started_lt started :=
    Nat.lt_of_lt_of_le (calls.started_lt (quiet.told _ started rfl)) quiet.called
  started_unique started other :=
    calls.started_unique (quiet.told _ started rfl) (quiet.told _ other rfl)
  finished ended := by
    obtain ⟨turn, reached, ends⟩ := calls.finished (quiet.told _ ended rfl)
    exact ⟨turn, reached.mono quiet.config grown, ends⟩

/-- A client whose calls are all but one. -/
def without (client : Client) (number : Nat) : Client :=
  { client with calls := client.calls.filter (·.number != number) }

theorem Quiet.without (client : Client) (number : Nat) : client.Quiet (client.without number) :=
  { refl client with calls := List.filter_sublist }

/-- It is told of a call that it has come to its end, or that it fails. -/
theorem Calls.told (calls : client.Calls heard) {number : Nat} {progress : List Progress}
    {turn : Transfer.Turn} {outcome : Except Failure Delivery}
    (reached : client.Reached heard number progress turn)
    (ends : turn = .stop outcome ∨ ∃ failure, outcome = .error failure) :
    (client.note (.finished number progress outcome)).Calls heard := by
  have grown : client.trace ⊆ (client.note (.finished number progress outcome)).trace :=
    List.subset_cons_self _ _
  have started : ∀ {other operation}, .started other operation ∈
      (client.note (.finished number progress outcome)).trace →
      .started other operation ∈ client.trace := fun member => by simpa [note] using member
  refine ⟨?_, calls.distinct, fun member => calls.started_lt (started member),
    fun member other => calls.started_unique (started member) (started other), ?_⟩
  · exact fun call member => (calls.attends call member).mono rfl grown
      fun request found => ⟨request, found, rfl⟩
  · intro other reported result member
    rcases List.mem_cons.mp member with own | old
    · cases own
      exact ⟨turn, reached.mono rfl grown, ends⟩
    · obtain ⟨turn, reachedOther, endsOther⟩ := calls.finished old
      exact ⟨turn, reachedOther.mono rfl grown, endsOther⟩

/-- A call that has come to its end, or fails, is gone. -/
theorem Calls.finish {call : Call} (calls : (client.without call.number).Calls heard)
    {turn : Transfer.Turn} {outcome : Except Failure Delivery}
    (reached : client.Reached heard call.number call.progress turn)
    (ends : turn = .stop outcome ∨ ∃ failure, outcome = .error failure) :
    (client.finish call outcome).Calls heard :=
  calls.told reached ends

/-- Calls but one wait for other requests than that one. -/
theorem Calls.apart (calls : client.Calls heard) {call other : Call} (member : call ∈ client.calls)
    (memberOther : other ∈ client.calls.filter (·.number != call.number)) :
    other.request ≠ call.request := by
  intro same
  obtain ⟨stays, different⟩ := List.mem_filter.mp memberOther
  rw [List.inj_on_of_nodup_map calls.distinct stays member same] at different
  simp at different

/-- A client in which a request has come to its end. -/
def ended (client : Client) (request : Request) (outcome : Except Failure Reply) : Client :=
  { client with requests := client.requests.release request }.note
    (.answered request.number outcome)

/-- The end of a request changes nothing about where its transfer has come. -/
theorem Reached.ended {number : Nat} {progress : List Progress} {turn : Transfer.Turn}
    (reached : client.Reached heard number progress turn) (request : Request)
    (outcome : Except Failure Reply) :
    (client.ended request outcome).Reached heard number progress turn :=
  reached.mono rfl (List.subset_cons_self _ _)

/-- The end of a request lets those calls be that wait for others. -/
theorem Calls.endRequest (calls : client.Calls heard) {request : Request}
    (outcome : Except Failure Reply) (quiet : (client.ended request outcome).Quiet after)
    (requests : after.requests = client.requests.release request)
    (grown : client.trace ⊆ after.trace)
    (apart : ∀ call ∈ after.calls, call.request ≠ request.number) : after.Calls heard := by
  refine calls.keep (((Quiet.within client _ _).trans (Quiet.note _ rfl)).trans quiet) grown ?_
  intro call member before found
  rw [requests, Requests.release_find?, if_neg (apart call member), found]
  split
  · exact ⟨_, rfl, rfl⟩
  · exact ⟨_, rfl, rfl⟩

/-- Nothing happens to calls at the end of a request that none of them waits for. -/
theorem Calls.ended (calls : client.Calls heard) {request : Request}
    (outcome : Except Failure Reply)
    (alone : client.calls.find? (·.request == request.number) = none) :
    (client.ended request outcome).Calls heard :=
  calls.endRequest outcome (Quiet.refl _) rfl (List.subset_cons_self _ _) fun call member => by
    simpa using List.find?_eq_none.mp alone call member

/-- At the end of a request, nothing happens to calls but the one that waits for it. -/
theorem Calls.endedBut (calls : client.Calls heard) {request : Request} {call : Call}
    (outcome : Except Failure Reply) (member : call ∈ client.calls)
    (own : call.request = request.number) :
    ((client.ended request outcome).without call.number).Calls heard :=
  calls.endRequest outcome (Quiet.without _ _) rfl (List.subset_cons_self _ _)
    fun _ memberOther => own ▸ calls.apart member memberOther

/-- When a request that is at an end fails, its call fails. -/
theorem Calls.failRequest (calls : client.Calls heard) {request : Request} (failure : Failure) :
    ({ client with requests := client.requests.release request }.failRequest request.number
      failure).Calls heard := by
  dsimp only [Client.failRequest]
  split
  · next alone => exact calls.ended _ alone
  · next call found =>
    have member := List.mem_of_find?_eq_some found
    have own : call.request = request.number := by simpa using List.find?_some found
    exact (calls.endedBut (.error failure) member own).finish
      ((calls.attends call member).1.ended _ _) (.inr ⟨failure, rfl⟩)

/-- A request that is sent, or fails for want of an open link, leaves the other calls be. -/
theorem Calls.sendRequest (calls : client.Calls heard) (sound : client.requests.Sound)
    {request : Request} (found : client.requests.find? request.number = some request)
    (turn : request.standing = .granted) : (client.sendRequest request).Calls heard := by
  unfold Client.sendRequest
  split
  · refine calls.keep ?_ ?_ ?_
    · exact ((Quiet.within client _ _).trans (Quiet.note _ rfl)).trans (Quiet.note _ rfl)
    · exact fun _ member => List.mem_cons_of_mem _ (List.mem_cons_of_mem _ member)
    · intro call _ before foundBefore
      rw [note_requests, note_requests, sound.enter_find? _ _ found turn]
      split
      · next own =>
        rw [own, found] at foundBefore
        cases foundBefore
        exact ⟨_, rfl, rfl⟩
      · exact ⟨before, foundBefore, rfl⟩
  · exact calls.failRequest _

/-- A call that goes on waits for the request that it makes. -/
theorem Calls.issue {call : Call} (calls : (client.without call.number).Calls heard)
    (sound : client.requests.Sound) {want : Want}
    (reached : client.Reached heard call.number call.progress (.go call.transfer))
    (wanted : call.transfer.wants client.config.chunkSize = .ok want) :
    (client.issue call want).1.Calls heard := by
  have grown : client.trace ⊆ (client.issue call want).1.trace := List.subset_cons_self _ _
  have number : (client.issue call want).2.number = client.requests.issued :=
    Requests.issue_number ..
  have issued : ∀ number request, client.requests.find? number = some request →
      (client.issue call want).1.requests.find? number = some request := by
    intro number request found
    have past := sound.number_lt found
    refine (sound.issue_find? want call.limit number).trans ?_
    rw [if_neg (Nat.ne_of_lt past)]
    exact found
  have own : (client.issue call want).1.Attends heard
      { call with request := (client.issue call want).2.number } := by
    refine ⟨reached.mono rfl grown, want, (client.issue call want).2, wanted,
      find?_of_issue sound call want, ?_⟩
    obtain ⟨standing, _, request⟩ := client.requests.issue_request want call.limit
    exact congrArg Request.key request
  have told : ∀ event ∈ (client.issue call want).1.trace, event.isOfCall = true →
      event ∈ client.trace := (Quiet.note client rfl).told
  have calling : (client.issue call want).1.calls = client.calls.filter (·.number != call.number) ++
      [{ call with request := (client.issue call want).2.number }] := rfl
  refine ⟨?_, ?_, fun started => calls.started_lt (told _ started rfl), fun started other =>
    calls.started_unique (told _ started rfl) (told _ other rfl), ?_⟩
  · intro other member
    rw [calling] at member
    rcases List.mem_append.mp member with old | new
    · exact (calls.attends other old).mono rfl grown fun request found =>
        ⟨request, issued _ _ found, rfl⟩
    · rw [List.mem_singleton.mp new]
      exact own
  · rw [calling, List.map_append, List.nodup_append]
    refine ⟨calls.distinct, List.nodup_singleton _, ?_⟩
    intro old member new isNew same
    obtain ⟨other, memberOther, rfl⟩ := List.mem_map.mp member
    obtain ⟨_, _, request, _, found, _⟩ := calls.attends other memberOther
    have past : other.request < client.requests.issued := sound.number_lt found
    rw [List.map_singleton, List.mem_singleton] at isNew
    rw [same, isNew, number] at past
    exact Nat.lt_irrefl _ past
  · intro number progress outcome ended
    obtain ⟨turn, reached, ends⟩ := calls.finished (told _ ended rfl)
    exact ⟨turn, reached.mono rfl grown, ends⟩

/-- A call that asks for the next part attends to the request for it. -/
theorem Calls.ask {call : Call} (calls : (client.without call.number).Calls heard)
    (sound : client.requests.Sound) {want : Want}
    (reached : client.Reached heard call.number call.progress (.go call.transfer))
    (wanted : call.transfer.wants client.config.chunkSize = .ok want) :
    (client.ask call want).Calls heard := by
  have issued := calls.issue sound reached wanted
  have soundIssued : (client.issue call want).1.requests.Sound :=
    sound.issue want call.limit (Transfer.awaits_of_wants wanted)
  dsimp only [Client.ask]
  split
  · next turn => exact issued.sendRequest soundIssued (find?_of_issue sound call want) turn
  · exact issued

/-- A call that has come to a turn goes on from there. -/
theorem Calls.proceed {call : Call} (calls : (client.without call.number).Calls heard)
    (sound : client.requests.Sound) {turn : Transfer.Turn}
    (reached : client.Reached heard call.number call.progress turn) :
    (client.proceed call turn).Calls heard := by
  unfold Client.proceed
  split
  · exact calls.finish reached (.inl rfl)
  · next transfer =>
    split
    · next wanted =>
      exact @Calls.ask _ _ { call with transfer } calls sound _ reached wanted
    · next failure _ => exact calls.finish reached (.inr ⟨failure, rfl⟩)

/-- When a request has its reply, its call goes on with it. -/
theorem Calls.answerRequest (calls : client.Calls heard) (sound : client.requests.Sound)
    {request : Request} {reply : Reply}
    (found : client.requests.find? request.number = some request)
    (came : request.standing = .answered reply) (hears : heard request.key reply)
    (fits : reply.kind = request.key.replyKind) :
    ({ client with requests := client.requests.release request }.answerRequest request.number
      reply).Calls heard := by
  dsimp only [Client.answerRequest]
  split
  · next alone => exact calls.ended _ alone
  · next call foundCall =>
    have member := List.mem_of_find?_eq_some foundCall
    have own : call.request = request.number := by simpa using List.find?_some foundCall
    obtain ⟨⟨operation, exchanged, started, reaches, all⟩, want, asked, wanted, foundAsked,
      sameKey⟩ := calls.attends call member
    rw [own, found] at foundAsked
    cases foundAsked
    have resumed : client.Reached heard call.number
        (call.progress ++ (call.transfer.resume client.config.chunkSize reply).1.toList)
        (call.transfer.resume client.config.chunkSize reply).2 := by
      refine ⟨operation, exchanged ++ [(want, reply)], started,
        reaches.resumes wanted (by rw [fits, sameKey, Transfer.awaits_of_wants wanted]), ?_⟩
      intro pair memberPair
      rcases List.mem_append.mp memberPair with old | new
      · exact all pair old
      · rw [List.mem_singleton.mp new]
        exact sameKey ▸ hears
    have others := calls.endedBut (.ok reply) member own
    exact @Calls.proceed (client.ended request (.ok reply)) heard
      { call with progress := call.progress ++ (call.transfer.resume _ reply).1.toList } others
      (sound.release found (by simp [came])) _ (resumed.ended _ _)

/-- A call that comes in goes on from its beginning. -/
theorem Calls.start (calls : client.Calls heard) (sound : client.requests.Sound)
    (operation : Operation) (limit : Option Duration) :
    (client.start operation limit).Calls heard := by
  let counted := Client.note { client with called := client.called + 1 }
    (.started client.called operation)
  have grown : client.trace ⊆ counted.trace := List.subset_cons_self _ _
  have started : ∀ {number other}, .started number other ∈ counted.trace →
      number = client.called ∧ other = operation ∨ .started number other ∈ client.trace := by
    intro number other member
    simpa [counted, note] using member
  have kept : counted.Calls heard := by
    refine ⟨?_, calls.distinct, ?_, ?_, ?_⟩
    · exact fun call member => (calls.attends call member).mono rfl grown
        fun request found => ⟨request, found, rfl⟩
    · intro number other member
      rcases started member with ⟨rfl, _⟩ | old
      · exact Nat.lt_succ_self _
      · exact Nat.lt_succ_of_lt (calls.started_lt old)
    · intro number first second memberFirst memberSecond
      rcases started memberFirst with ⟨rfl, rfl⟩ | oldFirst
      · rcases started memberSecond with ⟨_, rfl⟩ | oldSecond
        · rfl
        · exact absurd (calls.started_lt oldSecond) (Nat.lt_irrefl _)
      · rcases started memberSecond with ⟨rfl, _⟩ | oldSecond
        · exact absurd (calls.started_lt oldFirst) (Nat.lt_irrefl _)
        · exact calls.started_unique oldFirst oldSecond
    · intro number progress outcome member
      obtain ⟨turn, reached, ends⟩ := calls.finished (by simpa [counted, note] using member)
      exact ⟨turn, reached.mono rfl grown, ends⟩
  have begun : counted.Reached heard client.called [] (Transfer.begin operation) :=
    ⟨operation, [], List.mem_cons_self, .begins, by simp⟩
  have others : (counted.without client.called).Calls heard :=
    kept.keep (Quiet.without _ _) (List.Subset.refl _) fun _ _ request found =>
      ⟨request, found, rfl⟩
  dsimp only [Client.start]
  split
  · next stops => exact kept.told (stops ▸ begun) (.inl rfl)
  · next transfer goes =>
    exact @Calls.proceed counted heard ⟨client.called, transfer, limit, [], 0⟩ others sound _
      (goes ▸ begun)

/-- Every call keeps to what it has heard as a request runs. -/
theorem Calls.poll (calls : client.Calls heard) (sound : client.requests.Sound)
    (hears : client.Hears heard)
    (kinds : ∀ key reply, heard key reply → reply.kind = key.replyKind) (polled : Nat) :
    (client.poll polled).Calls heard := by
  have rested : ({ client with requests := client.requests.rest polled } : Client).Calls heard :=
    calls.keep (Quiet.within client _ _) (List.Subset.refl _) fun _ _ request found =>
      ⟨request, found, rfl⟩
  dsimp only [Client.poll]
  cases found : client.requests.find? polled with
  | none => exact rested
  | some request =>
    obtain rfl := Requests.number_of_find? found
    dsimp only
    split
    · exact rested
    · next turn => exact calls.sendRequest sound found turn
    · split
      · split
        · exact calls.failRequest _
        · exact rested
      · exact rested
    · next reply came =>
      have heardReply := hears _ _ _ found came
      exact calls.answerRequest sound found came heardReply (kinds _ _ heardReply)
    · exact calls.failRequest _

/-! ## Calls in a run -/

/-- A call that has been given up is gone. -/
theorem step_cancel_calls (sound : client.Sound) (number : Nat) :
    ∀ call ∈ (client.step (.cancel number)).calls, call.number ≠ number := by
  intro call member same
  unfold step at member
  split at member
  · next unheld =>
    have released := sound.released (by simpa [Action.isOwners] using unheld)
    rw [released.2.1] at member
    cases member
  · have abandoned : (client.perform (.cancel number)).calls = (client.abandon number).calls := by
      simp [perform, Client.cancel, leave, Client.sweep, noteAll_eq]
    rw [abandoned] at member
    unfold Client.abandon at member
    split at member
    · next alone => simpa [same] using List.find?_eq_none.mp alone call member
    · dsimp only at member
      split at member <;> simp [same] at member

/-- No call is left when the client is let go of. -/
theorem step_release_calls (sound : client.Sound) : (client.step .release).calls = [] := by
  unfold step
  split
  · next unheld => exact (sound.released (by simpa [Action.isOwners] using unheld)).2.1
  · simp [perform, Client.release, noteAll_eq]

/-- A call that is still there has not given up its request, if no other one waits for it. -/
theorem step_spares_kept (sound : client.Sound) {call : Call}
    (member : call ∈ (client.step action).calls)
    (only : ∀ other ∈ client.calls, other.request = call.request → other = call) :
    ¬ client.GivesUp call.request action := by
  intro givesUp
  cases action with
  | cancel number =>
    obtain ⟨waiting, memberWaiting, rfl, own⟩ := givesUp
    exact step_cancel_calls sound _ call member
      (congrArg Call.number (only waiting memberWaiting own)).symm
  | release =>
    rw [step_release_calls sound] at member
    cases member
  | _ => exact givesUp

/-- What requests hear in a move is what comes in with its action. -/
theorem Move.hears (moves : Move action client after) (sound : client.Sound)
    (comes : ∀ key reply, action.reply? = some (key, reply) → heard key reply)
    (hears : client.Hears heard) : after.Hears heard := by
  intro number request reply found came
  rcases moves.foundAfter sound found with ⟨before, foundBefore, follows⟩ | ⟨_, _, early, _⟩
  · cases follows with
    | same => exact hears number request reply foundBefore came
    | granted => cases came
    | sent => cases came
    | answered _ receives _ _ decoded replies =>
      cases came
      exact comes before.key reply (by simp [receives, Action.reply?, decoded, replies])
    | lost => cases came
  · rcases early with turn | turn <;> simp [turn] at came

/-- Replies are of the kind that their key tells. -/
theorem kind_of_reply? {key : RequestKey} {reply : Reply}
    (comes : action.reply? = some (key, reply)) : reply.kind = key.replyKind := by
  unfold Action.reply? at comes
  split at comes
  · split at comes
    · exact Inbound.reply?_eq_some_key_kind comes
    · cases comes
  · cases comes

/-- A step keeps what is known of calls. -/
theorem Calls.step (calls : client.Calls heard) (sound : client.Sound) (hears : client.Hears heard)
    (kinds : ∀ key reply, heard key reply → reply.kind = key.replyKind) (action : Action) :
    (client.step action).Calls heard := by
  by_cases runs : action.runsRequests = true
  · unfold Client.step
    split
    · exact calls
    · cases action with
      | start operation limit => exact calls.start sound.requests operation limit
      | poll polled => exact calls.poll sound.requests hears kinds polled
      | _ => cases runs
  · have aside : action.runsRequests = false := by simpa using runs
    have quiet := client.step_quiet aside
    refine calls.keep quiet (fun _ member => run_remembers sound [action] member) ?_
    intro call member request found
    obtain ⟨later, foundLater, alike⟩ := step_spared sound found aside
      (step_spares_kept sound member fun other memberOther same =>
        List.inj_on_of_nodup_map calls.distinct memberOther (quiet.calls.subset member) same)
    exact ⟨later, foundLater, alike.key⟩

/-- What is known of calls after a run in which every reply that came in was heard. -/
theorem calls_of_run (config : Config) {actions : List Action}
    (comes : ∀ action ∈ actions, ∀ key reply, action.reply? = some (key, reply) →
      heard key reply)
    (kinds : ∀ key reply, heard key reply → reply.kind = key.replyKind) :
    ((Client.initial config).run actions).Calls heard := by
  have kept : ∀ (actions : List Action) (client : Client), client.Sound → client.Hears heard →
      client.Calls heard →
      (∀ action ∈ actions, ∀ key reply, action.reply? = some (key, reply) → heard key reply) →
      (client.run actions).Calls heard := by
    intro actions
    induction actions with
    | nil => exact fun _ _ _ calls _ => calls
    | cons action later inductionHypothesis =>
      intro client sound hears calls comes
      have stepped := @run_keeps client (fun client => client.Hears heard) sound [action]
        (fun next member _ _ soundMiddle moves hears => moves.hears soundMiddle
          (comes next (List.mem_singleton.mp member ▸ List.mem_cons_self)) hears) hears
      exact inductionHypothesis (client.step action) stepped.1 stepped.2
        (calls.step sound hears kinds action)
        fun next member => comes next (List.mem_cons_of_mem _ member)
  refine kept actions _ Reachable.initial.sound (by simp [Hears, Client.initial, Requests.find?]) ?_
    comes
  constructor <;> simp [Client.initial]

/-- What is reachable is what a run leads to. -/
theorem Reachable.exists_run (reachable : Reachable config client) :
    ∃ actions, client = (Client.initial config).run actions := by
  induction reachable with
  | initial => exact ⟨[], rfl⟩
  | step action _ inductionHypothesis =>
    obtain ⟨actions, rfl⟩ := inductionHypothesis
    exact ⟨actions ++ [action], by rw [run_append]; rfl⟩

/-- A call that has ended had come in. -/
theorem Reachable.finished_lt (reachable : Reachable config client) {number : Nat}
    {progress : List Progress} {outcome : Except Failure Delivery}
    (ended : .finished number progress outcome ∈ client.trace) : number < client.called := by
  obtain ⟨actions, rfl⟩ := reachable.exists_run
  have calls := @calls_of_run (fun key reply => reply.kind = key.replyKind) config actions
    (fun _ _ _ _ comes => kind_of_reply? comes) fun _ _ fits => fits
  obtain ⟨_, ⟨_, _, started, _⟩, _⟩ := calls.finished ended
  exact calls.started_lt started

end Client

end RemoteAgent
