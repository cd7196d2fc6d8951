import RemoteAgent.Proofs.Client.Generations
import RemoteAgent.Proofs.Client.Lanes

/-!
# Deadlines

A deadline belongs to a request that was sent, and counts from that moment. A request times out only
as it runs, once it has waited that long for its reply and nothing has settled it since it was sent
(`expired_of_run`, `sentSince_of_waiting`). With its end its turn goes to the next request of its
lane, which goes on the open socket as it runs, and waits for its own deadline from that moment on
(`Expired.timesOut`, `deadlines_kept`). Without an open socket it fails unsent
(`next_unsent_after_close`).
-/

namespace RemoteAgent.Client

/-- A request has waited for its reply since a moment, as long as it may. -/
structure Expired (client : Client) (request : Request) (generation sentAt : Nat)
    (limit : Duration) : Prop where
  found : client.requests.find? request.number = some request
  waits : request.standing = .waiting generation sentAt
  limited : request.limit = some limit
  late : sentAt + limit.nanoseconds ≤ client.clock

/-- A request was sent in a step of a run, and nothing has settled it in the steps since. -/
structure SentSince (config : Config) (before : List Action) (sender : Action) (since : List Action)
    (number generation : Nat) : Prop where
  sent : .sent number generation ∈ (ran config (before ++ [sender])).trace
  unsent : .sent number generation ∉ (ran config before).trace
  unsettled : (ran config (before ++ [sender])).Unsettled number since

/-- What becomes of a request that runs when its time is up, and of those behind it. -/
structure TimesOut (client : Client) (request : Request) (limit : Duration) : Prop where
  told : .answered request.number (.error (.requestTimeout request.key limit.milliseconds)) ∈
    (client.step (.poll request.number)).trace
  /-- It is gone for good, and its entry with it. -/
  gone : ∀ later,
    let final := (client.step (.poll request.number)).run later
    final.requests.find? request.number = none ∧
      ∀ entry ∈ final.requests.inFlight, entry.request ≠ request.number
  /-- It has no other outcome. -/
  once : ∀ later outcome,
    .answered request.number outcome ∈ ((client.step (.poll request.number)).run later).trace →
      outcome = .error (.requestTimeout request.key limit.milliseconds)
  /-- It is the turn of the first request that waited for it, which is to run. With an open socket it
  is sent as it does, and waits for its reply from this moment on, with the limit that it had. -/
  next : ∀ number, (client.requests.queue request.key).head? = some number →
    let after := client.step (.poll request.number)
    ∃ waiting, client.requests.find? number = some waiting ∧ waiting.key = request.key ∧
      after.requests.find? number = some { waiting with standing := .granted } ∧
      number ∈ after.requests.ready ∧
      ∀ generation, client.link.lifecycle = .opened generation →
        .sent number generation ∈ (after.step (.poll number)).trace ∧
          (after.step (.poll number)).requests.find? number =
            some { waiting with standing := .waiting generation client.clock }
  /-- While a socket is open, the first one that is not given up has been sent at rest. -/
  sent : ∀ later generation,
    let after := client.step (.poll request.number)
    after.Throughout later (fun client => client.link.lifecycle = .opened generation) →
      (after.run later).IsQuiescent →
      ∀ ahead number behind, client.requests.queue request.key = ahead ++ number :: behind →
        (∀ other ∈ ahead, ¬ after.Spares other later) → after.Spares number later →
          .sent number generation ∈ (after.run later).trace
  /-- Without an open socket, each one that is not given up has failed unsent at rest. -/
  unsent : ∀ later,
    let after := client.step (.poll request.number)
    after.Throughout later
        (fun client => ∀ generation, client.link.lifecycle ≠ .opened generation) →
      (after.run later).IsQuiescent →
      ∀ number ∈ client.requests.queue request.key, after.Spares number later →
        .answered number (.error .notConnected) ∈ (after.run later).trace ∧
          ∀ generation, .sent number generation ∉ (after.run later).trace

/-- How deadlines are kept in a run. -/
structure KeepsDeadlines (config : Config) (actions : List Action) : Prop where
  /-- A request times out as it runs, having waited for its reply since the step in which it was sent,
  as long as it may. -/
  cause : ∀ number key milliseconds,
    .answered number (.error (.requestTimeout key milliseconds)) ∈ (ran config actions).trace →
      ∃ before sender since later generation request limit,
        actions = before ++ sender :: since ++ .poll number :: later ∧
          request.number = number ∧ request.key = key ∧ limit.milliseconds = milliseconds ∧
          SentSince config before sender since number generation ∧
          (ran config (before ++ sender :: since)).Expired request generation
            (ran config before).clock limit ∧
          (ran config (before ++ sender :: since)).TimesOut request limit
  /-- A request that waits for its turn does not time out. -/
  queued : ∀ number request, (ran config actions).requests.find? number = some request →
    request.standing = .queued → ∀ action key milliseconds,
      .answered number (.error (.requestTimeout key milliseconds)) ∉
        ((ran config actions).step action).trace
  /-- A request that may wait for ever does not time out. -/
  unlimited : ∀ number request, (ran config actions).requests.find? number = some request →
    request.limit = none → ∀ later key milliseconds,
      .answered number (.error (.requestTimeout key milliseconds)) ∉
        ((ran config actions).run later).trace
  /-- At its turn, a request is to run. It is sent on the open socket as it does, and waits for its
  reply from that moment on. Without an open socket it fails. -/
  turn : ∀ number request, (ran config actions).requests.find? number = some request →
    request.standing = .granted →
      let after := (ran config actions).step (.poll number)
      number ∈ (ran config actions).requests.ready ∧
        (∀ generation, (ran config actions).link.lifecycle = .opened generation →
          .sent number generation ∈ after.trace ∧ after.requests.find? number =
            some { request with standing := .waiting generation (ran config actions).clock }) ∧
        ((∀ generation, (ran config actions).link.lifecycle ≠ .opened generation) →
          .answered number (.error .notConnected) ∈ after.trace)
  /-- At rest, a request waits for its reply on the open socket. -/
  atRest : (ran config actions).IsQuiescent → ∀ number request generation sentAt,
    (ran config actions).requests.find? number = some request →
      request.standing = .waiting generation sentAt →
        (ran config actions).link.lifecycle = .opened generation

variable {config : Config} {client : Client} {action : Action} {request : Request}
  {number generation sentAt milliseconds : Nat} {key : RequestKey} {limit : Duration}

/-! ## The cause of a timeout -/

/-- What can be said of the states that a step goes through. -/
structure Within (action : Action) (client middle : Client) : Prop where
  remembers : client.trace ⊆ middle.trace
  clock : action.runsRequests = true → middle.clock = client.clock
  /-- A request that waits for its reply waited for it before, or has just been sent. -/
  waiting : ∀ {number generation sentAt request}, middle.requests.find? number = some request →
    request.standing = .waiting generation sentAt →
      client.requests.find? number = some request ∨
        .sent number generation ∈ middle.trace ∧ .sent number generation ∉ client.trace ∧
          sentAt = client.clock
  /-- A request that has just timed out had waited for its reply as long as it may. -/
  overdue : ∀ {number key milliseconds},
    .answered number (.error (.requestTimeout key milliseconds)) ∈ middle.trace →
      .answered number (.error (.requestTimeout key milliseconds)) ∈ client.trace ∨
        action.runsRequests = true ∧ ∃ request generation sentAt limit, request.number = number ∧
          request.key = key ∧ limit.milliseconds = milliseconds ∧
          (client.requests.find? number = some request ∨
            .sent number generation ∈ middle.trace ∧ .sent number generation ∉ client.trace) ∧
          request.standing = .waiting generation sentAt ∧ request.limit = some limit ∧
          sentAt + limit.nanoseconds ≤ client.clock

theorem Within.move {middle next : Client} (within : Within action client middle)
    (sound : middle.Sound) (outcomes : middle.Outcomes) (moves : Move action middle next) :
    Within action client next where
  remembers := fun _ told => moves.remembers sound (within.remembers told)
  clock := fun runs => (moves.clock_of_runs runs).trans (within.clock runs)
  waiting := by
    intro number generation sentAt request found waits
    rcases moves.foundAfter sound found with ⟨before, foundBefore, follows⟩ | ⟨_, _, early, _⟩
    · cases follows with
      | same =>
        exact (within.waiting foundBefore waits).imp_right (And.imp_left (moves.remembers sound))
      | granted => cases waits
      | sent runs turn _ told =>
        cases waits
        refine .inr ⟨?_, fun old => outcomes.unsent foundBefore (.inl turn) (within.remembers old),
          within.clock runs⟩
        rw [told, Requests.number_of_find? foundBefore]
        exact List.mem_cons_self
      | answered => cases waits
      | lost => cases waits
    · rcases early with turn | turn <;> simp [turn] at waits
  overdue := by
    intro number key milliseconds told
    rcases moves.explains sound told with old | ⟨runs, request, found, ending, _⟩
    · refine (within.overdue old).imp_right ?_
      rintro ⟨runs, request, generation, sentAt, limit, named, own, counted, origin, rest⟩
      exact ⟨runs, request, generation, sentAt, limit, named, own, counted,
        origin.imp_right (And.imp_left (moves.remembers sound)), rest⟩
    · cases ending with
      | overdue waits limited late =>
        refine .inr ⟨runs, request, _, _, _, Requests.number_of_find? found, rfl, rfl, ?_, waits,
          limited, within.clock runs ▸ late⟩
        refine (within.waiting found waits).imp_right ?_
        exact fun sent => ⟨moves.remembers sound sent.1, sent.2.1⟩

theorem Reachable.within (reachable : Reachable config client) :
    Within action client (client.step action) := by
  refine reachable.step_keeps (fun _ _ sound outcomes _ moves within =>
    within.move sound outcomes moves) ?_
  exact ⟨fun _ told => told, fun _ => rfl, fun found _ => .inl found, .inl⟩

/-- A request that has come to time out in a step is the one that ran, and had waited for its reply
as long as it may. -/
theorem Reachable.expired_of_step (reachable : Reachable config client)
    (told : .answered number (.error (.requestTimeout key milliseconds)) ∈
      (client.step action).trace)
    (untold : .answered number (.error (.requestTimeout key milliseconds)) ∉ client.trace) :
    action = .poll number ∧ ∃ request generation sentAt limit, request.number = number ∧
      request.key = key ∧ limit.milliseconds = milliseconds ∧
      client.Expired request generation sentAt limit := by
  have after := reachable.step action
  have gone : ∀ entry ∈ (client.step action).requests.inFlight, entry.request ≠ number := by
    rintro entry member rfl
    obtain ⟨_, _, found, _⟩ := (after.requests_sound.entry_iff entry).mp member
    exact after.outcomes.unanswered found told
  obtain ⟨runs, request, generation, sentAt, limit, rfl, own, counted, origin, waits, limited,
    late⟩ := (reachable.within.overdue told).resolve_left untold
  rcases origin with found | sent
  · have member := reachable.requests_sound.entry_of_waiting found waits
    have settles := (reachable.leaves_iff_settles action member).mp
      fun stays => gone _ stays rfl
    cases action with
    | start => exact settles.elim
    | poll polled =>
      obtain ⟨rfl, _⟩ := settles
      exact ⟨rfl, request, generation, sentAt, limit, rfl, own, counted, found, waits, limited,
        late⟩
    | _ => cases runs
  · -- What is sent in a step is in flight after it, and so has no outcome yet.
    have sends : client.Sends request.number action := ⟨generation, sent⟩
    obtain ⟨entry, member, named⟩ := sends.inFlight reachable.sound
    exact absurd named (gone entry member)

/-- A request that has timed out ran when it had waited for its reply as long as it may. -/
theorem expired_of_run (config : Config) (actions : List Action)
    (told : .answered number (.error (.requestTimeout key milliseconds)) ∈
      (ran config actions).trace) :
    ∃ earlier later request generation sentAt limit, actions = earlier ++ .poll number :: later ∧
      request.number = number ∧ request.key = key ∧ limit.milliseconds = milliseconds ∧
      (ran config earlier).Expired request generation sentAt limit := by
  induction actions using List.reverseRecOn with
  | nil => cases told
  | append_singleton earlier action inductionHypothesis =>
    have reachable : Reachable config (ran config earlier) := Reachable.initial.run earlier
    have stepped : ran config (earlier ++ [action]) = (ran config earlier).step action :=
      run_concat _ _ _
    by_cases old : .answered number (.error (.requestTimeout key milliseconds)) ∈
        (ran config earlier).trace
    · obtain ⟨first, later, request, generation, sentAt, limit, rfl, expired⟩ :=
        inductionHypothesis old
      exact ⟨first, later ++ [action], request, generation, sentAt, limit, by simp, expired⟩
    · obtain ⟨rfl, request, generation, sentAt, limit, expired⟩ :=
        reachable.expired_of_step (stepped ▸ told) old
      exact ⟨earlier, [], request, generation, sentAt, limit, rfl, expired⟩

/-- A request that waits for its reply was sent at the moment from which it waits, and nothing has
settled it since. -/
theorem sentSince_of_waiting (config : Config) (actions : List Action)
    (found : (ran config actions).requests.find? number = some request)
    (waits : request.standing = .waiting generation sentAt) :
    ∃ before sender since, actions = before ++ sender :: since ∧
      SentSince config before sender since number generation ∧
      sentAt = (ran config before).clock := by
  induction actions using List.reverseRecOn with
  | nil => cases found
  | append_singleton earlier action inductionHypothesis =>
    have reachable : Reachable config (ran config earlier) := Reachable.initial.run earlier
    have stepped : ran config (earlier ++ [action]) = (ran config earlier).step action :=
      run_concat _ _ _
    rw [stepped] at found
    rcases reachable.within.waiting found waits with old | ⟨sent, unsent, now⟩
    · obtain ⟨before, sender, since, rfl, sentSince, moment⟩ := inductionHypothesis old
      refine ⟨before, sender, since ++ [action], by simp,
        { sentSince with unsettled := sentSince.unsettled.concat fun settles => ?_ }, moment⟩
      have whole : (ran config (before ++ [sender])).run since =
          ran config (before ++ sender :: since) := by
        rw [ran, ran, ← run_append, List.append_assoc, List.singleton_append]
      rw [whole] at settles
      have member := reachable.requests_sound.entry_of_waiting old waits
      exact (reachable.leaves_iff_settles action member).mpr settles
        ((reachable.step action).requests_sound.entry_of_waiting found waits)
    · exact ⟨earlier, action, [], rfl, ⟨stepped ▸ sent, unsent, by simp [Unsettled]⟩, now⟩

/-- A request that may wait for ever does not time out. -/
theorem Reachable.unlimited (reachable : Reachable config client)
    (found : client.requests.find? number = some request) (unlimited : request.limit = none)
    (actions : List Action) :
    .answered number (.error (.requestTimeout key milliseconds)) ∉ (client.run actions).trace := by
  refine (@run_keeps client (fun client => number < client.requests.issued ∧
    (∀ other, client.requests.find? number = some other → other.limit = none) ∧
      .answered number (.error (.requestTimeout key milliseconds)) ∉ client.trace)
    reachable.sound actions ?_ ⟨reachable.requests_sound.number_lt found, ?_,
      reachable.outcomes.unanswered found⟩).2.2.2
  · rintro action _ middle next sound moves ⟨past, never, untold⟩
    refine ⟨Nat.lt_of_lt_of_le past moves.issued_le, ?_, fun told => ?_⟩
    · intro other foundOther
      rcases moves.foundAfter sound foundOther with ⟨before, foundBefore, follows⟩ | ⟨_, newest, _⟩
      · have none := never before foundBefore
        cases follows <;> exact none
      · exact absurd newest (Nat.ne_of_lt past)
    · obtain ⟨_, own, foundOwn, ending, _⟩ := (moves.explains sound told).resolve_left untold
      cases ending with
      | overdue _ limited =>
        rw [never own foundOwn] at limited
        cases limited
  · intro other foundOther
    rw [found] at foundOther
    cases foundOther
    exact unlimited

/-! ## The end of a request whose time is up -/

theorem Expired.overdue (expired : client.Expired request generation sentAt limit) :
    request.isOverdue client.clock = true := by
  simp [Request.isOverdue, expired.waits, expired.limited, expired.late]

/-- A request whose time is up does not wait for its turn. -/
theorem Expired.ne_of_queued (expired : client.Expired request generation sentAt limit)
    {waiting : Request} (found : client.requests.find? number = some waiting)
    (queued : waiting.standing = .queued) : number ≠ request.number := by
  rintro rfl
  rw [expired.found] at found
  cases found
  exact absurd (expired.waits.symm.trans queued) (by simp)

/-- A request whose time is up fails when it runs. -/
theorem Expired.polled (expired : client.Expired request generation sentAt limit) :
    client.step (.poll request.number) =
      { client with requests := client.requests.release request }.failRequest request.number
        (.requestTimeout request.key limit.milliseconds) := by
  simp [step, Action.isOwners, perform, poll, expired.found, expired.waits, expired.limited,
    expired.overdue]

/-- The link stays as it is, and no time passes, when a request fails. -/
theorem failRequest_keeps (client : Client) (number : Nat) (failure : Failure) :
    (client.failRequest number failure).link = client.link ∧
      (client.failRequest number failure).clock = client.clock := by
  dsimp only [failRequest]
  split <;> exact ⟨rfl, rfl⟩

/-- A request that stood in the queue behind one that has timed out stands there still, or has its
turn. -/
theorem Expired.awaiting (expired : client.Expired request generation sentAt limit)
    (sound : client.requests.Sound) (queued : number ∈ client.requests.queue request.key) :
    ∃ waiting, (client.step (.poll request.number)).requests.find? number = some waiting ∧
      waiting.key = request.key ∧ (waiting.standing = .granted ∨ waiting.standing = .queued) := by
  obtain ⟨before, found, own, stands⟩ := (sound.queue_iff request.key number).mp queued
  have other := expired.ne_of_queued found stands
  rw [step_poll_overdue expired.found expired.overdue, Requests.release_find?, if_neg other, found]
  split
  · exact ⟨_, rfl, own, .inl rfl⟩
  · exact ⟨_, rfl, own, .inr stands⟩

/-- What is there under the key of a request after it has timed out waited for its turn before. -/
theorem Expired.queued (expired : client.Expired request generation sentAt limit)
    (sound : client.requests.Sound) {origin : Request}
    (found : (client.step (.poll request.number)).requests.find? number = some origin)
    (own : origin.key = request.key) : number ∈ client.requests.queue request.key := by
  rw [step_poll_overdue expired.found expired.overdue, Requests.release_find?] at found
  split at found
  · cases found
  · next other =>
    split at found
    · next first => exact List.mem_of_head? first
    · refine (sound.queue_iff request.key number).mpr ⟨origin, found, own, ?_⟩
      by_contra turn
      exact other (sound.turn_unique expired.found (by simp [expired.waits]) found turn own).1

/-- A request whose time is up is told so when it runs. -/
theorem Expired.told (expired : client.Expired request generation sentAt limit) :
    .answered request.number (.error (.requestTimeout request.key limit.milliseconds)) ∈
      (client.step (.poll request.number)).trace :=
  expired.polled ▸ failRequest_told _ _ _

/-- A request that has timed out does not come back. -/
theorem Expired.gone (reachable : Reachable config client)
    (expired : client.Expired request generation sentAt limit) (later : List Action) :
    ((client.step (.poll request.number)).run later).requests.find? request.number = none := by
  have after := reachable.step (.poll request.number)
  refine run_gone after.sound (after.outcomes.answered_lt expired.told) ?_ later
  rw [step_poll_overdue expired.found expired.overdue, Requests.release_find?, if_pos rfl]

/-- The first request behind one that has timed out has its turn. -/
theorem Expired.granted (expired : client.Expired request generation sentAt limit) {waiting : Request}
    (found : client.requests.find? number = some waiting) (queued : waiting.standing = .queued)
    (first : (client.requests.queue request.key).head? = some number) :
    (client.step (.poll request.number)).requests.find? number =
      some { waiting with standing := .granted } := by
  rw [step_poll_overdue expired.found expired.overdue, Requests.release_find?,
    if_neg (expired.ne_of_queued found queued), if_pos first, found, Option.map_some]

/-- It is sent on the socket that is open as the other one times out, and waits from that moment on. -/
theorem Expired.sent_next (reachable : Reachable config client)
    (expired : client.Expired request generation sentAt limit) {waiting : Request} {opened : Nat}
    (granted : (client.step (.poll request.number)).requests.find? number =
      some { waiting with standing := .granted })
    (isOpen : client.link.lifecycle = .opened opened) :
    let after := (client.step (.poll request.number)).step (.poll number)
    .sent number opened ∈ after.trace ∧ after.requests.find? number =
      some { waiting with standing := .waiting opened client.clock } := by
  have kept := failRequest_keeps { client with requests := client.requests.release request }
    request.number (.requestTimeout request.key limit.milliseconds)
  rw [← expired.polled] at kept
  have still : (client.step (.poll request.number)).link.lifecycle = .opened opened := by
    rw [kept.1]
    exact isOpen
  have sent := step_poll_sent (reachable.step _).requests_sound granted rfl still
  rwa [kept.2] at sent

theorem Expired.timesOut (reachable : Reachable config client)
    (expired : client.Expired request generation sentAt limit) : client.TimesOut request limit := by
  have sound := reachable.requests_sound
  have reachableAfter := reachable.step (.poll request.number)
  refine
    { told := expired.told
      gone := fun later => ⟨expired.gone reachable later, ?_⟩
      once := ?_
      next := ?_
      sent := ?_
      unsent := ?_ }
  · rintro entry member named
    obtain ⟨_, _, found, _⟩ :=
      ((reachableAfter.run later).requests_sound.entry_iff entry).mp member
    rw [named, expired.gone reachable later] at found
    cases found
  · intro later outcome answered
    exact (reachableAfter.run later).outcomes.answered_unique answered
      (run_remembers reachableAfter.sound later expired.told)
  · intro number first
    obtain ⟨waiting, found, own, queued⟩ :=
      (sound.queue_iff request.key number).mp (List.mem_of_head? first)
    have granted := expired.granted found queued first
    exact ⟨waiting, found, own, granted, reachableAfter.requests_sound.ready granted rfl,
      fun opened isOpen => expired.sent_next reachable granted isOpen⟩
  · intro later generation after opened quiescent ahead number behind queue given spares
    have queued : number ∈ client.requests.queue request.key := by simp [queue]
    obtain ⟨waiting, found, own, early⟩ := expired.awaiting sound queued
    refine reachableAfter.sound.sent_at_rest found early spares opened quiescent ?_
    intro other origin earlier foundOrigin sameKey
    exact .inr (given other (ahead_of_lt sound queue
      (expired.queued sound foundOrigin (sameKey.trans own)) earlier))
  · intro later after unopened quiescent number queued spares
    obtain ⟨waiting, found, _, early⟩ := expired.awaiting sound queued
    obtain ⟨failed, _, unsent⟩ :=
      reachableAfter.fails_at_rest ⟨waiting, found, early⟩ spares unopened quiescent
    exact ⟨failed, unsent⟩

/-! ## Deadlines that are kept -/

/-- In every run, a request times out only as it runs, having been sent and waited for its reply since
then for as long as it may, with nothing to settle it in between. One that waits for its turn does not
time out, and neither does one that may wait for ever. A request that has timed out is gone for good,
and the next one of its lane that is not given up has the turn: it is sent on the open socket as it
runs, with its deadline counted from that moment. Without an open socket it fails unsent, and a
request that waits at rest waits on the open one. -/
theorem deadlines_kept (config : Config) (actions : List Action) :
    KeepsDeadlines config actions := by
  have reachable : Reachable config (ran config actions) := Reachable.initial.run actions
  have sound := reachable.requests_sound
  refine ⟨?_, ?_, ?_, ?_, ?_⟩
  · intro number key milliseconds told
    obtain ⟨earlier, later, request, generation, sentAt, limit, rfl, rfl, rfl, rfl, expired⟩ :=
      expired_of_run config actions told
    obtain ⟨before, sender, since, rfl, sentSince, rfl⟩ :=
      sentSince_of_waiting config earlier expired.found expired.waits
    exact ⟨before, sender, since, later, generation, request, limit, rfl, rfl, rfl, rfl, sentSince,
      expired, expired.timesOut (Reachable.initial.run _)⟩
  · intro number request found queued action key milliseconds told
    obtain ⟨_, own, _, _, _, rfl, _, _, expired⟩ :=
      reachable.expired_of_step told (reachable.outcomes.unanswered found)
    exact expired.ne_of_queued found queued rfl
  · intro number request found unlimited later key milliseconds
    exact reachable.unlimited found unlimited later
  · intro number request found turn
    exact ⟨sound.ready found (by rw [turn]; rfl),
      fun _ opened => step_poll_sent sound found turn opened, step_poll_unsent found turn⟩
  · intro quiescent number request generation sentAt found waits
    obtain ⟨_, foundSocket, _⟩ := reachable.entriesOwed _ (sound.entry_of_waiting found waits)
    exact quiescent.opened reachable.sound foundSocket

/-- The second of two questions for a file is sent when the first one has timed out. -/
theorem deadlines_kept_of_queries :
    let actions : List Action := [.connect, .settle 1 .accepted, .resolve 1,
      .start (.query "a") (some (.ofSeconds 1)), .start (.query "a") none, .wait (.ofSeconds 1),
      .poll 0]
    let client := ran .loopback actions
    .answered 0 (.error (.requestTimeout (.info "a") 1000)) ∈ client.trace ∧
      (∃ before sender since later generation,
        actions = before ++ sender :: since ++ .poll 0 :: later ∧
          SentSince .loopback before sender since 0 generation) ∧
      .sent 1 1 ∈ (client.step (.poll 1)).trace := by
  intro actions client
  have kept := deadlines_kept .loopback actions
  have told : .answered 0 (.error (.requestTimeout (.info "a") 1000)) ∈ client.trace :=
    List.mem_cons_of_mem _ List.mem_cons_self
  obtain ⟨before, sender, since, later, generation, _, _, split, _, _, _, sentSince, _⟩ :=
    kept.cause 0 _ _ told
  have found : client.requests.find? 1 =
      some ⟨1, .info "a", (Outbound.queryFile "a").encode, .info, none, .granted⟩ := by decide
  exact ⟨told, ⟨before, sender, since, later, generation, split, sentSince⟩,
    ((kept.turn 1 _ found rfl).2.1 1 rfl).1⟩

/-- Without an open socket, the next one is not sent. The owner has closed the link when the first of
two questions times out, and the end of the socket is still to be told of, so that the second one has
its turn and fails. Nobody has given it up. -/
theorem next_unsent_after_close :
    let client := ran .loopback [.connect, .settle 1 .accepted, .resolve 1,
      .start (.query "a") (some (.ofSeconds 1)), .start (.query "a") none, .close,
      .wait (.ofSeconds 1)]
    let final := client.run
      [.poll 0, .poll 1, .transmit 1, .transmit 1, .report 1, .report 1, .report 1]
    client.requests.queue (.info "a") = [1] ∧ final.IsQuiescent ∧
      .answered 0 (.error (.requestTimeout (.info "a") 1000)) ∈ final.trace ∧
      .answered 1 (.error .notConnected) ∈ final.trace ∧
      ∀ generation, .sent 1 generation ∉ final.trace := by
  intro client final
  let asked := (Outbound.queryFile "a").encode
  let overdue := Failure.requestTimeout (.info "a") 1000
  have trace : final.trace =
      [.told .fileService 1, .hungUp 1, .transmitted 1 asked,
        .finished 2 [] (.error .notConnected), .answered 1 (.error .notConnected),
        .finished 1 [] (.error overdue), .answered 0 (.error overdue), .issued 1 (.info "a"),
        .started 2 (.query "a"), .sent 0 1, .accepted 1 asked, .issued 0 (.info "a"),
        .started 1 (.query "a"), .connected 0 (.ok ()), .opened 1 1, .dialed 1, .joined 0 1] := rfl
  refine ⟨rfl, by decide, ?_, ?_, fun generation => ?_⟩ <;> simp [trace, overdue]

end RemoteAgent.Client
