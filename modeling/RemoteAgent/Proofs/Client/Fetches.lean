import RemoteAgent.Proofs.Client.Downloads
import RemoteAgent.Proofs.Client.Scripts
import RemoteAgent.Proofs.Transfer.Fetches

/-!
# Downloads against any replies

A download takes one piece after the other, whatever the agent puts into them, and whatever other
calls do meanwhile (`download_fetches`).
-/

namespace RemoteAgent.Client

open Download

variable {config : Config} {client : Client}

/-- What is told of a download, and what it has reported when it is still under way. -/
inductive Fetches (client : Client) (number : Nat) (path : String) (destination : Destination) :
    Prop where
  /-- The metadata have not come. -/
  | sizing (unanswered : Unanswered (Want.info path) [] (transcript number client.trace))
      (reported : ∀ call ∈ client.calls, call.number = number → call.progress = [])
  | fetching (info : FileInfo) (chunks : List Chunk) (offsets : List Nat)
      (fetched : Fetched client.config.chunkSize path destination info chunks offsets
        (transcript number client.trace))
      (reported : ∀ call ∈ client.calls, call.number = number →
        call.progress = reports info.size chunks)

/-- Whatever replies come in, a download waits for the metadata, or has taken one piece after the
other. -/
theorem Reachable.takes (reachable : Reachable config client) {number : Nat} {path : String}
    {destination : Destination}
    (started : .started number (.download path destination) ∈ client.trace)
    (short : ∀ chunk, .hears (.ok (.chunk chunk)) ∈ transcript number client.trace →
      chunk.data.length < 0x8000000000000000) :
    (Unanswered (Want.info path) [] (transcript number client.trace) ∧
        ∀ call ∈ client.calls, call.number = number →
          call.progress = [] ∧ call.transfer = .sizing path destination) ∨
      ∃ info chunks rest, transcript number client.trace =
          exchanges ((Want.info path, .info info) :: fetches client.config.chunkSize path chunks) ++
            rest ∧
        Taken info chunks ∧ Ensues client.config.chunkSize path destination info chunks rest ∧
        ∀ call ∈ client.calls, call.number = number →
          call.progress = reports info.size chunks ∧
            Waiting path destination info chunks call.transfer := by
  obtain ⟨stage, resting, unfolds, waits⟩ := reachable.unfolds started
  rw [← reachable.config] at unfolds
  rcases takes_of_unfolds unfolds resting short with ⟨unanswered, none⟩ |
    ⟨info, chunks, rest, lines, taken, ensues, some⟩
  · refine .inl ⟨unanswered, fun call member own => ?_⟩
    obtain ⟨isSent, rfl⟩ := waits call member own
    exact none _ _ _ rfl
  · refine .inr ⟨info, chunks, rest, lines, taken, ensues, fun call member own => ?_⟩
    obtain ⟨isSent, rfl⟩ := waits call member own
    exact some _ _ _ rfl

/-- Whatever replies come in, a download asks for the metadata, and then for one piece after the other,
each where those before it end and only once these have come. It ends with the first request that
fails, or with the octets of all pieces as soon as there are enough or one is empty, and it reports
progress with each that is not. The pieces are no longer than a vector can be. -/
theorem download_fetches (reachable : Reachable config client) {number : Nat} {path : String}
    {destination : Destination}
    (started : .started number (.download path destination) ∈ client.trace)
    (short : ∀ chunk, .hears (.ok (.chunk chunk)) ∈ transcript number client.trace →
      chunk.data.length < 0x8000000000000000) :
    client.Fetches number path destination := by
  rcases reachable.takes started short with ⟨unanswered, waits⟩ |
    ⟨info, chunks, rest, lines, taken, ensues, waits⟩
  · exact .sizing unanswered fun call member own => (waits call member own).1
  · obtain ⟨offsets, fetched⟩ := ensues.fetched taken
    exact .fetching info chunks offsets (lines ▸ fetched) fun call member own =>
      (waits call member own).1

/-- Of a file of two octets, one comes with the first piece, and the download asks for what stands
behind it. -/
theorem download_fetches_of_short_piece :
    let actions : List Action := [.connect, .settle 1 .accepted, .resolve 1,
      .start (.download "a" .caller) none,
      .receive 1 (.binary (Inbound.fileInfo twoOctets).encode), .poll 0,
      .receive 1 (.binary (Inbound.fileChunk "a" ⟨0, [1]⟩).encode), .poll 1]
    let client := (Client.initial .loopback).run actions
    let request := Want.piece Config.loopback.chunkSize "a"
    transcript 1 client.trace =
        exchanges [(Want.info "a", .info twoOctets), (request 0, .chunk ⟨0, [1]⟩)] ++
          (request 1).told true ∧
      client.Fetches 1 "a" .caller := by
  intro actions client request
  have metadata : Inbound.decode (Inbound.fileInfo twoOctets).encode = .ok (.fileInfo twoOctets) :=
    Inbound.decode_encode_fileInfo (by decide)
  have piece : Inbound.decode (Inbound.fileChunk "a" ⟨0, [1]⟩).encode =
      .ok (.fileChunk "a" ⟨0, [1]⟩) := Inbound.decode_encode_fileChunk "a" (by decide)
  have reached : ∀ count, Reachable .loopback ((Client.initial .loopback).run (actions.take count)) :=
    fun _ => Reachable.initial.run _
  -- No evaluation opens the recursion that reads frames, so each reply is taken in by the lemma.
  have told : (Client.initial .loopback).run (actions.take 5) = _ :=
    @step_receive_reply _ (reached 4).sound rfl 1 _ _ _ _ _ rfl rfl metadata rfl
  have asked : (Client.initial .loopback).run (actions.take 6) = _ :=
    congrArg (Client.step · (.poll 0)) told
  have received : (Client.initial .loopback).run (actions.take 7) = _ :=
    @step_receive_reply _ (reached 6).sound (by rw [asked]; rfl) 1 _ _ _ _ _ (by rw [asked]; rfl) rfl
      piece rfl
  rw [asked] at received
  have askedAgain : client = _ := congrArg (Client.step · (.poll 1)) received
  have early : .started 1 (.download "a" .caller) ∈
      ((Client.initial .loopback).run (actions.take 4)).trace :=
    .tail _ (.tail _ (.tail _ (.head _)))
  have started : .started 1 (.download "a" .caller) ∈
      ((Client.initial .loopback).run actions).trace := by
    rw [← List.take_append_drop 4 actions, run_append]
    exact run_remembers (reached 4).sound _ early
  have lines : transcript 1 client.trace =
      exchanges [(Want.info "a", .info twoOctets), (request 0, .chunk ⟨0, [1]⟩)] ++
        (request 1).told true := by
    rw [askedAgain]
    decide +kernel
  refine ⟨lines, download_fetches (Reachable.initial.run actions) started ?_⟩
  rw [lines]
  intro chunk heard
  simp [exchanges, Want.told] at heard
  simp [heard]

end RemoteAgent.Client
