import RemoteAgent.Proofs.Client.Calls

/-!
# Downloads among other calls

However many calls there are and whatever becomes of them, a download takes up the replies to its own
requests only. If every reply that comes in is true of the contents of the files, then a download
that succeeds delivers the contents of its file (`download_integrity`).
-/

namespace RemoteAgent.Client

/-- In every run in which each reply that comes in is true of the contents of the files, a download
that succeeds delivers the contents of its file. -/
theorem download_integrity (config : Config) (contents : String → Bytes) (actions : List Action)
    (truthful : ∀ action ∈ actions, ∀ key reply, action.reply? = some (key, reply) →
      reply.Fits contents key)
    {call : Nat} {path : String} {destination : Destination} {progress : List Progress}
    {delivery : Delivery}
    (started : .started call (.download path destination) ∈
      ((Client.initial config).run actions).trace)
    (finished : .finished call progress (.ok delivery) ∈
      ((Client.initial config).run actions).trace) :
    ∃ info, delivery = .file ⟨info, contents path⟩ ∨ delivery = .stored ⟨info, contents path⟩ := by
  let heard := fun (key : RequestKey) (reply : Reply) =>
    reply.Fits contents key ∧ reply.kind = key.replyKind
  have calls : ((Client.initial config).run actions).Calls heard :=
    calls_of_run config
      (fun action member key reply comes =>
        ⟨truthful action member key reply comes, kind_of_reply? comes⟩)
      fun _ _ hears => hears.2
  obtain ⟨turn, ⟨operation, exchanged, startedToo, reaches, all⟩, ends⟩ := calls.finished finished
  obtain rfl := calls.started_unique started startedToo
  rcases ends with rfl | ⟨failure, failed⟩
  · exact reaches.delivers fun pair member => (all pair member).1
  · cases failed

/-- A file of two octets, as its metadata tell. -/
def twoOctets : FileInfo := ⟨"a", 2, 0o644, 0⟩

/-- A file is downloaded, while its metadata come twice. -/
theorem download_integrity_of_duplicate :
    let contents : String → Bytes := fun path => if path = "a" then [1, 2] else []
    let actions : List Action := [.connect, .settle 1 .accepted, .resolve 1,
      .start (.download "a" .caller) none,
      .receive 1 (.binary (Inbound.fileInfo twoOctets).encode),
      .receive 1 (.binary (Inbound.fileInfo twoOctets).encode), .poll 0,
      .receive 1 (.binary (Inbound.fileChunk "a" ⟨0, [1, 2]⟩).encode), .poll 1]
    ∃ delivery, .finished 1 [⟨2, 2⟩] (.ok delivery) ∈
      ((Client.initial .loopback).run actions).trace ∧
      ∃ info, delivery = .file ⟨info, contents "a"⟩ ∨ delivery = .stored ⟨info, contents "a"⟩ := by
  intro contents actions
  have metadata : Inbound.decode (Inbound.fileInfo twoOctets).encode = .ok (.fileInfo twoOctets) :=
    Inbound.decode_encode_fileInfo (by decide)
  have piece : Inbound.decode (Inbound.fileChunk "a" ⟨0, [1, 2]⟩).encode =
      .ok (.fileChunk "a" ⟨0, [1, 2]⟩) := Inbound.decode_encode_fileChunk "a" (by decide)
  have truthful : ∀ action ∈ actions, ∀ key reply, action.reply? = some (key, reply) →
      reply.Fits contents key := by
    intro action member key reply comes
    simp only [actions, List.mem_cons, List.not_mem_nil, or_false] at member
    rcases member with rfl | rfl | rfl | rfl | rfl | rfl | rfl | rfl | rfl <;>
      simp only [Action.reply?, metadata, piece, Inbound.reply?, Option.some.injEq,
        Prod.mk.injEq, reduceCtorEq] at comes <;> obtain ⟨rfl, rfl⟩ := comes <;>
      simp [Reply.Fits, contents, twoOctets]
  -- Frames are read by a recursion that no evaluation opens, so the client is followed from one reply
  -- to the next.
  have reached : ∀ count, Reachable .loopback ((Client.initial .loopback).run (actions.take count)) :=
    fun _ => Reachable.initial.run _
  have told : (Client.initial .loopback).run (actions.take 5) = _ :=
    @step_receive_reply _ (reached 4).sound rfl 1 _ _ _ _ _ rfl rfl metadata rfl
  have toldTwice : (Client.initial .loopback).run (actions.take 6) = _ :=
    @step_receive_reply _ (reached 5).sound (by rw [told]; rfl) 1 _ _ _ _ _ (by rw [told]; rfl) rfl
      metadata rfl
  rw [told] at toldTwice
  have asked : (Client.initial .loopback).run (actions.take 7) = _ :=
    congrArg (Client.step · (.poll 0)) toldTwice
  have received : (Client.initial .loopback).run (actions.take 8) = _ :=
    @step_receive_reply _ (reached 7).sound (by rw [asked]; rfl) 1 _ _ _ _ _ (by rw [asked]; rfl) rfl
      piece rfl
  rw [asked] at received
  have whole : (Client.initial .loopback).run actions = _ :=
    congrArg (Client.step · (.poll 1)) received
  have early : .started 1 (.download "a" .caller) ∈
      ((Client.initial .loopback).run (actions.take 4)).trace :=
    .tail _ (.tail _ (.tail _ (.head _)))
  have started : .started 1 (.download "a" .caller) ∈
      ((Client.initial .loopback).run actions).trace := by
    rw [← List.take_append_drop 4 actions, run_append]
    exact run_remembers (reached 4).sound _ early
  have finished : .finished 1 [⟨2, 2⟩] (.ok (.file ⟨twoOctets, [1, 2]⟩)) ∈
      ((Client.initial .loopback).run actions).trace := by
    rw [whole]
    exact List.mem_cons_self
  exact ⟨_, finished, download_integrity .loopback contents actions truthful started finished⟩

end RemoteAgent.Client
