import Mathlib.Control.Monad.Basic
import RemoteAgent.Proofs.Transfer.Downloads

/-!
# What is told of a call

The lines that tell of a call for files (`Line`), and how they unfold as its transfer goes on
(`Unfolds`). Whatever becomes of its requests, they tell of request after request with the reply to
it, and behind these of the last request at most (`Unfolds.exchanged`).
-/

namespace RemoteAgent

/-- What can be seen of a call for files. -/
inductive Line where
  /-- It makes a request under a key. -/
  | asks (key : RequestKey)
  /-- The frame of its request is accepted for a socket. -/
  | sends (frame : Bytes)
  /-- Its request ends. -/
  | hears (outcome : Except Failure Reply)
  /-- It ends, with the progress that it has reported. -/
  | ends (progress : List Progress) (outcome : Except Failure Delivery)
  deriving DecidableEq

/-- How far a call has come. -/
inductive Stage where
  /-- It has come to a turn of its transfer. -/
  | comes (progress : List Progress) (turn : Transfer.Turn)
  /-- It waits for a request, which has been sent or not. -/
  | waits (progress : List Progress) (transfer : Transfer) (isSent : Bool)
  /-- It is over. -/
  | over

/-- A call rests while it waits, and when it is over. -/
def Stage.isResting : Stage → Bool
  | .comes _ _ => false
  | _ => true

/-- How far a call for an operation has come, and its transcript by then. -/
inductive Unfolds (chunkSize : UInt64) (operation : Operation) : List Line → Stage → Prop where
  | begins : Unfolds chunkSize operation [] (.comes [] (Transfer.begin operation))
  /-- It makes the request that it wants. -/
  | asks {lines : List Line} {progress : List Progress} {transfer : Transfer} {want : Want}
      (before : Unfolds chunkSize operation lines (.comes progress (.go transfer)))
      (wanted : transfer.wants chunkSize = .ok want) :
      Unfolds chunkSize operation (lines ++ [.asks want.key]) (.waits progress transfer false)
  /-- The request is sent. -/
  | sends {lines : List Line} {progress : List Progress} {transfer : Transfer} {want : Want}
      (before : Unfolds chunkSize operation lines (.waits progress transfer false))
      (wanted : transfer.wants chunkSize = .ok want) :
      Unfolds chunkSize operation (lines ++ [.sends want.frame.encode])
        (.waits progress transfer true)
  /-- The reply comes, with which it goes on. -/
  | hears {lines : List Line} {progress : List Progress} {transfer : Transfer} {want : Want}
      {reply : Reply} (before : Unfolds chunkSize operation lines (.waits progress transfer true))
      (wanted : transfer.wants chunkSize = .ok want) (fits : reply.kind = want.awaits) :
      Unfolds chunkSize operation (lines ++ [.hears (.ok reply)])
        (.comes (progress ++ (transfer.resume chunkSize reply).1.toList)
          (transfer.resume chunkSize reply).2)
  /-- The request fails, sent or not, and there is nothing to go on with. -/
  | fails {lines : List Line} {progress : List Progress} {transfer : Transfer} {isSent : Bool}
      (before : Unfolds chunkSize operation lines (.waits progress transfer isSent))
      (failure : Failure) :
      Unfolds chunkSize operation (lines ++ [.hears (.error failure)])
        (.comes progress (.stop (.error failure)))
  /-- It ends as its transfer does. -/
  | stops {lines : List Line} {progress : List Progress} {outcome : Except Failure Delivery}
      (before : Unfolds chunkSize operation lines (.comes progress (.stop outcome))) :
      Unfolds chunkSize operation (lines ++ [.ends progress outcome]) .over
  /-- It ends because what it wants cannot be asked for. -/
  | refuses {lines : List Line} {progress : List Progress} {transfer : Transfer}
      {failure : Failure} (before : Unfolds chunkSize operation lines (.comes progress (.go transfer)))
      (refused : transfer.wants chunkSize = .error failure) :
      Unfolds chunkSize operation (lines ++ [.ends progress (.error failure)]) .over

/-! ## One request after the other -/

/-- A request that is made, and sent or not. -/
def Want.told (want : Want) (isSent : Bool) : List Line :=
  .asks want.key :: if isSent then [.sends want.frame.encode] else []

/-- Requests that are made and sent one after the other, each with its reply before the next. -/
def exchanges (exchanged : List (Want × Reply)) : List Line :=
  exchanged.flatMap fun (want, reply) => want.told true ++ [.hears (.ok reply)]

/-- The request that a line makes. -/
def Line.key? : Line → Option RequestKey
  | .asks key => some key
  | _ => none

/-- The frame that a line sends. -/
def Line.frame? : Line → Option Bytes
  | .sends frame => some frame
  | _ => none

theorem keys_of_exchanges (exchanged : List (Want × Reply)) :
    (exchanges exchanged).filterMap Line.key? = exchanged.map (·.1.key) := by
  induction exchanged with
  | nil => rfl
  | cons pair later inductionHypothesis =>
    exact congrArg (pair.1.key :: ·) inductionHypothesis

theorem frames_of_exchanges (exchanged : List (Want × Reply)) :
    (exchanges exchanged).filterMap Line.frame? = exchanged.map (·.1.frame.encode) := by
  induction exchanged with
  | nil => rfl
  | cons pair later inductionHypothesis =>
    exact congrArg (pair.1.frame.encode :: ·) inductionHypothesis

/-- The reply to each request is heard. -/
theorem heard_of_exchanges {exchanged : List (Want × Reply)} {pair : Want × Reply}
    (member : pair ∈ exchanged) : .hears (.ok pair.2) ∈ exchanges exchanged :=
  List.mem_flatMap.mpr ⟨pair, member, by simp⟩

/-- No call ends while it exchanges requests and replies. -/
theorem not_ends_of_exchanges (exchanged : List (Want × Reply)) (progress : List Progress)
    (outcome : Except Failure Delivery) : .ends progress outcome ∉ exchanges exchanged := by
  simp [exchanges, Want.told]

/-- The last request of a call has no reply: the call waits for it, or has failed with it. -/
inductive Unanswered (want : Want) (progress : List Progress) : List Line → Prop where
  | waits (isSent : Bool) : Unanswered want progress (want.told isSent)
  | failed (isSent : Bool) (failure : Failure) :
      Unanswered want progress
        (want.told isSent ++ [.hears (.error failure), .ends progress (.error failure)])

namespace Unanswered

variable {want : Want} {progress : List Progress} {rest : List Line}

theorem keys (unanswered : Unanswered want progress rest) :
    rest.filterMap Line.key? = [want.key] := by
  cases unanswered with
  | waits isSent => cases isSent <;> rfl
  | failed isSent => cases isSent <;> rfl

/-- Its frame is sent, or is the one that is not. -/
theorem frames (unanswered : Unanswered want progress rest) :
    ∃ unsent, unsent.length ≤ 1 ∧ rest.filterMap Line.frame? ++ unsent = [want.frame.encode] := by
  cases unanswered with
  | waits isSent =>
    cases isSent with
    | false => exact ⟨[want.frame.encode], Nat.le_refl _, rfl⟩
    | true => exact ⟨[], Nat.zero_le _, rfl⟩
  | failed isSent =>
    cases isSent with
    | false => exact ⟨[want.frame.encode], Nat.le_refl _, rfl⟩
    | true => exact ⟨[], Nat.zero_le _, rfl⟩

/-- The last request has no reply. -/
theorem not_hears (unanswered : Unanswered want progress rest) (reply : Reply) :
    .hears (.ok reply) ∉ rest := by
  cases unanswered with
  | waits isSent => cases isSent <;> simp [Want.told]
  | failed isSent => cases isSent <;> simp [Want.told]

/-- With its last request a call fails, and nothing comes after that. -/
theorem ends_of_fails (unanswered : Unanswered want progress rest) {failure : Failure}
    (fails : .hears (.error failure) ∈ rest) :
    ∃ front, rest = front ++ [.hears (.error failure), .ends progress (.error failure)] := by
  cases unanswered with
  | waits isSent => cases isSent <;> simp [Want.told] at fails
  | failed isSent blamed =>
    have same : failure = blamed := by cases isSent <;> simpa [Want.told] using fails
    exact ⟨want.told isSent, by rw [same]⟩

/-- A call ends without a reply to its last request only with the failure of that request, and with the
progress that it had reported. -/
theorem eq_of_ends (unanswered : Unanswered want progress rest) {told : List Progress}
    {outcome : Except Failure Delivery} (ends : .ends told outcome ∈ rest) :
    told = progress ∧ ∃ failure, outcome = .error failure ∧ .hears (.error failure) ∈ rest := by
  cases unanswered with
  | waits isSent => cases isSent <;> simp [Want.told] at ends
  | failed isSent blamed =>
    have same : told = progress ∧ outcome = .error blamed := by
      cases isSent <;> simpa [Want.told] using ends
    exact ⟨same.1, blamed, same.2, by simp⟩

/-- A call ends without a reply to its last request only as that request fails. -/
theorem fails {told : List Progress} {outcome : Except Failure Delivery}
    (unanswered : Unanswered want progress rest) (ends : .ends told outcome ∈ rest) :
    ∃ failure, .hears (.error failure) ∈ rest := by
  obtain ⟨_, failure, _, fails⟩ := unanswered.eq_of_ends ends
  exact ⟨failure, fails⟩

end Unanswered

/-- What follows on the turn that the replies have brought a transfer to, and how far its call has
come with it. -/
inductive Follows (chunkSize : UInt64) (progress : List Progress) :
    Transfer.Turn → List Line → Stage → Prop where
  /-- Nothing yet. -/
  | comes (turn : Transfer.Turn) : Follows chunkSize progress turn [] (.comes progress turn)
  /-- It waits for the reply to its request. -/
  | waits {transfer : Transfer} {want : Want} (wanted : transfer.wants chunkSize = .ok want)
      (isSent : Bool) :
      Follows chunkSize progress (.go transfer) (want.told isSent)
        (.waits progress transfer isSent)
  /-- The request has failed. -/
  | fails {transfer : Transfer} {want : Want} (wanted : transfer.wants chunkSize = .ok want)
      (isSent : Bool) (failure : Failure) :
      Follows chunkSize progress (.go transfer)
        (want.told isSent ++ [.hears (.error failure)]) (.comes progress (.stop (.error failure)))
  /-- The call has failed with its request. -/
  | failed {transfer : Transfer} {want : Want} (wanted : transfer.wants chunkSize = .ok want)
      (isSent : Bool) (failure : Failure) :
      Follows chunkSize progress (.go transfer)
        (want.told isSent ++ [.hears (.error failure), .ends progress (.error failure)]) .over
  /-- The call has failed, since what it wants cannot be asked for. -/
  | refused {transfer : Transfer} {failure : Failure}
      (refused : transfer.wants chunkSize = .error failure) :
      Follows chunkSize progress (.go transfer) [.ends progress (.error failure)] .over
  /-- The call has ended as its transfer does. -/
  | stopped (outcome : Except Failure Delivery) :
      Follows chunkSize progress (.stop outcome) [.ends progress outcome] .over

/-- Whatever is told of a call is what it exchanged, and what follows on that. -/
theorem Unfolds.exchanged {chunkSize : UInt64} {operation : Operation} {lines : List Line}
    {stage : Stage} (unfolds : Unfolds chunkSize operation lines stage) :
    ∃ exchanged progress turn rest,
      Transfer.Reaches chunkSize operation exchanged progress turn ∧
      Follows chunkSize progress turn rest stage ∧ lines = exchanges exchanged ++ rest := by
  induction unfolds with
  | begins => exact ⟨[], [], _, [], .begins, .comes _, rfl⟩
  | asks _ wanted inductionHypothesis =>
    obtain ⟨exchanged, progress, turn, rest, reaches, follows, rfl⟩ := inductionHypothesis
    cases follows with
    | comes =>
      exact ⟨exchanged, _, _, _, reaches, .waits wanted false, by simp [Want.told]⟩
  | sends _ wanted inductionHypothesis =>
    obtain ⟨exchanged, progress, turn, rest, reaches, follows, rfl⟩ := inductionHypothesis
    cases follows with
    | waits asked =>
      cases asked.symm.trans wanted
      exact ⟨exchanged, _, _, _, reaches, .waits wanted true, by simp [Want.told]⟩
  | hears _ wanted fits inductionHypothesis =>
    obtain ⟨exchanged, progress, turn, rest, reaches, follows, rfl⟩ := inductionHypothesis
    cases follows with
    | waits asked =>
      cases asked.symm.trans wanted
      exact ⟨_, _, _, [], reaches.resumes wanted fits, .comes _, by simp [exchanges]⟩
  | fails _ failure inductionHypothesis =>
    obtain ⟨exchanged, progress, turn, rest, reaches, follows, rfl⟩ := inductionHypothesis
    cases follows with
    | waits wanted =>
      exact ⟨exchanged, _, _, _, reaches, .fails wanted _ failure, List.append_assoc ..⟩
  | stops _ inductionHypothesis =>
    obtain ⟨exchanged, progress, turn, rest, reaches, follows, rfl⟩ := inductionHypothesis
    cases follows with
    | comes => exact ⟨exchanged, _, _, _, reaches, .stopped _, by simp⟩
    | fails wanted isSent failure =>
      exact ⟨exchanged, _, _, _, reaches, .failed wanted isSent failure, by simp⟩
  | refuses _ refused inductionHypothesis =>
    obtain ⟨exchanged, progress, turn, rest, reaches, follows, rfl⟩ := inductionHypothesis
    cases follows with
    | comes => exact ⟨exchanged, _, _, _, reaches, .refused refused, by simp⟩

end RemoteAgent
