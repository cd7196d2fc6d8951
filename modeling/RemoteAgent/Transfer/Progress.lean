/-!
# Progress

How far a transfer has come, in octets and in percent.
-/

namespace RemoteAgent

/-- So many octets of so many. -/
structure Progress where
  done : UInt64
  total : UInt64
  deriving DecidableEq, Repr

/-- The progress in percent. Nothing to transfer counts as complete. -/
def Progress.percent (progress : Progress) : Float :=
  if progress.total = 0 then 100.0
  else progress.done.toFloat / progress.total.toFloat * 100.0

end RemoteAgent
