/-!
# Agent numbers

Several agents may be registered under one name; a number selects one of them.
-/

namespace RemoteAgent

/-- The number of an agent. -/
structure AgentId where
  value : UInt64
  deriving DecidableEq, Repr

namespace AgentId

/-- The form in which texts and URLs name an agent number. -/
def text (id : AgentId) : String := toString id.value.toNat

/-- Adds a number to an ascending list without repetitions. -/
def insert (id : AgentId) : List AgentId → List AgentId
  | [] => [id]
  | first :: rest =>
    if id.value < first.value then id :: first :: rest
    else if id = first then first :: rest
    else first :: insert id rest

/-- The distinct numbers of a list in ascending order. -/
def ascending (ids : List AgentId) : List AgentId := ids.foldr insert []

end AgentId

end RemoteAgent
