import CrossCheck.Value

/-!
Backends: whatever answers the queries of one environment.
-/

namespace CrossCheck

/-- A computation on the state of a backend.  The state outlives a failure, so that it can tell
what was asked. -/
abbrev Session (σ ε α : Type) := ExceptT ε (StateM σ) α

/-- The outcome of something that touches no state, with its failure under another name. -/
def Session.ofExcept {σ ε α δ : Type} (name : δ → ε) : Except δ α → Session σ ε α
  | .ok a => pure a
  | .error e => throw (name e)

/-- Answers queries one at a time.  `σ` is what a backend remembers and `ε` how it fails. -/
structure Backend (σ ε : Type) where
  /-- The single record of an aggregate query, empty when there is none. -/
  aggregate : String → Session σ ε Record
  sample : String → Session σ ε (List Record)

end CrossCheck
