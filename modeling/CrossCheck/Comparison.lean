import CrossCheck.Comparison.Row
import CrossCheck.Evaluation
import CrossCheck.Log.Event

/-!
Comparing two environments: both evaluate the plan at the same time, and rows are assembled once
both are done.
-/

namespace CrossCheck

structure Comparison where
  rows : List Row
  source : Evaluation
  target : Evaluation

namespace Comparison

inductive Error (ε : Type) where
  | evaluation (e : Evaluation.Error ε)
  | timeout (seconds : Binary64)
  /-- The time allowed is too large a number. -/
  | limit
  | row (e : Row.Error)

/-- The message of a comparison that took longer than allowed. -/
def timeoutMessage (seconds : Binary64) : String :=
  "Comparison did not finish within " ++ seconds.generalText ++ " seconds."

/-- How an evaluation ended within the time allowed. -/
inductive Outcome (ε : Type) where
  | done (e : Evaluation)
  | failed (e : Evaluation.Error ε)
  | unfinished

variable {ε : Type}

/-- The longest time that a clock can be set to, in nanoseconds. -/
def longestWait : Nat := Nat.pow 2 63 - 1

def nanoseconds : Nat := Nat.pow 10 9

/-- Whether a number of seconds is more than a clock can be set to. -/
def isTooLong : Number → Bool
  | .int n => longestWait < n * nanoseconds
  | .float x => x ≠ .nan && !(x.mul (.ofRatio false nanoseconds 1)).leInt longestWait

/-- Why an evaluation that is not finished has failed. -/
def expired (seconds : Number) : Error ε :=
  match seconds.toBinary64 with
  | .ok x => if isTooLong seconds then .limit else .timeout x
  | .error _ => .limit

/-- A failure counts at once, the source's first; otherwise both have to finish in time. -/
def combine (seconds : Option Number) : (source target : Outcome ε) →
    Except (Error ε) (Evaluation × Evaluation)
  | .failed e, _ => .error (.evaluation e)
  | _, .failed e => .error (.evaluation e)
  | .done s, .done t => .ok (s, t)
  | _, _ => .error (expired (seconds.getD (.int 0)))

def ofEvaluations (p : Plan) (source target : Evaluation) : Except Row.Error Comparison := do
  let rows ← Row.assembleAll p.definitions source.values target.values
  return ⟨rows, source, target⟩

def evaluatedEvent (p : Plan) (source target : Evaluation) : Event :=
  ⟨.info, "environments_evaluated",
    [("object", .text p.object),
     ("source_aggregates", .int source.aggregates.length),
     ("target_aggregates", .int target.aggregates.length),
     ("source_samples", .int source.samples.length),
     ("target_samples", .int target.samples.length)]⟩

end Comparison
end CrossCheck
