import CrossCheck.Backend
import CrossCheck.Measurement
import CrossCheck.Plan

/-!
Evaluating a plan in one environment: the shared query, then every conditional query, then the
sample query, one after another until one fails.
-/

namespace CrossCheck

/-- What one environment measured, by alias. -/
structure Evaluation where
  aggregates : Named Cell
  samples : List Record

namespace Evaluation

inductive Error (ε : Type) where
  | backend (e : ε)
  | arithmetic (e : ArithmeticError)

variable {σ ε : Type}

abbrev Step (σ ε α : Type) := Session σ (Error ε) α

def ask {α : Type} (session : Session σ ε α) : Step σ ε α := fun s =>
  match session s with
  | (.ok a, s) => (.ok a, s)
  | (.error e, s) => (.error (.backend e), s)

/-- The cell of an alias in the record of a query. -/
def cell (record : Record) (aliasName : String) (valueType : ValueType) :
    Except ArithmeticError Cell :=
  Cell.normalize valueType ((record.get? aliasName).getD .null)

def measure (aggregates : Named Cell) (record : Record) (aliasName : String)
    (valueType : ValueType) :
    Step σ ε (Named Cell) :=
  match cell record aliasName valueType with
  | .ok c => pure (aggregates.set aliasName c)
  | .error e => throw (.arithmetic e)

def measureShared (aggregates : Named Cell) (record : Record) : List Expression →
    Step σ ε (Named Cell)
  | [] => pure aggregates
  | e :: es => do
    let aggregates ← measure aggregates record e.aliasName e.valueType
    measureShared aggregates record es

def askConditionals (b : Backend σ ε) (aggregates : Named Cell) : List ConditionalQuery →
    Step σ ε (Named Cell)
  | [] => pure aggregates
  | q :: qs => do
    let record ← ask (b.aggregate q.query)
    let aggregates ← measure aggregates record q.aliasName q.valueType
    askConditionals b aggregates qs

/-- An empty query is as good as none. -/
def given? (query : Option String) : Option String := query.filter (· ≠ "")

def askShared (b : Backend σ ε) (p : Plan) : Step σ ε (Named Cell) :=
  match given? p.query with
  | some query => do measureShared [] (← ask (b.aggregate query)) p.expressions
  | none => pure []

def askSample (b : Backend σ ε) (sampleQuery : Option String) : Step σ ε (List Record) :=
  match given? sampleQuery with
  | some query => ask (b.sample query)
  | none => pure []

def evaluate (b : Backend σ ε) (p : Plan) (sampleQuery : Option String) : Step σ ε Evaluation := do
  let aggregates ← askShared b p
  let aggregates ← askConditionals b aggregates p.conditionals
  let samples ← askSample b sampleQuery
  return ⟨aggregates, samples⟩

/-- The measured values as a record, which rows are assembled from. -/
def values (e : Evaluation) : Record :=
  e.aggregates.map fun (aliasName, c) => (aliasName, c.toValue)

end Evaluation
end CrossCheck
