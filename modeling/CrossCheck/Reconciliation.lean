import CrossCheck.Log.Event
import CrossCheck.Metric

/-!
Whether source and target settled the same metrics.  Both lists come from the same tokens, so a
difference means that the environments disagree about a field, and the numbers would not be
comparable.
-/

namespace CrossCheck
namespace Reconciliation

/-- The sort of metric a difference was found in. -/
inductive Subject where
  | field
  | ratio
  | conditional
deriving DecidableEq

namespace Subject

def title : Subject → String
  | field => "Field"
  | ratio => "Ratio"
  | conditional => "Conditional"

end Subject

inductive Error where
  | lengths (source target : Nat)
  | kinds (position : Nat) (source target : String)
  | differ (position : Nat) (subject : Subject) (source target : String)
  | unsupportedMetric (e : UnsupportedMetric)
deriving DecidableEq

namespace Error

/-- Where the lists differ; lists of different lengths differ nowhere in particular. -/
def position? : Error → Option Nat
  | kinds i _ _ => some i
  | differ i _ _ _ => some i
  | _ => none

def message : Error → String
  | lengths source target =>
    "Metric validation returned inconsistent results between source and target " ++
      "(" ++ toString source ++ " vs " ++ toString target ++ " metrics)."
  | kinds i source target =>
    "Metric #" ++ toString (i + 1) ++ " kinds differ between environments " ++
      "(" ++ source ++ " vs " ++ target ++ ")."
  | differ _ subject source target =>
    subject.title ++ " metric validation differs between source and target: " ++
      source ++ " vs " ++ target ++ "."
  | unsupportedMetric e => e.message

end Error

def sameAggregate (a b : ResolvedAggregate) : Bool :=
  a.function = b.function && a.field.name = b.field.name

/-- The same kind, function, field name and raw condition.  Labels, field types and value types
may differ. -/
def checkPair (i : Nat) (a b : ResolvedMetric) : Except Error Unit :=
  let agree (subject : Subject) (same : Bool) : Except Error Unit :=
    if same then .ok () else .error (.differ i subject a.displayName b.displayName)
  if a.kind ≠ b.kind then .error (.kinds i a.kind b.kind)
  else match a, b with
    | .count _, _ => .ok ()
    | .fieldAggregate x, .fieldAggregate y => agree .field (sameAggregate x y)
    | .countDistinct x _, .countDistinct y _ => agree .field (x.name = y.name)
    | .ratio n d _, .ratio n' d' _ => agree .ratio (sameAggregate n n' && sameAggregate d d')
    | .countIf c _, .countIf c' _ => agree .conditional (c = c')
    | .sumIf x c _, .sumIf y c' _ => agree .conditional (x.name = y.name && c = c')
    | .other _ name, _ => .error (.unsupportedMetric ⟨name⟩)
    | _, _ => .error (.kinds i a.kind b.kind)

def checkPairs : (i : Nat) → List (ResolvedMetric × ResolvedMetric) → Except Error Unit
  | _, [] => .ok ()
  | i, (a, b) :: rest => do
    checkPair i a b
    checkPairs (i + 1) rest

/-- The source list, once every pair agrees. -/
def reconcile (source target : List ResolvedMetric) : Except Error (List ResolvedMetric) := do
  if source.length ≠ target.length then throw (.lengths source.length target.length)
  checkPairs 0 (source.zip target)
  return source

/-- A field that one environment counts as a date and the other as a number is comparable still,
and worth a note. -/
def driftEvent? (i : Nat) (a b : ResolvedMetric) : Option Event :=
  if a.valueType = b.valueType then none
  else some ⟨.warning, "metric_value_type_drift",
    [("position", .int i), ("metric", .text a.displayName),
     ("source_value_type", .text a.valueType.name), ("target_value_type", .text b.valueType.name)]⟩

/-- Notes are taken up to the first pair that disagrees. -/
def driftEventsFrom : (i : Nat) → List (ResolvedMetric × ResolvedMetric) → List Event
  | _, [] => []
  | i, (a, b) :: rest =>
    match checkPair i a b with
    | .error _ => []
    | .ok _ => (driftEvent? i a b).toList ++ driftEventsFrom (i + 1) rest

def driftEvents (source target : List ResolvedMetric) : List Event :=
  if source.length ≠ target.length then [] else driftEventsFrom 0 (source.zip target)

end Reconciliation
end CrossCheck
