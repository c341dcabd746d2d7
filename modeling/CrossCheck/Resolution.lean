import CrossCheck.Log.Event
import CrossCheck.Metric
import CrossCheck.Schema

/-!
Settling metrics against one environment's schema.
-/

namespace CrossCheck
namespace Resolution

inductive Error where
  | fieldNotFound (object field environment : String)
  | notAggregatable (object field environment use : String)
  | unsupportedType (object field type environment use required : String)
  | unsupportedMetric (e : UnsupportedMetric)
deriving DecidableEq

namespace Error

/-- `use` is written in capitals here; all uses are words of ASCII letters and underscores. -/
def message : Error → String
  | fieldNotFound object field environment =>
    "Field \"" ++ field ++ "\" not found on object " ++ object ++ " in " ++ environment ++ "."
  | notAggregatable object field environment use =>
    "Field \"" ++ field ++ "\" on " ++ object ++ " in " ++ environment ++
      " is not aggregatable for " ++ Text.upper use ++ " metric."
  | unsupportedType object field type environment use required =>
    "Field \"" ++ field ++ "\" (" ++ type ++ ") on " ++ object ++ " in " ++ environment ++
      " must be " ++ required ++ " for " ++ Text.upper use ++ " metric."
  | unsupportedMetric e => e.message

end Error

variable (schema : ObjectSchema) (environment : String)

/-- The field that a metric refers to, if it can be aggregated at all. -/
def aggregatableField (reference use : String) : Except Error Field :=
  match schema.field? reference with
  | none => .error (.fieldNotFound schema.name (Text.strip reference) environment)
  | some f =>
    if f.aggregatable then .ok f
    else .error (.notAggregatable schema.name f.name environment use)

def wrongType (f : Field) (use required : String) : Error :=
  .unsupportedType schema.name f.name f.type environment use required

/-- An empty label gives way to the name. -/
def resolvedField (f : Field) : ResolvedField :=
  ⟨f.name, f.type, match f.label with
    | some label => if label = "" then f.name else label
    | none => f.name⟩

/-- Only the extremes of a temporal field are dates. -/
def aggregateType (function : AggregateFunction) (f : Field) : ValueType :=
  if function.isExtreme && f.isTemporal then .date else .number

def resolveAggregate (a : FieldAggregate) : Except Error ResolvedAggregate := do
  let f ← aggregatableField schema environment a.field a.function.name
  if a.function.isExtreme then
    if !(f.isNumeric || f.isTemporal) then
      throw (wrongType schema environment f a.function.name "numeric or date/time")
  else if !f.isNumeric then
    throw (wrongType schema environment f a.function.name "numeric")
  return ⟨a.function, resolvedField f, aggregateType a.function f⟩

/-- Conditions are free text: nothing in them is looked up. -/
def resolveMetric : Metric → Except Error ResolvedMetric
  | .count => return .count .number
  | .fieldAggregate a => return .fieldAggregate (← resolveAggregate schema environment a)
  | .countDistinct reference => do
    let f ← aggregatableField schema environment reference "count_distinct"
    return .countDistinct (resolvedField f) .number
  | .ratio n d => do
    let n ← resolveAggregate schema environment n
    let d ← resolveAggregate schema environment d
    return .ratio n d .number
  | .countIf condition => return .countIf condition .number
  | .sumIf reference condition => do
    let f ← aggregatableField schema environment reference "sum_if"
    if !f.isNumeric then throw (wrongType schema environment f "sum_if" "numeric")
    return .sumIf (resolvedField f) condition .number
  | .other _ name => throw (.unsupportedMetric ⟨name⟩)

/-- All metrics in order, or the error of the first that cannot be settled. -/
def resolve (metrics : List Metric) : Except Error (List ResolvedMetric) :=
  metrics.mapM (resolveMetric schema environment)

/-- Reported once all metrics are settled. -/
def resolvedEvent (count : Nat) : Event :=
  ⟨.debug, "metrics_validated",
    [("environment", .text environment), ("object", .text schema.name),
      ("metric_count", .int count)]⟩

end Resolution
end CrossCheck
