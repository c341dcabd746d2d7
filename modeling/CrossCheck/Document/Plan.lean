import CrossCheck.Document.Metric
import CrossCheck.Plan

/-!
Plans as documents.
-/

namespace CrossCheck
namespace Document

def expression? (v : Value) : Option Expression := do
  let r ← record? v
  let valueType ← required r "value_type" fun v => (text? v).bind ValueType.ofName?
  return ⟨← required r "alias" text?, ← required r "soql" text?, valueType⟩

def isRatio : ResolvedMetric → Bool
  | .ratio _ _ _ => true
  | _ => false

/-- A ratio definition holds a ratio and a direct one does not.  As in the legs of a ratio, the
kind of the metric may be left out where only one is possible. -/
def ratioMetric? (v : Value) : Option ResolvedMetric := do
  let r ← record? v
  let kind ← withDefault r "kind" "ratio" kind?
  if kind = "ratio" then resolvedMetric? (.record (r.set "kind" (.text "ratio"))) else none

def directMetric? (v : Value) : Option ResolvedMetric :=
  (resolvedMetric? v).filter (!isRatio ·)

def definition? (v : Value) : Option Definition := do
  let r ← record? v
  let kind ← required r "kind" kind?
  match kind with
  | "direct" => return .direct (← required r "metric" directMetric?) (← required r "alias" text?)
  | "ratio" =>
    return .ratio (← required r "metric" ratioMetric?) (← required r "alias" text?)
      (← required r "numerator_alias" text?) (← required r "denominator_alias" text?)
  | _ => none

def conditional? (v : Value) : Option ConditionalQuery := do
  let r ← record? v
  return ⟨← required r "alias" text?, ← required r "soql" text?, ← required r "condition" text?,
    ← required r "aggregate_query" text?, ← valueType? r⟩

def plan? (v : Value) : Option Plan := do
  let r ← record? v
  return {
    object := ← required r "object_name" text?
    filter := ← optional r "where_clause" text?
    query := ← optional r "aggregate_query" text?
    expressions := ← withDefault r "expressions" [] (items expression?)
    definitions := ← withDefault r "metrics" [] (items definition?)
    conditionals := ← withDefault r "conditional_metrics" [] (items conditional?)
    sampleFields := ← withDefault r "sample_fields" [] (items text?) }

def ofExpression (e : Expression) : Value :=
  .record [("alias", .text e.aliasName), ("soql", .text e.call),
    ("value_type", ofValueType e.valueType)]

def ofDefinition : Definition → Value
  | .direct m aliasName =>
    .record [("kind", .text "direct"), ("metric", ofResolvedMetric m), ("alias", .text aliasName)]
  | .ratio m aliasName numerator denominator =>
    .record [("kind", .text "ratio"), ("metric", ofResolvedMetric m), ("alias", .text aliasName),
      ("numerator_alias", .text numerator), ("denominator_alias", .text denominator)]
  | .other name => .record [("kind", .text name)]

def ofConditional (q : ConditionalQuery) : Value :=
  .record [("alias", .text q.aliasName), ("soql", .text q.call), ("condition", .text q.condition),
    ("aggregate_query", .text q.query), ("value_type", ofValueType q.valueType)]

def ofPlan (p : Plan) : Value :=
  .record [("object_name", .text p.object), ("where_clause", ofText? p.filter),
    ("aggregate_query", ofText? p.query), ("expressions", .list (p.expressions.map ofExpression)),
    ("metrics", .list (p.definitions.map ofDefinition)),
    ("conditional_metrics", .list (p.conditionals.map ofConditional)),
    ("sample_fields", .list (p.sampleFields.map .text))]

end Document
end CrossCheck
