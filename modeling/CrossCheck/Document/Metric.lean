import CrossCheck.Document.Scalar

/-!
Metrics as documents: each is an object whose `kind` says which members it has.
-/

namespace CrossCheck
namespace Document

def aggregate? (v : Value) : Option FieldAggregate := do
  let r ← record? v
  let function ← required r "function" fun v => (text? v).bind AggregateFunction.ofName?
  let field ← required r "field" text?
  return ⟨function, field⟩

/-- A leg of a ratio need not name its kind, but names no other. -/
def leg? {α : Type} (read : Value → Option α) (v : Value) : Option α := do
  let kind ← withDefault (← record? v) "kind" "field_aggregate" kind?
  if kind = "field_aggregate" then read v else none

def metric? (v : Value) : Option Metric := do
  let r ← record? v
  let kind ← required r "kind" kind?
  match kind with
  | "count" => return .count
  | "field_aggregate" => return .fieldAggregate (← aggregate? v)
  | "count_distinct" => return .countDistinct (← required r "field" text?)
  | "ratio" =>
    return .ratio (← required r "numerator" (leg? aggregate?))
      (← required r "denominator" (leg? aggregate?))
  | "count_if" => return .countIf (← required r "condition" text?)
  | "sum_if" => return .sumIf (← required r "field" text?) (← required r "condition" text?)
  | _ => none

def resolvedField? (v : Value) : Option ResolvedField := do
  let r ← record? v
  return ⟨← required r "name" text?, ← required r "type" text?, ← required r "label" text?⟩

def valueType? (r : Record) : Option ValueType :=
  withDefault r "value_type" .number fun v => (text? v).bind ValueType.ofName?

def resolvedAggregate? (v : Value) : Option ResolvedAggregate := do
  let r ← record? v
  let function ← required r "function" fun v => (text? v).bind AggregateFunction.ofName?
  return ⟨function, ← required r "field" resolvedField?, ← valueType? r⟩

def resolvedMetric? (v : Value) : Option ResolvedMetric := do
  let r ← record? v
  let kind ← required r "kind" kind?
  match kind with
  | "count" => return .count (← valueType? r)
  | "field_aggregate" => return .fieldAggregate (← resolvedAggregate? v)
  | "count_distinct" =>
    return .countDistinct (← required r "field" resolvedField?) (← valueType? r)
  | "ratio" =>
    return .ratio (← required r "numerator" (leg? resolvedAggregate?))
      (← required r "denominator" (leg? resolvedAggregate?)) (← valueType? r)
  | "count_if" => return .countIf (← required r "condition" text?) (← valueType? r)
  | "sum_if" =>
    return .sumIf (← required r "field" resolvedField?) (← required r "condition" text?)
      (← valueType? r)
  | _ => none

def ofAggregate (a : FieldAggregate) : Value :=
  .record [("kind", .text "field_aggregate"), ("function", .text a.function.name),
    ("field", .text a.field)]

def ofMetric : Metric → Value
  | .count => .record [("kind", .text "count")]
  | .fieldAggregate a => ofAggregate a
  | .countDistinct f => .record [("kind", .text "count_distinct"), ("field", .text f)]
  | .ratio n d =>
    .record [("kind", .text "ratio"), ("numerator", ofAggregate n), ("denominator", ofAggregate d)]
  | .countIf c => .record [("kind", .text "count_if"), ("condition", .text c)]
  | .sumIf f c =>
    .record [("kind", .text "sum_if"), ("field", .text f), ("condition", .text c)]
  | .other kind _ => .record [("kind", .text kind)]

def ofResolvedField (f : ResolvedField) : Value :=
  .record [("name", .text f.name), ("type", .text f.type), ("label", .text f.label)]

def ofValueType (t : ValueType) : Value := .text t.name

def ofResolvedAggregate (a : ResolvedAggregate) : Value :=
  .record [("kind", .text "field_aggregate"), ("function", .text a.function.name),
    ("field", ofResolvedField a.field), ("value_type", ofValueType a.valueType)]

def ofResolvedMetric : ResolvedMetric → Value
  | .count t => .record [("kind", .text "count"), ("value_type", ofValueType t)]
  | .fieldAggregate a => ofResolvedAggregate a
  | .countDistinct f t =>
    .record [("kind", .text "count_distinct"), ("field", ofResolvedField f),
      ("value_type", ofValueType t)]
  | .ratio n d t =>
    .record [("kind", .text "ratio"), ("numerator", ofResolvedAggregate n),
      ("denominator", ofResolvedAggregate d), ("value_type", ofValueType t)]
  | .countIf c t =>
    .record [("kind", .text "count_if"), ("condition", .text c), ("value_type", ofValueType t)]
  | .sumIf f c t =>
    .record [("kind", .text "sum_if"), ("field", ofResolvedField f), ("condition", .text c),
      ("value_type", ofValueType t)]
  | .other kind _ => .record [("kind", .text kind)]

end Document
end CrossCheck
