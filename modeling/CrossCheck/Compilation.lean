import CrossCheck.Alias
import CrossCheck.Condition
import CrossCheck.Log.Event
import CrossCheck.Plan

/-!
Compiling resolved metrics into a plan.  Plain aggregates and the legs of ratios become columns of
one shared query, each call once.  Every conditional metric gets a query of its own, each
condition once.
-/

namespace CrossCheck
namespace Compilation

inductive Error where
  | noMetrics
  | unsupportedMetric (e : UnsupportedMetric)
deriving DecidableEq

namespace Error

def message : Error → String
  | noMetrics => "At least one metric is required to build an aggregate query."
  | unsupportedMetric e => e.message

end Error

/-- A blank filter is no filter. -/
def normalizeFilter (filter : Option String) : Option String :=
  filter.bind fun s => if Text.strip s = "" then none else some (Text.strip s)

/-- A plan in the making.  Calls are their own keys; a conditional query is kept under its metric
with the condition as the user wrote it. -/
structure Draft where
  expressions : List Expression
  conditionals : List (String × ConditionalQuery)
  metricAliases : List String
  sampleFields : List String

namespace Draft

def empty : Draft := ⟨[], [], [], []⟩

def sample (d : Draft) (field : String) : Draft :=
  if d.sampleFields.contains field then d
  else { d with sampleFields := d.sampleFields ++ [field] }

/-- The alias of a call, which becomes a column unless it is one already. -/
def column (d : Draft) (call base : String) (valueType : ValueType) : String × Draft :=
  match d.expressions.find? (·.call == call) with
  | some e => (e.aliasName, d)
  | none =>
    let aliasName := Alias.unique (d.expressions.map (·.aliasName)) base
    (aliasName, { d with expressions := d.expressions ++ [⟨aliasName, call, valueType⟩] })

def aggregate (d : Draft) (a : ResolvedAggregate) : String × Draft :=
  (d.sample a.field.name).column a.displayName
    (Alias.sanitize (a.function.name ++ "__" ++ a.field.name)) a.valueType

end Draft

/-- The part of an alias that a condition makes up. -/
def conditionPart (condition : String) : String :=
  let part := (Alias.sanitizeChars condition.toList).take 40
  if part.isEmpty then "expr" else String.ofList part

/-- Both the filter of the plan and the condition of the metric hold. -/
def bothHold (filter : Option String) (condition : String) : String :=
  match filter with
  | some f => "(" ++ f ++ ") AND (" ++ condition ++ ")"
  | none => condition

section
variable (object : String) (filter : Option String)

/-- The alias of a conditional query, which is added unless the same metric has one. -/
def conditional (d : Draft) (key call condition start : String) : String × Draft :=
  match d.conditionals.lookup key with
  | some q => (q.aliasName, d)
  | none =>
    let normal := Condition.normalize condition
    let aliasName := Alias.unique (d.conditionals.map (·.2.aliasName))
      (Alias.sanitize (start ++ conditionPart normal))
    let query := selectQuery object (call ++ " " ++ aliasName) (some (bothHold filter normal))
    (aliasName, { d with
      conditionals := d.conditionals ++ [(key, ⟨aliasName, call, normal, query, .number⟩)] })

/-- A metric that reads one alias.  Metrics that are the same share it, so nothing is numbered
here. -/
def directly (metric : ResolvedMetric) (made : String × Draft) : Definition × Draft :=
  (.direct metric made.1, { made.2 with metricAliases := made.2.metricAliases ++ [made.1] })

def ratioBase (n d : ResolvedAggregate) : String :=
  Alias.sanitize ("ratio__" ++ n.function.name ++ "_" ++ n.field.name ++ "_" ++
    d.function.name ++ "_" ++ d.field.name)

def compileMetric (d : Draft) (m : ResolvedMetric) :
    Except UnsupportedMetric (Definition × Draft) :=
  match m with
  | .count t => .ok (directly m (d.column "COUNT(Id)" "count__all" t))
  | .fieldAggregate a => .ok (directly m (d.aggregate a))
  | .countDistinct f t =>
    .ok (directly m ((d.sample f.name).column m.displayName
      (Alias.sanitize ("count_distinct__" ++ f.name)) t))
  | .ratio n q _ =>
    let (numerator, d) := d.aggregate n
    let (denominator, d) := d.aggregate q
    let aliasName := Alias.unique d.metricAliases (ratioBase n q)
    .ok (.ratio m aliasName numerator denominator,
      { d with metricAliases := d.metricAliases ++ [aliasName] })
  | .countIf c _ =>
    .ok (directly m (conditional object filter d ("count_if:[" ++ c ++ "]") "COUNT(Id)" c
      "count_if__"))
  | .sumIf f c _ =>
    .ok (directly m (conditional object filter (d.sample f.name)
      ("sum_if:" ++ f.name ++ ":[" ++ c ++ "]") ("SUM(" ++ f.name ++ ")") c
      ("sum_if__" ++ f.name ++ "_")))
  | .other _ name => .error ⟨name⟩

def compileMetrics (d : Draft) : List ResolvedMetric →
    Except UnsupportedMetric (List Definition × Draft)
  | [] => .ok ([], d)
  | m :: ms => do
    let (definition, d) ← compileMetric object filter d m
    let (definitions, d) ← compileMetrics d ms
    return (definition :: definitions, d)

/-- The finished plan of a draft. -/
def finish (definitions : List Definition) (d : Draft) : Plan :=
  let columns := ", ".intercalate (d.expressions.map fun e => e.call ++ " " ++ e.aliasName)
  { object, filter, definitions,
    query := if d.expressions.isEmpty then none else some (selectQuery object columns filter),
    expressions := d.expressions,
    conditionals := d.conditionals.map (·.2),
    sampleFields := d.sampleFields }

end

/-- Compiles the metrics in order. -/
def compile (object : String) (metrics : List ResolvedMetric) (filter : Option String) :
    Except Error Plan :=
  if metrics.isEmpty then .error .noMetrics
  else
    let filter := normalizeFilter filter
    match compileMetrics object filter .empty metrics with
    | .error e => .error (.unsupportedMetric e)
    | .ok (definitions, d) => .ok (finish object filter definitions d)

def compiledEvent (p : Plan) : Event :=
  ⟨.debug, "plan_compiled",
    [("object", .text p.object), ("metrics", .int p.definitions.length),
     ("shared_expressions", .int p.expressions.length),
     ("conditional_queries", .int p.conditionals.length)]⟩

end Compilation

/-- Compiles once.  Until that succeeds its metrics and filter may change; afterwards it answers
with the same plan whatever happens to them.  What a compilation works on stays with the builder,
also where a metric is refused in the middle of the list. -/
structure Builder where
  object : String
  metrics : List ResolvedMetric
  filter : Option String
  /-- The filter of the last compilation, normalized. -/
  appliedFilter : Option String
  draft : Compilation.Draft
  plan : Option Plan

namespace Builder

def start (object : String) (metrics : List ResolvedMetric) (filter : Option String) : Builder :=
  ⟨object, metrics, filter, none, .empty, none⟩

def append (b : Builder) (metrics : List ResolvedMetric) : Builder :=
  { b with metrics := b.metrics ++ metrics }

def setFilter (b : Builder) (filter : Option String) : Builder := { b with filter }

/-- A compilation begins with nothing, whatever an earlier one has left. -/
def reset (b : Builder) : Builder :=
  { b with appliedFilter := Compilation.normalizeFilter b.filter, draft := .empty }

/-- Adds a metric to the draft, unless the metric is refused. -/
def add (b : Builder) (m : ResolvedMetric) : Except UnsupportedMetric Definition × Builder :=
  match Compilation.compileMetric b.object b.appliedFilter b.draft m with
  | .ok (definition, draft) => (.ok definition, { b with draft })
  | .error e => (.error e, b)

/-- Adds metrics in order, up to the first that is refused. -/
def addAll (b : Builder) :
    List ResolvedMetric → Except UnsupportedMetric (List Definition) × Builder
  | [] => (.ok [], b)
  | m :: ms =>
    match b.add m with
    | (.error e, b) => (.error e, b)
    | (.ok definition, b) =>
      match b.addAll ms with
      | (.error e, b) => (.error e, b)
      | (.ok definitions, b) => (.ok (definition :: definitions), b)

def compile (b : Builder) : Except Compilation.Error Plan × Builder :=
  if b.metrics.isEmpty then (.error .noMetrics, b)
  else
    match b.reset.addAll b.metrics with
    | (.error e, b) => (.error (.unsupportedMetric e), b)
    | (.ok definitions, b) =>
      (.ok (Compilation.finish b.object b.appliedFilter definitions b.draft), b)

def build (b : Builder) : Except Compilation.Error Plan × Builder :=
  match b.plan with
  | some p => (.ok p, b)
  | none =>
    match b.compile with
    | (.ok p, b) => (.ok p, { b with plan := some p })
    | (.error e, b) => (.error e, b)

end Builder
end CrossCheck
