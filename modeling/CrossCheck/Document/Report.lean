import CrossCheck.Document.Metric
import CrossCheck.Report

/-!
Reports as documents.
-/

namespace CrossCheck
namespace Document

/-- A difference, which may be written as text. -/
def difference? (v : Value) : Option Number :=
  match text? v, Cell.admit? v with
  | some s, _ => Lenient.number? s
  | none, some (.number n) => some n
  | none, _ => none

def row? (v : Value) : Option Row := do
  let r ← record? v
  return ⟨← required r "metric" resolvedMetric?, ← required r "alias" text?,
    ← withDefault r "source_value" .null Cell.admit?,
    ← withDefault r "target_value" .null Cell.admit?, ← optional r "difference" difference?⟩

def environmentInfo? (v : Value) : Option EnvironmentInfo := do
  let r ← record? v
  return ⟨← required r "name" text?, ← required r "environment_id" text?,
    ← required r "schema_version" text?⟩

def runQueries? (v : Value) : Option RunQueries := do
  let r ← record? v
  return ⟨← optional r "aggregate" text?, ← withDefault r "conditional" [] (items text?),
    ← optional r "sample" text?⟩

def sampleRows? (v : Value) : Option (List Record × List Record) := do
  let r ← record? v
  return (← withDefault r "source" [] (items record?), ← withDefault r "target" [] (items record?))

def filters? (v : Value) : Option (Option String × Int) := do
  let r ← record? v
  return (← optional r "where" text?, ← withDefault r "sample_size" 0 int?)

def report? (v : Value) : Option Report := do
  let r ← record? v
  let (filter, sampleSize) ← required r "filters" filters?
  let (sourceSamples, targetSamples) ← withDefault r "samples" ([], []) sampleRows?
  return {
    object := ← required r "object" text?
    rows := ← required r "metrics" (items row?)
    filter, sampleSize
    source := ← required r "source" environmentInfo?
    target := ← required r "target" environmentInfo?
    queries := ← required r "queries" runQueries?
    sourceSamples, targetSamples
    cacheMinutes := ← withDefault r "metadata_cache_minutes" 0 int? }

def ofNumber : Number → Value
  | .int n => .int n
  | .float x => .float x

def ofRow (r : Row) : Value :=
  .record [("metric", ofResolvedMetric r.metric), ("alias", .text r.aliasName),
    ("source_value", r.source.toValue), ("target_value", r.target.toValue),
    ("difference", ofOption ofNumber r.difference)]

def ofEnvironmentInfo (e : EnvironmentInfo) : Value :=
  .record [("name", .text e.name), ("environment_id", .text e.id),
    ("schema_version", .text e.schemaVersion)]

def ofRunQueries (q : RunQueries) : Value :=
  .record [("aggregate", ofText? q.aggregate), ("conditional", .list (q.conditional.map .text)),
    ("sample", ofText? q.sample)]

def ofReport (r : Report) : Value :=
  .record [("object", .text r.object), ("metrics", .list (r.rows.map ofRow)),
    ("filters", .record [("where", ofText? r.filter), ("sample_size", .int r.sampleSize)]),
    ("source", ofEnvironmentInfo r.source), ("target", ofEnvironmentInfo r.target),
    ("queries", ofRunQueries r.queries),
    ("samples", .record [("source", .list (r.sourceSamples.map .record)),
      ("target", .list (r.targetSamples.map .record))]),
    ("metadata_cache_minutes", .int r.cacheMinutes)]

end Document
end CrossCheck
