import CrossCheck.Comparison
import CrossCheck.Compilation
import CrossCheck.Environment
import CrossCheck.Reconciliation
import CrossCheck.Report
import CrossCheck.Resolution
import CrossCheck.Token

/-!
Comparing one object across two environments, from the words of a request to the report.
-/

namespace CrossCheck

structure Request where
  object : String
  tokens : List String
  filter : Option String
  sampleSize : Int

/-- A comparison that is ready to be run. -/
structure Planned where
  object : String
  metrics : List ResolvedMetric
  plan : Plan
  sampleQuery : Option String
  sourceSchema : ObjectSchema
  targetSchema : ObjectSchema

/-- Both environments, the cache they share, what each has come to, and what was reported. -/
structure Service (σ ε : Type) where
  source : Environment σ ε
  target : Environment σ ε
  sourceState : σ
  targetState : σ
  cache : Cache
  /-- Seconds that both evaluations may take; none for as long as they need. -/
  timeout : Option Number
  events : List Event := []

namespace Service

inductive Error (ε : Type) where
  | token (e : Token.Error)
  | description (e : Discovery.Error ε)
  | resolution (e : Resolution.Error)
  | reconciliation (e : Reconciliation.Error)
  | compilation (e : Compilation.Error)
  | comparison (e : Comparison.Error ε)

variable {σ ε : Type}

def plannedEvent (p : Planned) : Event :=
  ⟨.info, "comparison_planned",
    [("object", .text p.object), ("metrics", .int p.metrics.length),
     ("conditional_queries", .int p.plan.conditionals.length),
     ("sampling", .bool p.sampleQuery.isSome)]⟩

/-- A step of planning on what has been reported so far. -/
abbrev Planning (ε α : Type) := Session (List Event) (Error ε) α

def report (events : List Event) : Planning ε Unit := modify (· ++ events)

/-- The metrics in the terms of one environment. -/
def resolveIn (s : ObjectSchema) (environment : String) (metrics : List Metric) :
    Planning ε (List ResolvedMetric) := do
  let resolved ← Session.ofExcept .resolution (Resolution.resolve s environment metrics)
  report [Resolution.resolvedEvent s environment resolved.length]
  return resolved

/-- Everything after both descriptions: no environment is asked any more. -/
def planFrom (metrics : List Metric) (source target : ObjectSchema) (r : Request) :
    Planning ε Planned := do
  let s ← resolveIn source "source" metrics
  let t ← resolveIn target "target" metrics
  report (Reconciliation.driftEvents s t)
  let both ← Session.ofExcept .reconciliation (Reconciliation.reconcile s t)
  let plan ← Session.ofExcept .compilation (Compilation.compile source.name both r.filter)
  let planned : Planned :=
    ⟨source.name, both, plan, plan.sampleQuery? r.sampleSize, source, target⟩
  report [Compilation.compiledEvent plan, plannedEvent planned]
  return planned

/-- Both environments describe the object, the second also when the first could not. -/
def describeBoth (v : Service σ ε) (now : Binary64) (object : String) :
    Except (Error ε) (ObjectSchema × ObjectSchema) × Service σ ε :=
  let s := Discovery.describe v.source.toSchemaSource v.cache now object v.sourceState
  let t := Discovery.describe v.target.toSchemaSource s.cache now object v.targetState
  let v := { v with
    sourceState := s.state, targetState := t.state, cache := t.cache
    events := v.events ++ s.events ++ t.events }
  match s.result, t.result with
  | .error e, _ => (.error (.description e), v)
  | _, .error e => (.error (.description e), v)
  | .ok s, .ok t => (.ok (s, t), v)

/-- Nothing is run beyond the two descriptions. -/
def plan (v : Service σ ε) (now : Binary64) (r : Request) :
    Except (Error ε) Planned × Service σ ε :=
  match Metric.ofTokens r.tokens with
  | .error e => (.error (.token e), v)
  | .ok metrics =>
    match v.describeBoth now r.object with
    | (.error e, v) => (.error e, v)
    | (.ok (s, t), v) =>
      let (planned, events) := planFrom metrics s t r v.events
      (planned, { v with events })

def environmentInfo (e : Environment σ ε) : EnvironmentInfo :=
  ⟨e.name, e.environmentId.getD "", e.schemaVersion⟩

def runQueries (p : Planned) : RunQueries :=
  ⟨p.plan.query, p.plan.conditionals.map (·.query), p.sampleQuery⟩

def reportOf (v : Service σ ε) (p : Planned) (sampleSize : Int) (c : Comparison) : Report :=
  { object := p.object
    rows := c.rows
    filter := p.plan.filter
    sampleSize
    source := environmentInfo v.source
    target := environmentInfo v.target
    queries := runQueries p
    sourceSamples := c.source.samples
    targetSamples := c.target.samples
    cacheMinutes := if v.cache.isDisabled then 0 else v.cache.minutes }

def ofResult : Except (Evaluation.Error ε) Evaluation → Comparison.Outcome ε
  | .ok e => .done e
  | .error e => .failed e

/-- Both evaluations run side by side. -/
def evaluateBoth (v : Service σ ε) (p : Planned) :
    Except (Error ε) Comparison × Service σ ε :=
  let (s, sourceState) := Evaluation.evaluate v.source.toBackend p.plan p.sampleQuery v.sourceState
  let (t, targetState) := Evaluation.evaluate v.target.toBackend p.plan p.sampleQuery v.targetState
  let v := { v with sourceState, targetState }
  match Comparison.combine v.timeout (ofResult s) (ofResult t) with
  | .error e => (.error (.comparison e), v)
  | .ok (s, t) =>
    match Comparison.ofEvaluations p.plan s t with
    | .error e => (.error (.comparison (.row e)), v)
    | .ok c =>
      (.ok c, { v with events := v.events ++ [Comparison.evaluatedEvent p.plan c.source c.target] })

def compare (v : Service σ ε) (now : Binary64) (r : Request) :
    Except (Error ε) Report × Service σ ε :=
  match v.plan now r with
  | (.error e, v) => (.error e, v)
  | (.ok p, v) =>
    match v.evaluateBoth p with
    | (.error e, v) => (.error e, v)
    | (.ok c, v) => (.ok (v.reportOf p r.sampleSize c), v)

end Service
end CrossCheck
