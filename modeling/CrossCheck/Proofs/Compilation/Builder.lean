import CrossCheck.Proofs.Compilation.Run

/-!
Builders over time.  A builder compiles what it holds until that succeeds once, and from then on
it answers with the same plan.  A compilation that fails leaves a draft behind, and none of it
gets into a later plan.
-/

namespace CrossCheck
namespace Builder

open Compilation

/-! ## One compilation -/

theorem add_of_ok {b : Builder} {m : ResolvedMetric} {definition : Definition} {d : Draft}
    (h : compileMetric b.object b.appliedFilter b.draft m = .ok (definition, d)) :
    b.add m = (.ok definition, { b with draft := d }) := by
  rw [add, h]

theorem add_of_error {b : Builder} {m : ResolvedMetric} {e : UnsupportedMetric}
    (h : compileMetric b.object b.appliedFilter b.draft m = .error e) :
    b.add m = (.error e, b) := by
  rw [add, h]

/-- A builder adds metrics as a compilation from its draft does.  Where one is refused, a draft of
those before it is left. -/
theorem addAll_eq (b : Builder) (ms : List ResolvedMetric) :
    match compileMetrics b.object b.appliedFilter b.draft ms with
    | .ok (definitions, d) => b.addAll ms = (.ok definitions, { b with draft := d })
    | .error e => ∃ d, b.addAll ms = (.error e, { b with draft := d }) := by
  induction ms generalizing b with
  | nil => rfl
  | cons m ms ih =>
    cases hm : compileMetric b.object b.appliedFilter b.draft m with
    | error e =>
      have hall : compileMetrics b.object b.appliedFilter b.draft (m :: ms) = .error e := by
        rw [compileMetrics, hm]
        rfl
      rw [hall]
      exact ⟨b.draft, by rw [addAll, add_of_error hm]⟩
    | ok made =>
      obtain ⟨definition, d⟩ := made
      have hrest := ih { b with draft := d }
      rw [compileMetrics_cons_of_ok b.object b.appliedFilter hm]
      cases hms : compileMetrics b.object b.appliedFilter d ms with
      | error e =>
        rw [hms] at hrest
        obtain ⟨left, hleft⟩ := hrest
        exact ⟨left, by rw [addAll, add_of_ok hm]; simp only [hleft]⟩
      | ok more =>
        obtain ⟨definitions, left⟩ := more
        rw [hms] at hrest
        show b.addAll (m :: ms) = _
        rw [addAll, add_of_ok hm]
        simp only [hrest]

/-- Only the metrics and the filter that a builder holds count, not what an earlier compilation has
left. -/
theorem compile_eq (b : Builder) : ∃ applied d,
    b.compile = (Compilation.compile b.object b.metrics b.filter,
      { b with appliedFilter := applied, draft := d }) := by
  rw [Builder.compile, Compilation.compile]
  split
  · exact ⟨b.appliedFilter, b.draft, rfl⟩
  · have hall := b.reset.addAll_eq b.metrics
    dsimp only [reset] at hall
    cases hms : compileMetrics b.object (normalizeFilter b.filter) .empty b.metrics with
    | error e =>
      rw [hms] at hall
      obtain ⟨left, hleft⟩ := hall
      exact ⟨normalizeFilter b.filter, left, by simp only [reset, hleft, hms]⟩
    | ok made =>
      obtain ⟨definitions, d⟩ := made
      rw [hms] at hall
      exact ⟨normalizeFilter b.filter, d, by simp only [reset, hall, hms]⟩

theorem build_of_some {b : Builder} {p : Plan} (h : b.plan = some p) : b.build = (.ok p, b) := by
  rw [build, h]

/-- A builder without a plan compiles, and keeps the plan if there is one. -/
theorem build_of_none {b : Builder} (h : b.plan = none) : ∃ applied d,
    b.build = (Compilation.compile b.object b.metrics b.filter,
      { b with
        appliedFilter := applied
        draft := d
        plan := (Compilation.compile b.object b.metrics b.filter).toOption }) := by
  obtain ⟨applied, d, hcompile⟩ := b.compile_eq
  refine ⟨applied, d, ?_⟩
  rw [build, h]
  simp only [hcompile]
  cases Compilation.compile b.object b.metrics b.filter with
  | error e => simp only [Except.toOption, ← h]
  | ok p => rfl

/-! ## Builders in use -/

/-- What can happen to a builder, and to the list that it was made from. -/
inductive Step where
  | build
  | extendGiven (metrics : List ResolvedMetric)
  | append (metrics : List ResolvedMetric)
  | setFilter (filter : Option String)

/-- A builder, and the list of its caller. -/
structure Desk where
  given : List ResolvedMetric
  builder : Builder

namespace Desk

def start (object : String) (given : List ResolvedMetric) (filter : Option String) : Desk :=
  ⟨given, .start object given filter⟩

def after (d : Desk) : Step → Desk
  | .build => { d with builder := d.builder.build.2 }
  | .extendGiven ms => { d with given := d.given ++ ms }
  | .append ms => { d with builder := d.builder.append ms }
  | .setFilter filter => { d with builder := d.builder.setFilter filter }

def afterAll (d : Desk) (steps : List Step) : Desk := steps.foldl after d

def outcome? (d : Desk) : Step → Option (Except Compilation.Error Plan)
  | .build => some d.builder.build.1
  | _ => none

/-- How the builds among the steps end, in order. -/
def outcomes (d : Desk) : List Step → List (Except Compilation.Error Plan)
  | [] => []
  | step :: steps => (d.outcome? step).toList ++ (d.after step).outcomes steps

end Desk

/-- The metrics that the steps append to those of the builder. -/
def appended : List Step → List ResolvedMetric
  | [] => []
  | .append ms :: steps => ms ++ appended steps
  | _ :: steps => appended steps

/-- The filter after the steps. -/
def lastFilter (filter : Option String) : List Step → Option String
  | [] => filter
  | .setFilter filter :: steps => lastFilter filter steps
  | _ :: steps => lastFilter filter steps

/-- The steps that happen to the builder. -/
def withoutGiven (steps : List Step) : List Step :=
  steps.filter fun step => !step matches .extendGiven _

/-- The first plan among outcomes. -/
def firstPlan? (outcomes : List (Except Compilation.Error Plan)) : Option Plan :=
  outcomes.findSome? Except.toOption

namespace Desk

theorem outcomes_append (d : Desk) (before later : List Step) :
    d.outcomes (before ++ later) = d.outcomes before ++ (d.afterAll before).outcomes later := by
  induction before generalizing d with
  | nil => rfl
  | cons step before ih =>
    rw [List.cons_append, outcomes, ih, outcomes, List.append_assoc]
    rfl

/-- A builder has the first plan that one of its builds has given. -/
theorem plan_build (b : Builder) :
    b.build.2.plan = b.plan.or b.build.1.toOption := by
  cases h : b.plan with
  | some p => rw [build_of_some h, h, Option.some_or]
  | none =>
    obtain ⟨applied, d, hbuild⟩ := build_of_none h
    rw [hbuild, Option.none_or]

/-- What a build does not change. -/
theorem kept_build (b : Builder) :
    b.build.2.object = b.object ∧ b.build.2.metrics = b.metrics ∧
      b.build.2.filter = b.filter := by
  cases h : b.plan with
  | some p =>
    rw [build_of_some h]
    exact ⟨rfl, rfl, rfl⟩
  | none =>
    obtain ⟨applied, d, hbuild⟩ := build_of_none h
    rw [hbuild]
    exact ⟨rfl, rfl, rfl⟩

/-- What a builder holds after some steps. -/
structure Holds (d : Desk) (steps : List Step) : Prop where
  object : (d.afterAll steps).builder.object = d.builder.object
  metrics : (d.afterAll steps).builder.metrics = d.builder.metrics ++ appended steps
  filter : (d.afterAll steps).builder.filter = lastFilter d.builder.filter steps
  plan : (d.afterAll steps).builder.plan = d.builder.plan.or (firstPlan? (d.outcomes steps))

theorem holds (d : Desk) (steps : List Step) : Holds d steps := by
  induction steps generalizing d with
  | nil => exact ⟨rfl, (List.append_nil _).symm, rfl, (Option.or_none).symm⟩
  | cons step steps ih =>
    have hrest := ih (d.after step)
    cases step with
    | build =>
      obtain ⟨hobject, hmetrics, hfilter⟩ := kept_build d.builder
      refine ⟨hrest.object.trans hobject, hrest.metrics.trans ?_, hrest.filter.trans ?_,
        hrest.plan.trans ?_⟩
      · exact congrArg (· ++ appended steps) hmetrics
      · exact congrArg (lastFilter · steps) hfilter
      · show d.builder.build.2.plan.or _ = _
        rw [plan_build, Option.or_assoc, outcomes, outcome?, firstPlan?, firstPlan?]
        simp only [Option.toList_some, List.singleton_append, List.findSome?_cons]
        cases d.builder.build.1.toOption <;> rfl
    | extendGiven ms => exact ⟨hrest.object, hrest.metrics, hrest.filter, hrest.plan⟩
    | append ms =>
      refine ⟨hrest.object, hrest.metrics.trans ?_, hrest.filter, hrest.plan⟩
      exact List.append_assoc d.builder.metrics ms (appended steps)
    | setFilter filter => exact ⟨hrest.object, hrest.metrics, hrest.filter, hrest.plan⟩

/-- The outcomes are those of the same steps without what happens to the list of the caller,
whatever that list is. -/
theorem outcomes_withoutGiven (given given' : List ResolvedMetric) (b : Builder)
    (steps : List Step) :
    (Desk.mk given b).outcomes steps = (Desk.mk given' b).outcomes (withoutGiven steps) := by
  induction steps generalizing given given' b with
  | nil => rfl
  | cons step steps ih =>
    cases step with
    | extendGiven ms => exact ih (given ++ ms) given' b
    | build => exact congrArg (b.build.1 :: ·) (ih given given' b.build.2)
    | append ms => exact ih given given' (b.append ms)
    | setFilter filter => exact ih given given' (b.setFilter filter)

end Desk

/-- Every build ends with the first plan that one before it has given, and before there is one it
ends as the compilation of the metrics and the filter that the builder holds.  The list that the
builder was made from has no part in it. -/
theorem outcomes_build (object : String) (given : List ResolvedMetric) (filter : Option String)
    (steps : List Step) :
    let d := Desk.start object given filter
    let now := (d.afterAll steps).builder
    d.outcomes (steps ++ [.build]) = d.outcomes steps ++
        [match firstPlan? (d.outcomes steps) with
          | some p => .ok p
          | none => Compilation.compile object now.metrics now.filter] ∧
      now.metrics = given ++ appended steps ∧ now.filter = lastFilter filter steps ∧
      d.outcomes steps = d.outcomes (withoutGiven steps) := by
  intro d now
  have hholds := d.holds steps
  refine ⟨?_, hholds.metrics, hholds.filter, Desk.outcomes_withoutGiven given given _ steps⟩
  have hlast : (d.afterAll steps).outcomes [.build] = [now.build.1] := rfl
  rw [d.outcomes_append, hlast]
  have hplan : now.plan = firstPlan? (d.outcomes steps) := hholds.plan
  cases hfirst : firstPlan? (d.outcomes steps) with
  | some p => rw [build_of_some (hplan.trans hfirst)]
  | none =>
    obtain ⟨applied, left, hbuild⟩ := build_of_none (hplan.trans hfirst)
    have hobject : now.object = object := hholds.object
    rw [hbuild, hobject]

end Builder
end CrossCheck
