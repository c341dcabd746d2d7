import CrossCheck.Proofs.Evaluation.Inquiry
import CrossCheck.Service

/-!
What a service runs.  A comparison asks both environments exactly the queries of its plan, and the
same queries stand in its report.
-/

namespace CrossCheck

/-- The queries of a plan in the order in which an environment is asked. -/
def Planned.queries (p : Planned) : List String :=
  p.plan.query.toList ++ p.plan.conditionals.map (·.query) ++ p.sampleQuery.toList

def RunQueries.all (q : RunQueries) : List String :=
  q.aggregate.toList ++ q.conditional ++ q.sample.toList

theorem Evaluation.given?_eq_self {query : Option String} (h : query ≠ some "") :
    given? query = query := by
  cases query with
  | none => rfl
  | some q =>
    rw [given?, Option.filter_some, if_pos]
    exact decide_eq_true fun heq => h (congrArg some heq)

namespace Compilation

theorem query_ne_of_compile {object : String} {rs : List ResolvedMetric} {filter : Option String}
    {p : Plan} (h : compile object rs filter = .ok p) : p.query ≠ some "" := by
  rw [compile] at h
  split at h
  · exact absurd h Sequence.error_ne_ok
  · dsimp only at h
    split at h
    · exact absurd h Sequence.error_ne_ok
    · rw [← Except.ok.inj h, finish]
      split
      · exact nofun
      · exact fun heq => selectQuery_ne_empty _ _ _ (Option.some.inj heq)

end Compilation

theorem Plan.sampleQuery?_ne (p : Plan) (size : Int) : p.sampleQuery? size ≠ some "" := by
  rw [sampleQuery?]
  split
  · exact nofun
  · intro heq
    have hchars := congrArg String.toList (Option.some.inj heq)
    simp at hchars

namespace Service

open Session

variable {σ ε : Type}

/-- What planning ends with is compiled from metrics, and samples the plan. -/
theorem exists_compile_of_planFrom {metrics : List Metric} {source target : ObjectSchema}
    {r : Request} {events events' : List Event} {p : Planned}
    (h : planFrom (ε := ε) metrics source target r events = (.ok p, events')) :
    ∃ rs, Compilation.compile source.name rs r.filter = .ok p.plan ∧
      p.sampleQuery = p.plan.sampleQuery? r.sampleSize := by
  obtain ⟨as, _, _, h⟩ := bind_ok_iff.1 h
  obtain ⟨bs, _, _, h⟩ := bind_ok_iff.1 h
  obtain ⟨_, _, _, h⟩ := bind_ok_iff.1 h
  obtain ⟨both, _, _, h⟩ := bind_ok_iff.1 h
  obtain ⟨plan, _, hplan, h⟩ := bind_ok_iff.1 h
  obtain ⟨_, _, _, h⟩ := bind_ok_iff.1 h
  obtain ⟨hp, _⟩ := pure_ok_iff.1 h
  obtain ⟨hcompile, _⟩ := ofExcept_ok_iff.1 hplan
  rw [← hp]
  exact ⟨both, hcompile, rfl⟩

theorem describeBoth_environments (v : Service σ ε) (now : Binary64) (object : String) :
    (v.describeBoth now object).2.source = v.source ∧
      (v.describeBoth now object).2.target = v.target := by
  simp only [describeBoth]
  split <;> exact ⟨rfl, rfl⟩

/-- A plan is made from two descriptions, and changes nothing but what they change. -/
theorem exists_describeBoth_of_plan {v u : Service σ ε} {now : Binary64} {r : Request}
    {p : Planned} (h : v.plan now r = (.ok p, u)) : ∃ metrics source target w events,
      v.describeBoth now r.object = (.ok (source, target), w) ∧
      planFrom (ε := ε) metrics source target r w.events = (.ok p, events) ∧
      u = { w with events } := by
  rw [plan] at h
  split at h
  · exact absurd h failed_ne_ok
  · next metrics _ =>
    split at h
    · exact absurd h failed_ne_ok
    · next source target w hboth =>
      rcases hfrom : planFrom (ε := ε) metrics source target r w.events with ⟨planned, events⟩
      rw [hfrom] at h
      obtain ⟨hp, hu⟩ := Prod.mk.inj h
      exact ⟨metrics, source, target, w, events, hboth, hp ▸ hfrom, hu.symm⟩

theorem plan_environments {v u : Service σ ε} {now : Binary64} {r : Request} {p : Planned}
    (h : v.plan now r = (.ok p, u)) : u.source = v.source ∧ u.target = v.target := by
  obtain ⟨_, _, _, w, _, hboth, _, rfl⟩ := exists_describeBoth_of_plan h
  have hkept := describeBoth_environments v now r.object
  rw [hboth] at hkept
  exact hkept

/-- What an evaluation asks for a plan are the queries of the plan. -/
theorem map_query_inquiries {v u : Service σ ε} {now : Binary64} {r : Request} {p : Planned}
    (h : v.plan now r = (.ok p, u)) :
    (p.plan.inquiries p.sampleQuery).map (·.query) = p.queries := by
  obtain ⟨_, _, _, _, _, _, hfrom, _⟩ := exists_describeBoth_of_plan h
  obtain ⟨rs, hcompile, hsample⟩ := exists_compile_of_planFrom hfrom
  have hquery := Evaluation.given?_eq_self (Compilation.query_ne_of_compile hcompile)
  have hsampled : Evaluation.given? p.sampleQuery = p.sampleQuery := by
    rw [hsample]
    exact Evaluation.given?_eq_self (Plan.sampleQuery?_ne _ _)
  rw [Plan.inquiries, hquery, hsampled, Planned.queries]
  simp [Function.comp_def, Inquiry.query]

theorem follows_of_plan {v u : Service σ ε} {now : Binary64} {r : Request} {p : Planned}
    (h : v.plan now r = (.ok p, u)) {α δ : Type} {b : Backend α δ} {asked : α → List String}
    (hlogs : b.Logs asked) (s : α) :
    Evaluation.Follows b asked p.plan p.sampleQuery p.queries s := by
  rw [← map_query_inquiries h]
  exact Evaluation.follows hlogs p.plan p.sampleQuery s

/-- The time that evaluations may take means nothing to a plan. -/
theorem plan_timeout (v : Service σ ε) (now : Binary64) (r : Request) (timeout : Option Number) :
    ({ v with timeout }).plan now r =
      ((v.plan now r).1, { (v.plan now r).2 with timeout }) := by
  have hboth : ({ v with timeout }).describeBoth now r.object =
      ((v.describeBoth now r.object).1, { (v.describeBoth now r.object).2 with timeout }) := by
    simp only [describeBoth]
    split <;> rfl
  rw [plan, plan]
  cases Metric.ofTokens r.tokens with
  | error e => rfl
  | ok metrics =>
    simp only [hboth]
    rcases v.describeBoth now r.object with ⟨result, w⟩
    cases result with
    | error e => rfl
    | ok schemas => rfl

/-! ## Comparisons -/

theorem combine_ok {seconds : Option Number} {a b : Comparison.Outcome ε} {s t : Evaluation}
    (h : Comparison.combine seconds a b = .ok (s, t)) : a = .done s ∧ b = .done t := by
  cases a with
  | failed e => exact absurd h Sequence.error_ne_ok
  | unfinished => cases b <;> exact absurd h Sequence.error_ne_ok
  | done s' =>
    cases b with
    | done t' =>
      obtain ⟨rfl, rfl⟩ := Prod.mk.inj (Except.ok.inj h)
      exact ⟨rfl, rfl⟩
    | _ => exact absurd h Sequence.error_ne_ok

theorem ofResult_eq_done {r : Except (Evaluation.Error ε) Evaluation} {s : Evaluation}
    (h : ofResult r = .done s) : r = .ok s := by
  cases r with
  | ok s' => rw [Comparison.Outcome.done.inj h]
  | error e => exact absurd h nofun

/-- Whatever comes of the evaluations, both are run. -/
theorem evaluateBoth_states (v : Service σ ε) (p : Planned) :
    (v.evaluateBoth p).2.sourceState =
        (Evaluation.evaluate v.source.toBackend p.plan p.sampleQuery v.sourceState).2 ∧
      (v.evaluateBoth p).2.targetState =
        (Evaluation.evaluate v.target.toBackend p.plan p.sampleQuery v.targetState).2 := by
  rw [evaluateBoth]
  rcases Evaluation.evaluate v.source.toBackend p.plan p.sampleQuery v.sourceState with ⟨s, _⟩
  rcases Evaluation.evaluate v.target.toBackend p.plan p.sampleQuery v.targetState with ⟨t, _⟩
  dsimp only
  split
  · exact ⟨rfl, rfl⟩
  · split <;> exact ⟨rfl, rfl⟩

theorem exists_evaluations_of_evaluateBoth {v v' : Service σ ε} {p : Planned} {c : Comparison}
    (h : v.evaluateBoth p = (.ok c, v')) : ∃ source target,
      Evaluation.evaluate v.source.toBackend p.plan p.sampleQuery v.sourceState =
        (.ok source, v'.sourceState) ∧
      Evaluation.evaluate v.target.toBackend p.plan p.sampleQuery v.targetState =
        (.ok target, v'.targetState) := by
  obtain ⟨hsource, htarget⟩ := evaluateBoth_states v p
  rw [h] at hsource htarget
  rcases hs : Evaluation.evaluate v.source.toBackend p.plan p.sampleQuery v.sourceState with ⟨s, _⟩
  rcases ht : Evaluation.evaluate v.target.toBackend p.plan p.sampleQuery v.targetState with ⟨t, _⟩
  rw [hs] at hsource
  rw [ht] at htarget
  rw [evaluateBoth, hs, ht] at h
  dsimp only at h hsource htarget
  split at h
  · exact absurd h failed_ne_ok
  · next source target hcombine =>
    obtain ⟨hdone, hdone'⟩ := combine_ok hcombine
    rw [ofResult_eq_done hdone, ofResult_eq_done hdone', hsource, htarget]
    exact ⟨source, target, rfl, rfl⟩

/-- Both evaluations of a comparison that is reported have been completed. -/
theorem exists_evaluations_of_compare {v v' : Service σ ε} {now : Binary64} {r : Request}
    {report : Report} (h : v.compare now r = (.ok report, v')) :
    ∃ p u source target, v.plan now r = (.ok p, u) ∧ report.queries = runQueries p ∧
      Evaluation.evaluate v.source.toBackend p.plan p.sampleQuery u.sourceState =
        (.ok source, v'.sourceState) ∧
      Evaluation.evaluate v.target.toBackend p.plan p.sampleQuery u.targetState =
        (.ok target, v'.targetState) := by
  rw [compare] at h
  split at h
  · exact absurd h failed_ne_ok
  · next p u hplan =>
    split at h
    · exact absurd h failed_ne_ok
    · next c w hboth =>
      obtain ⟨hreport, hw⟩ := Prod.mk.inj h
      obtain ⟨source, target, hsource, htarget⟩ := exists_evaluations_of_evaluateBoth hboth
      obtain ⟨henvironment, henvironment'⟩ := plan_environments hplan
      rw [henvironment, hw] at hsource
      rw [henvironment', hw] at htarget
      exact ⟨p, u, source, target, hplan, by rw [← Except.ok.inj hreport]; rfl, hsource, htarget⟩

/-- In a comparison both environments are asked what is planned, also when it fails. -/
theorem compare_states {v u : Service σ ε} {now : Binary64} {r : Request} {p : Planned}
    (h : v.plan now r = (.ok p, u)) :
    (v.compare now r).2.sourceState =
        (Evaluation.evaluate v.source.toBackend p.plan p.sampleQuery u.sourceState).2 ∧
      (v.compare now r).2.targetState =
        (Evaluation.evaluate v.target.toBackend p.plan p.sampleQuery u.targetState).2 := by
  obtain ⟨henvironment, henvironment'⟩ := plan_environments h
  have hstates := evaluateBoth_states u p
  rw [henvironment, henvironment'] at hstates
  rw [compare, h]
  dsimp only
  split
  · next heq =>
    rw [heq] at hstates
    exact hstates
  · next heq =>
    rw [heq] at hstates
    exact hstates

/-- How both environments are asked what is planned, however that ends. -/
structure Asks (v u : Service σ ε) (now : Binary64) (r : Request) (p : Planned) : Prop where
  follows : ∀ (α δ : Type) (b : Backend α δ) (asked : α → List String), b.Logs asked →
    ∀ s, Evaluation.Follows b asked p.plan p.sampleQuery p.queries s
  /-- The evaluation stops at the first query that fails if every record before can be measured. -/
  untilFailure : ∀ (α δ : Type) (b : Backend α δ) (asked : α → List String), b.Logs asked →
    ∀ s, Evaluation.AsksUntilFailure b asked p.plan p.sampleQuery p.queries s ↔
      ∀ k i u e t, Evaluation.Reaches b (p.plan.inquiries p.sampleQuery) k s i u →
        ¬ Evaluation.Defies b i u e t
  source : (v.compare now r).2.sourceState =
    (Evaluation.evaluate v.source.toBackend p.plan p.sampleQuery u.sourceState).2
  target : (v.compare now r).2.targetState =
    (Evaluation.evaluate v.target.toBackend p.plan p.sampleQuery u.targetState).2

theorem asks_of_plan {v u : Service σ ε} {now : Binary64} {r : Request} {p : Planned}
    (h : v.plan now r = (.ok p, u)) : Asks v u now r p where
  follows _ _ _ _ hlogs s := follows_of_plan h hlogs s
  untilFailure _ _ _ _ hlogs s := (follows_of_plan h hlogs s).asksUntilFailure_iff
  source := (compare_states h).1
  target := (compare_states h).2

/-- What a report of a comparison says about queries, and what both environments were asked. -/
structure Reports (v v' u : Service σ ε) (p : Planned) (report : Report) : Prop where
  queries : report.queries.all = p.queries
  source : ∀ asked, v.source.toBackend.Logs asked →
    asked v'.sourceState = asked u.sourceState ++ p.queries
  target : ∀ asked, v.target.toBackend.Logs asked →
    asked v'.targetState = asked u.targetState ++ p.queries

theorem exists_reports_of_compare {v v' : Service σ ε} {now : Binary64} {r : Request}
    {report : Report} (h : v.compare now r = (.ok report, v')) :
    ∃ p u, v.plan now r = (.ok p, u) ∧ Reports v v' u p report := by
  obtain ⟨p, u, source, target, hplan, hqueries, hsource, htarget⟩ :=
    exists_evaluations_of_compare h
  refine ⟨p, u, hplan, ?_, fun asked hlogs => ?_, fun asked hlogs => ?_⟩
  · rw [hqueries]
    rfl
  · exact (follows_of_plan hplan hlogs u.sourceState).completes source _ hsource
  · exact (follows_of_plan hplan hlogs u.targetState).completes target _ htarget

end Service
end CrossCheck
