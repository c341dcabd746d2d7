import CrossCheck.Proofs.Compilation.Draft
import CrossCheck.Proofs.Sequence

/-!
What compiling one metric, and then a list of metrics, does to a draft.  A step says what one
metric adds; a run says the same of a list, and that no ratio shares its alias with another
definition.
-/

namespace CrossCheck

namespace Definition

def metric? : Definition → Option ResolvedMetric
  | direct m _ => some m
  | ratio m _ _ _ => some m
  | other _ => none

def isRatio : Definition → Bool
  | ratio _ _ _ _ => true
  | _ => false

end Definition

namespace Compilation

open Alias

/-- The definition takes the value of the metric from entries of the draft. -/
inductive Draft.Defines (d : Draft) : ResolvedMetric → Definition → Prop where
  | direct {m : ResolvedMetric} {r : TypedCall} {name : String} (hcalls : m.calls = [r])
      (hentry : (r.call.key, name) ∈ d.entries r.call) : Defines d m (.direct m name)
  | ratio {n q : ResolvedAggregate} {t : ValueType} {name numerator denominator : String}
      (hnumerator : (n.typedCall.call.key, numerator) ∈ d.entries n.typedCall.call)
      (hdenominator : (q.typedCall.call.key, denominator) ∈ d.entries q.typedCall.call)
      (hname : Allocated ratioStarts name) :
      Defines d (.ratio n q t) (.ratio (.ratio n q t) name numerator denominator)

theorem Draft.Defines.mono {d e : Draft} (hde : d.Extends e) {m : ResolvedMetric}
    {definition : Definition} (h : d.Defines m definition) : e.Defines m definition := by
  cases h with
  | direct hcalls hentry => exact .direct hcalls ((hde.entries _).mem hentry)
  | ratio hnumerator hdenominator hname =>
    exact .ratio ((hde.entries _).mem hnumerator) ((hde.entries _).mem hdenominator) hname

theorem Draft.Defines.metric?_eq {d : Draft} {m : ResolvedMetric} {x : Definition}
    (h : d.Defines m x) : x.metric? = some m := by
  cases h <;> rfl

theorem Draft.Defines.isRatio_eq {d : Draft} {m : ResolvedMetric} {x : Definition}
    (h : d.Defines m x) : x.isRatio = m.isRatio := by
  cases h with
  | @direct _ _ _ hcalls =>
    cases m with
    | ratio => exact absurd hcalls (by simp [ResolvedMetric.calls])
    | _ => rfl
  | ratio => rfl

/-- The alias of a ratio begins differently from the alias of any other definition. -/
theorem Draft.Defines.aliasName_ne {d : Draft} (hd : d.Sound) {m n : ResolvedMetric}
    {x y : Definition} (hx : d.Defines m x) (hy : d.Defines n y) (hratio : x.isRatio = true)
    (hdirect : y.isRatio = false) : x.aliasName ≠ y.aliasName := by
  cases hx with
  | direct => exact absurd hratio Bool.false_ne_true
  | ratio _ _ hname =>
    cases hy with
    | ratio => exact absurd hdirect.symm Bool.false_ne_true
    | @direct _ r name hcalls hentry =>
      have hallocated := (hd.entries r.call).allocated _ hentry
      exact ((callStarts_exclude_ratios r.call).ne hallocated.begins hname.begins).symm

section
variable (object : String) (filter : Option String)

/-! ## One metric -/

structure Step (d : Draft) (m : ResolvedMetric) (definition : Definition) (e : Draft) : Prop where
  sound : d.Sound → e.Sound
  grows : d.Extends e
  defines : e.Defines m definition
  metricAliases : e.metricAliases = d.metricAliases ++ [definition.aliasName]
  fresh : definition.isRatio = true → definition.aliasName ∉ d.metricAliases
  madeFor : ∀ calls : TypedCall → Prop, (∀ r ∈ m.calls, calls r) →
    d.MadeFor object filter calls → e.MadeFor object filter calls

theorem compileMetric_direct (d : Draft) {m : ResolvedMetric} {r : TypedCall}
    (hcalls : m.calls = [r]) :
    compileMetric object filter d m = .ok (directly m (d.request object filter r)) := by
  cases m with
  | ratio n q t => exact absurd hcalls (by simp [ResolvedMetric.calls])
  | other kind name => exact absurd hcalls (by simp [ResolvedMetric.calls])
  | fieldAggregate a =>
    rw [← List.singleton_inj.1 hcalls, ← Draft.aggregate_eq_request]
    rfl
  | _ =>
    rw [← List.singleton_inj.1 hcalls]
    rfl

theorem step_direct (d : Draft) {m : ResolvedMetric} {r : TypedCall} (hcalls : m.calls = [r]) :
    Step object filter d m (directly m (d.request object filter r)).1
      (directly m (d.request object filter r)).2 where
  sound hd := ⟨(hd.request object filter r).columns, (hd.request object filter r).queries⟩
  grows := by
    have h := Draft.extends_request object filter d r
    refine ⟨h.expressions, h.conditionals, ?_, h.sampleFields⟩
    exact h.metricAliases.trans (List.prefix_append _ _)
  defines := .direct hcalls (Draft.mem_entries_request object filter d r)
  metricAliases := by
    show _ ++ _ = _
    rw [Draft.metricAliases_request]
    rfl
  fresh h := absurd h Bool.false_ne_true
  madeFor calls hall hd := by
    have h := hd.request (hall r (hcalls ▸ List.mem_singleton_self r))
    exact ⟨h.expressions, h.conditionals⟩

/-- Both legs are requested before the ratio takes an alias of its own. -/
theorem compileMetric_ratio (d : Draft) (n q : ResolvedAggregate) (t : ValueType) :
    ∃ definition e, compileMetric object filter d (.ratio n q t) = .ok (definition, e) ∧
      Step object filter d (.ratio n q t) definition e := by
  let x := d.request object filter n.typedCall
  let y := x.2.request object filter q.typedCall
  let name := unique y.2.metricAliases (ratioBase n q)
  have hx := Draft.extends_request object filter d n.typedCall
  have hy := Draft.extends_request object filter x.2 q.typedCall
  have haliases : y.2.metricAliases = d.metricAliases := by
    rw [Draft.metricAliases_request, Draft.metricAliases_request]
  refine ⟨.ratio (.ratio n q t) name x.1 y.1,
    { y.2 with metricAliases := y.2.metricAliases ++ [name] }, ?_, ?_⟩
  · simp only [compileMetric, Draft.aggregate_eq_request object filter]
    rfl
  refine { sound := fun hd => ?_, grows := ?_, defines := ?_, metricAliases := ?_,
           fresh := fun _ => ?_, madeFor := fun calls hall hd => ?_ }
  · have h := (hd.request object filter n.typedCall).request object filter q.typedCall
    exact ⟨h.columns, h.queries⟩
  · have h := hx.trans hy
    exact ⟨h.expressions, h.conditionals, h.metricAliases.trans (List.prefix_append _ _),
      h.sampleFields⟩
  · have hn := (hy.entries n.typedCall.call).mem
      (Draft.mem_entries_request object filter d n.typedCall)
    have hq := Draft.mem_entries_request object filter x.2 q.typedCall
    exact .ratio hn hq (allocated_unique (allocated_ratioBase n q) _)
  · show y.2.metricAliases ++ [name] = _
    rw [haliases]
    rfl
  · show name ∉ d.metricAliases
    rw [← haliases]
    exact unique_not_mem _ _
  · have hfirst := hd.request (hall n.typedCall List.mem_cons_self)
    have hboth := hfirst.request (hall q.typedCall (List.mem_cons_of_mem _ List.mem_cons_self))
    exact ⟨hboth.expressions, hboth.conditionals⟩

theorem compileMetric_step (d : Draft) {m : ResolvedMetric} (hm : m.isSupported = true) :
    ∃ definition e, compileMetric object filter d m = .ok (definition, e) ∧
      Step object filter d m definition e := by
  by_cases hratio : m.isRatio = true
  · cases m with
    | ratio n q t => exact compileMetric_ratio object filter d n q t
    | _ => exact absurd hratio Bool.false_ne_true
  · obtain ⟨c, hc⟩ := ResolvedMetric.calls_of_direct hm (Bool.eq_false_iff.2 hratio)
    exact ⟨_, _, compileMetric_direct object filter d hc, step_direct object filter d hc⟩

/-! ## A list of metrics -/

structure Run (d : Draft) (ms : List ResolvedMetric) (definitions : List Definition) (e : Draft) :
    Prop where
  sound : d.Sound → e.Sound
  grows : d.Extends e
  defines : List.Forall₂ e.Defines ms definitions
  metricAliases : e.metricAliases = d.metricAliases ++ definitions.map (·.aliasName)
  fresh : ∀ x ∈ definitions, x.isRatio = true → x.aliasName ∉ d.metricAliases
  apart : d.Sound → definitions.Pairwise fun x y =>
    (x.isRatio || y.isRatio) = true → x.aliasName ≠ y.aliasName
  madeFor : ∀ calls : TypedCall → Prop, (∀ m ∈ ms, ∀ r ∈ m.calls, calls r) →
    d.MadeFor object filter calls → e.MadeFor object filter calls

theorem run_nil (d : Draft) : Run object filter d [] [] d where
  sound hd := hd
  grows := .refl d
  defines := .nil
  metricAliases := (List.append_nil _).symm
  fresh _ hx := absurd hx List.not_mem_nil
  apart _ := .nil
  madeFor _ _ hd := hd

theorem run_cons {d e f : Draft} {m : ResolvedMetric} {ms : List ResolvedMetric}
    {x : Definition} {xs : List Definition} (hstep : Step object filter d m x e)
    (hrun : Run object filter e ms xs f) : Run object filter d (m :: ms) (x :: xs) f where
  sound hd := hrun.sound (hstep.sound hd)
  grows := hstep.grows.trans hrun.grows
  defines := .cons (hstep.defines.mono hrun.grows) hrun.defines
  metricAliases := by
    rw [hrun.metricAliases, hstep.metricAliases, List.map_cons, List.append_assoc]
    rfl
  fresh y hy hratio := by
    rcases List.mem_cons.1 hy with rfl | hy
    · exact hstep.fresh hratio
    · exact fun hmem => hrun.fresh y hy hratio (hstep.grows.metricAliases.mem hmem)
  apart hd := by
    refine .cons (fun y hy hratio => ?_) (hrun.apart (hstep.sound hd))
    cases hyratio : y.isRatio with
    | true =>
      -- The later ratio avoids every alias that was recorded before it.
      have hrecorded : x.aliasName ∈ e.metricAliases := by
        rw [hstep.metricAliases]
        exact List.mem_append_right _ (List.mem_singleton_self _)
      exact fun heq => hrun.fresh y hy hyratio (heq ▸ hrecorded)
    | false =>
      rw [hyratio, Bool.or_false] at hratio
      obtain ⟨n, _, hn⟩ := Sequence.exists_of_mem_right hrun.defines hy
      have hsound := hrun.sound (hstep.sound hd)
      exact (hstep.defines.mono hrun.grows).aliasName_ne hsound hn hratio hyratio
  madeFor calls hall hd := by
    refine hrun.madeFor calls (fun n hn => hall n (List.mem_cons_of_mem m hn)) ?_
    exact hstep.madeFor calls (hall m List.mem_cons_self) hd

theorem compileMetrics_cons_of_ok {d e : Draft} {m : ResolvedMetric} {x : Definition}
    (h : compileMetric object filter d m = .ok (x, e)) (ms : List ResolvedMetric) :
    compileMetrics object filter d (m :: ms) =
      (compileMetrics object filter e ms).map fun made => (x :: made.1, made.2) := by
  rw [compileMetrics, h]
  show (compileMetrics object filter e ms >>= fun made => .ok (x :: made.1, made.2)) = _
  cases compileMetrics object filter e ms <;> rfl

theorem compileMetrics_run (d : Draft) {ms : List ResolvedMetric}
    (hms : ∀ m ∈ ms, m.isSupported = true) :
    ∃ definitions e, compileMetrics object filter d ms = .ok (definitions, e) ∧
      Run object filter d ms definitions e := by
  induction ms generalizing d with
  | nil => exact ⟨[], d, rfl, run_nil object filter d⟩
  | cons m ms ih =>
    obtain ⟨x, e, hx, hstep⟩ := compileMetric_step object filter d (hms m List.mem_cons_self)
    obtain ⟨xs, f, hxs, hrun⟩ := ih e fun n hn => hms n (List.mem_cons_of_mem m hn)
    refine ⟨x :: xs, f, ?_, run_cons object filter hstep hrun⟩
    rw [compileMetrics_cons_of_ok object filter hx, hxs]
    rfl

theorem compile_of_ok {ms : List ResolvedMetric} (hne : ms ≠ []) {definitions : List Definition}
    {d : Draft}
    (h : compileMetrics object (normalizeFilter filter) .empty ms = .ok (definitions, d)) :
    compile object ms filter = .ok (finish object (normalizeFilter filter) definitions d) := by
  rw [compile, if_neg (by simpa using hne)]
  simp only [h]

/-- A list of metrics of the six kinds always compiles, unless it is empty. -/
theorem compile_run {ms : List ResolvedMetric} (hne : ms ≠ [])
    (hms : ∀ m ∈ ms, m.isSupported = true) :
    ∃ definitions d,
      compile object ms filter = .ok (finish object (normalizeFilter filter) definitions d) ∧
      Run object (normalizeFilter filter) .empty ms definitions d := by
  obtain ⟨definitions, d, hcompiled, hrun⟩ :=
    compileMetrics_run object (normalizeFilter filter) .empty hms
  exact ⟨definitions, d, compile_of_ok object filter hne hcompiled, hrun⟩

theorem isSupported_of_compileMetrics {d : Draft} {ms : List ResolvedMetric}
    {made : List Definition × Draft} (h : compileMetrics object filter d ms = .ok made) :
    ∀ m ∈ ms, m.isSupported = true := by
  induction ms generalizing d made with
  | nil => exact fun m hm => absurd hm List.not_mem_nil
  | cons m ms ih =>
    rw [compileMetrics] at h
    obtain ⟨⟨x, e⟩, hx, hrest⟩ := Sequence.bind_ok_iff.1 h
    obtain ⟨more, hmore, -⟩ := Sequence.bind_ok_iff.1 hrest
    refine List.forall_mem_cons.2 ⟨?_, ih hmore⟩
    cases m with
    | other kind name => exact absurd hx Sequence.error_ne_ok
    | _ => rfl

/-- Every plan comes from such a list. -/
theorem run_of_compile {ms : List ResolvedMetric} {p : Plan}
    (h : compile object ms filter = .ok p) :
    ∃ definitions d, p = finish object (normalizeFilter filter) definitions d ∧
      Run object (normalizeFilter filter) .empty ms definitions d := by
  have hne : ms ≠ [] := by
    rintro rfl
    exact absurd h Sequence.error_ne_ok
  have hms : ∀ m ∈ ms, m.isSupported = true := by
    rw [compile, if_neg (by simpa using hne)] at h
    dsimp only at h
    split at h
    · exact absurd h Sequence.error_ne_ok
    · rename_i hcompiled
      exact isSupported_of_compileMetrics object _ hcompiled
  obtain ⟨definitions, d, hp, hrun⟩ := compile_run object filter hne hms
  exact ⟨definitions, d, Except.ok.inj (h.symm.trans hp), hrun⟩

end

end Compilation
end CrossCheck
