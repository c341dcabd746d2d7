import CrossCheck.Comparison
import CrossCheck.Proofs.Compilation.Readings
import CrossCheck.Proofs.Resolution
import CrossCheck.Proofs.Token

/-!
No metric shows the number of another.  Whatever two environments hold, a comparison of them gives
one row for each metric, and what stands in the row is fixed by the metric and the filter alone.
-/

namespace CrossCheck

/-! ## What a metric measures by itself -/

/-- What a quotient is shown as. -/
def Cell.ofQuotient : Option Binary64 → Cell
  | some x => .number (.float x)
  | none => .null

namespace ResolvedMetric

/-- One call is shown as it is measured, and of two calls the quotient. -/
def measured (V : Valuation) (filter : Option String) (m : ResolvedMetric) :
    Except ArithmeticError Cell :=
  match m.calls with
  | [r] => r.cell V filter
  | [n, d] => do
    let n ← n.cell V filter
    let d ← d.cell V filter
    return .ofQuotient (← Value.ratio n.toValue d.toValue)
  | _ => .ok .null

variable {V : Valuation} {filter : Option String} {m : ResolvedMetric}

theorem measured_of_call {r : TypedCall} (h : m.calls = [r]) :
    m.measured V filter = r.cell V filter := by
  rw [measured, h]

theorem measured_of_legs {q r : TypedCall} (h : m.calls = [q, r]) {n d : Cell}
    (hn : q.cell V filter = .ok n) (hd : r.cell V filter = .ok d) :
    m.measured V filter = (Value.ratio n.toValue d.toValue).map Cell.ofQuotient := by
  rw [measured, h]
  simp only [hn, hd]
  show (Value.ratio n.toValue d.toValue >>= fun x => pure (Cell.ofQuotient x)) = _
  cases Value.ratio n.toValue d.toValue <;> rfl

end ResolvedMetric

namespace Row

/-- The row shows what the metric measures by itself on both sides. -/
structure Shows (V W : Valuation) (filter : Option String) (m : ResolvedMetric) (row : Row) :
    Prop where
  metric : row.metric = m
  source : m.measured V filter = .ok row.source
  target : m.measured W filter = .ok row.target
  difference : Value.difference m.valueType row.source.toValue row.target.toValue =
    .ok row.difference

/-- Arithmetic fails on what the metric measures by itself. -/
inductive Fails (V W : Valuation) (filter : Option String) (m : ResolvedMetric)
    (e : ArithmeticError) : Prop where
  | source (h : m.measured V filter = .error e)
  | target (h : m.measured W filter = .error e)
  | difference {s t : Cell} (hs : m.measured V filter = .ok s) (ht : m.measured W filter = .ok t)
      (h : Value.difference m.valueType s.toValue t.toValue = .error e)

/-- Either way a row is assembled, or is not, depends on its own metric only. -/
inductive Assembled (V W : Valuation) (filter : Option String) (m : ResolvedMetric) :
    Except Error Row → Prop where
  | shows {row : Row} (h : Shows V W filter m row) : Assembled V W filter m (.ok row)
  | fails {e : ArithmeticError} (h : Fails V W filter m e) :
      Assembled V W filter m (.error (.arithmetic e))

variable {V W : Valuation} {filter : Option String} {m : ResolvedMetric}

theorem assembled_ofValues {s t : Cell} (hs : m.measured V filter = .ok s)
    (ht : m.measured W filter = .ok t) (aliasName : String) :
    Assembled V W filter m (ofValues m aliasName s.toValue t.toValue) := by
  rw [ofValues, Cell.admit?_toValue, Cell.admit?_toValue]
  cases hd : Value.difference m.valueType s.toValue t.toValue with
  | error e => exact .fails (.difference hs ht hd)
  | ok d => exact .shows ⟨rfl, hs, ht, hd⟩

/-! ## Records that answer for calls -/

/-- Under the aliases of its calls the record holds their cells. -/
def Holds (V : Valuation) (filter : Option String) (d : Compilation.Draft)
    (calls : TypedCall → Prop) (raw : Record) : Prop :=
  ∀ r name, calls r → (r.call.key, name) ∈ d.entries r.call →
    ∃ c, r.cell V filter = .ok c ∧ valueAt raw name = c.toValue

theorem quotientAt_eq {raw : Record} {n d : Cell} {numerator denominator : String}
    (hn : valueAt raw numerator = n.toValue) (hd : valueAt raw denominator = d.toValue) :
    quotientAt raw numerator denominator =
      (Value.ratio n.toValue d.toValue).map fun x => (Cell.ofQuotient x).toValue := by
  rw [quotientAt, hn, hd]
  cases Value.ratio n.toValue d.toValue with
  | error e => rfl
  | ok x => cases x <;> rfl

variable {d : Compilation.Draft} {calls : TypedCall → Prop} {source target : Record}

/-- A definition takes from both records what its metric measures by itself. -/
theorem assembled_of_defines {x : Definition} (hx : d.Defines m x)
    (hcalls : ∀ r ∈ m.calls, calls r) (hsource : Holds V filter d calls source)
    (htarget : Holds W filter d calls target) :
    Assembled V W filter m (assemble source target x) := by
  cases hx with
  | @direct _ r name hone hentry =>
    have hr := hcalls r (hone ▸ List.mem_singleton_self r)
    obtain ⟨s, hs, hsat⟩ := hsource r name hr hentry
    obtain ⟨t, ht, htat⟩ := htarget r name hr hentry
    rw [assemble, hsat, htat]
    refine assembled_ofValues ?_ ?_ name
    · rw [ResolvedMetric.measured_of_call hone, hs]
    · rw [ResolvedMetric.measured_of_call hone, ht]
  | @ratio n q v name numerator denominator hn hq _ =>
    have hncalls := hcalls n.typedCall List.mem_cons_self
    have hqcalls := hcalls q.typedCall (List.mem_cons_of_mem _ List.mem_cons_self)
    obtain ⟨sn, hsn, hsnat⟩ := hsource _ _ hncalls hn
    obtain ⟨sq, hsq, hsqat⟩ := hsource _ _ hqcalls hq
    obtain ⟨tn, htn, htnat⟩ := htarget _ _ hncalls hn
    obtain ⟨tq, htq, htqat⟩ := htarget _ _ hqcalls hq
    have hlegs : (ResolvedMetric.ratio n q v).calls = [n.typedCall, q.typedCall] := rfl
    have hs := ResolvedMetric.measured_of_legs hlegs hsn hsq
    have ht := ResolvedMetric.measured_of_legs hlegs htn htq
    rw [assemble, quotientAt_eq hsnat hsqat, quotientAt_eq htnat htqat]
    cases hsratio : Value.ratio sn.toValue sq.toValue with
    | error e =>
      rw [hsratio] at hs
      exact .fails (.source hs)
    | ok x =>
      rw [hsratio] at hs
      cases htratio : Value.ratio tn.toValue tq.toValue with
      | error e =>
        rw [htratio] at ht
        exact .fails (.target ht)
      | ok y =>
        rw [htratio] at ht
        exact assembled_ofValues hs ht name

/-- All rows show what their metrics measure, in order, unless arithmetic fails for one. -/
theorem assembleAll_of_defines {ms : List ResolvedMetric} {definitions : List Definition}
    (hdefines : List.Forall₂ d.Defines ms definitions)
    (hcalls : ∀ m ∈ ms, ∀ r ∈ m.calls, calls r) (hsource : Holds V filter d calls source)
    (htarget : Holds W filter d calls target) :
    (∃ e, ∃ m ∈ ms, Fails V W filter m e ∧
      assembleAll definitions source target = .error (.arithmetic e)) ∨
    ∃ rows, assembleAll definitions source target = .ok rows ∧
      List.Forall₂ (Shows V W filter) ms rows := by
  have hboth := (List.forall₂_and_left ms definitions).2 ⟨hcalls, hdefines⟩
  cases hall : assembleAll definitions source target with
  | error e =>
    obtain ⟨x, hx, he⟩ := Sequence.exists_of_mapM_error hall
    obtain ⟨m, hm, hmcalls, hmx⟩ := Sequence.exists_of_mem_right hboth hx
    have hassembled := assembled_of_defines hmx hmcalls hsource htarget
    rw [he] at hassembled
    cases hassembled with
    | fails h => exact .inl ⟨_, m, hm, h, rfl⟩
  | ok rows =>
    refine .inr ⟨rows, rfl, ?_⟩
    refine Sequence.forall₂_of_common hboth.flip (Sequence.mapM_ok_iff.1 hall) ?_
    rintro x m row ⟨hmcalls, hmx⟩ hrow
    have hassembled := assembled_of_defines hmx hmcalls hsource htarget
    rw [hrow] at hassembled
    cases hassembled with
    | shows h => exact h

end Row

/-! ## End to end -/

namespace Comparison

open Compilation Evaluation

/-- How two evaluations and the rows over them can end, if no metric reaches into another. -/
inductive Faithful {ε δ : Type} (V W : Valuation) (filter : Option String) (ms : List ResolvedMetric)
    (p : Plan) (x : Except (Evaluation.Error ε) Evaluation)
    (y : Except (Evaluation.Error δ) Evaluation) : Prop where
  /-- A call of a metric has no cell in the source. -/
  | source {e : ArithmeticError} (h : x = .error (.arithmetic e))
      (hcall : ∃ m ∈ ms, ∃ r ∈ m.calls, r.cell V filter = .error e)
  | target {e : ArithmeticError} (h : y = .error (.arithmetic e))
      (hcall : ∃ m ∈ ms, ∃ r ∈ m.calls, r.cell W filter = .error e)
  /-- The quotient or the difference of a metric cannot be computed. -/
  | row {source target : Evaluation} {e : ArithmeticError} (hx : x = .ok source)
      (hy : y = .ok target)
      (h : Row.assembleAll p.definitions source.values target.values = .error (.arithmetic e))
      (hmetric : ∃ m ∈ ms, Row.Fails V W filter m e)
  | rows {source target : Evaluation} {rows : List Row} (hx : x = .ok source) (hy : y = .ok target)
      (h : Row.assembleAll p.definitions source.values target.values = .ok rows)
      (hshows : List.Forall₂ (Row.Shows V W filter) ms rows)

variable {object : String} {filter : Option String} {ms : List ResolvedMetric} {d : Draft}
  {definitions : List Definition}

/-- The calls that metrics make. -/
def Requested (ms : List ResolvedMetric) (r : TypedCall) : Prop := ∃ m ∈ ms, r ∈ m.calls

/-- Either a requested call has no cell, or the evaluation holds the cells of all of them. -/
theorem evaluate_finish {σ ε : Type} {b : Backend σ ε} {V : Valuation}
    {sampleQuery : Option String} {s : σ} (hd : d.Sound)
    (hmade : d.MadeFor object filter (Requested ms)) (hc : Consistent (Requested ms))
    (h : AnswersAll b V (finish object filter definitions d) sampleQuery s) :
    (∃ e, (∃ m ∈ ms, ∃ r ∈ m.calls, r.cell V filter = .error e) ∧
      (evaluate b (finish object filter definitions d) sampleQuery s).1 =
        .error (.arithmetic e)) ∨
    ∃ evaluation, (evaluate b (finish object filter definitions d) sampleQuery s).1 =
        .ok evaluation ∧
      Row.Holds V filter d (Requested ms) evaluation.values := by
  have hdistinct : (((finish object filter definitions d).readings V).map (·.aliasName)).Nodup := by
    rw [Plan.aliases_readings]
    exact hd.nodup_queriedAliases
  rcases evaluate_cases (written_finish hmade definitions) hdistinct h with
    ⟨e, x, hx, hcell, herror⟩ | ⟨evaluation, hok, hall⟩
  · obtain ⟨r, ⟨m, hm, hr⟩, heq⟩ := exists_call_of_mem_readings hmade hc hx
    exact .inl ⟨e, ⟨m, hm, r, hr, heq ▸ hcell⟩, herror⟩
  · refine .inr ⟨evaluation, hok, fun r name hr hentry => ?_⟩
    obtain ⟨x, hx, hname, heq⟩ :=
      exists_reading_of_mem_entries V hmade hc definitions hr hentry
    obtain ⟨c, hcell, hget⟩ := hall x hx
    refine ⟨c, heq ▸ hcell, ?_⟩
    rw [Row.valueAt, ← hname, hget]
    rfl

theorem consistent_requested {tokens : List String} {schema : ObjectSchema} {environment : String}
    {parsed : List Metric} (hread : Metric.ofTokens tokens = .ok parsed)
    (hresolve : Resolution.resolve schema environment parsed = .ok ms) :
    Consistent (Requested ms) := by
  have hsettles := Resolution.resolve_ok_iff.1 hresolve
  have htypes : ∀ r, Requested ms r → Resolution.Types schema r := by
    rintro r ⟨m, hm, hr⟩
    obtain ⟨_, _, h⟩ := Sequence.exists_of_mem_right hsettles hm
    exact h.types r hr
  have hcolon : ∀ f c t, ResolvedMetric.sumIf f c t ∈ ms → ':' ∉ f.name.toList := by
    intro f c t
    refine Resolution.colon_not_mem_of_resolve hresolve fun reference c => ?_
    exact Metric.colon_not_mem_of_ofTokens hread
  refine ⟨?_, fun q r hq hr => (htypes q hq).unique (htypes r hr), fun r hr => ?_⟩
  · rintro r ⟨m, hm, hr⟩
    exact isKeyed_of_mem_calls hcolon hm hr
  · exact (htypes r hr).of_condition?

/-- Metrics that were read and settled against one schema compile to a plan under which none of
them shows the number of another, whatever two environments answer. -/
theorem compile_faithful {tokens : List String} {schema : ObjectSchema} {environment : String}
    {parsed : List Metric} (hread : Metric.ofTokens tokens = .ok parsed)
    (hresolve : Resolution.resolve schema environment parsed = .ok ms) (object : String)
    (filter : Option String) :
    ∃ p, compile object ms filter = .ok p ∧
      ∀ (V W : Valuation) (σ τ ε δ : Type) (b : Backend σ ε) (c : Backend τ δ)
        (sampleQuery : Option String) (s : σ) (t : τ),
        AnswersAll b V p sampleQuery s → AnswersAll c W p sampleQuery t →
        Faithful V W (Condition.trimmed filter) ms p (evaluate b p sampleQuery s).1
          (evaluate c p sampleQuery t).1 := by
  have hsettles := Resolution.resolve_ok_iff.1 hresolve
  have hc := consistent_requested hread hresolve
  have hne : ms ≠ [] := by
    rintro rfl
    exact Metric.ne_nil_of_ofTokens hread (List.forall₂_nil_right_iff.1 hsettles)
  have hsupported : ∀ m ∈ ms, m.isSupported = true := by
    intro m hm
    obtain ⟨_, _, h⟩ := Sequence.exists_of_mem_right hsettles hm
    exact h.isSupported
  obtain ⟨definitions, d, hp, hrun⟩ := compile_run object filter hne hsupported
  refine ⟨_, hp, fun V W σ τ ε δ b c sampleQuery s t hb hc' => ?_⟩
  rw [← normalizeFilter_eq]
  have hd := hrun.sound Draft.sound_empty
  have hmade : d.MadeFor object (normalizeFilter filter) (Requested ms) :=
    hrun.madeFor _ (fun m hm r hr => ⟨m, hm, hr⟩) (Draft.madeFor_empty _ _ _)
  rcases evaluate_finish hd hmade hc hb with ⟨e, hcall, hx⟩ | ⟨source, hx, hsource⟩
  · exact .source hx hcall
  rcases evaluate_finish hd hmade hc hc' with ⟨e, hcall, hy⟩ | ⟨target, hy, htarget⟩
  · exact .target hy hcall
  have hcalls : ∀ m ∈ ms, ∀ r ∈ m.calls, Requested ms r := fun m hm r hr => ⟨m, hm, hr⟩
  rcases Row.assembleAll_of_defines hrun.defines hcalls hsource htarget with
    ⟨e, m, hm, hfails, h⟩ | ⟨rows, h, hshows⟩
  · exact .row hx hy h ⟨m, hm, hfails⟩
  · exact .rows hx hy h hshows

def dealSchema : ObjectSchema :=
  ⟨"Deal", none, [⟨"Amount", none, "currency", true, true⟩, ⟨"Closed", none, "date", true, true⟩]⟩

def dealMetrics : List Metric :=
  [.fieldAggregate ⟨.sum, "amount"⟩, .fieldAggregate ⟨.max, "closed"⟩,
   .ratio ⟨.sum, "Amount"⟩ ⟨.max, "amount"⟩, .sumIf "amount" "IsWon = true"]

def settledDealMetrics : List ResolvedMetric :=
  [.fieldAggregate ⟨.sum, ⟨"Amount", "currency", "Amount"⟩, .number⟩,
   .fieldAggregate ⟨.max, ⟨"Closed", "date", "Closed"⟩, .date⟩,
   .ratio ⟨.sum, ⟨"Amount", "currency", "Amount"⟩, .number⟩
    ⟨.max, ⟨"Amount", "currency", "Amount"⟩, .number⟩ .number,
   .sumIf ⟨"Amount", "currency", "Amount"⟩ "IsWon = true" .number]

/-- A valuation that tells calls and predicates of different lengths apart. -/
def lengths : Valuation := fun call predicate =>
  .int (1000 * call.length + (predicate.getD "").length)

theorem compile_faithful_script :
    Metric.ofTokens ["sum:amount,max:closed", "ratio:sum:Amount/max:amount",
        "sum-if:amount:IsWon = true"] = .ok dealMetrics ∧
      Resolution.resolve dealSchema "source" dealMetrics = .ok settledDealMetrics ∧
      ∃ p, compile "Deal" settledDealMetrics (some " IsDeleted = false ") = .ok p ∧
        AnswersAll Script.backend lengths p none (answering lengths p) ∧
        Faithful lengths lengths (Condition.trimmed (some " IsDeleted = false "))
          settledDealMetrics p
          (evaluate Script.backend p none (answering lengths p)).1
          (evaluate Script.backend p none (answering lengths p)).1 := by
  have hread : Metric.ofTokens ["sum:amount,max:closed", "ratio:sum:Amount/max:amount",
      "sum-if:amount:IsWon = true"] = .ok dealMetrics := by decide +kernel
  have hresolve : Resolution.resolve dealSchema "source" dealMetrics = .ok settledDealMetrics := by
    decide +kernel
  obtain ⟨p, hp, hall⟩ := compile_faithful hread hresolve "Deal" (some " IsDeleted = false ")
  have hanswers := answersAll_answering lengths p none
  exact ⟨hread, hresolve, p, hp, hanswers,
    hall lengths lengths _ _ _ _ Script.backend Script.backend none _ _ hanswers hanswers⟩

end Comparison
end CrossCheck
