import CrossCheck.Backend.Script
import CrossCheck.Proofs.Comparison
import CrossCheck.Proofs.Comparison.Row
import CrossCheck.Proofs.Evaluation.Typed

/-!
Dates in rows.  A plan gives the alias of a leg one type, the one that the schema settled, so that
the value under it is normal for that type; a date is then a text or nothing, and neither has a
quotient.
-/

namespace CrossCheck

open Compilation

/-! ## The type of an alias -/

namespace Compilation

variable {object : String} {filter : Option String} {calls : TypedCall → Prop} {d : Draft}

/-- An alias of a column stands with the type of its call and with no other. -/
theorem valueType_of_entry (hd : d.Sound) (hmade : d.MadeFor object filter calls)
    (hunique : ∀ q r, calls q → calls r → q.call = r.call → q = r)
    (definitions : List Definition) {r : TypedCall} (hr : calls r)
    (hnone : r.call.condition? = none) {name : String}
    (hentry : (r.call.key, name) ∈ d.entries r.call) {t : ValueType}
    (ht : (name, t) ∈ (finish object filter definitions d).aliasTypes) : t = r.valueType := by
  simp only [Draft.entries, hnone] at hentry
  rcases List.mem_append.1 ht with ht | ht
  · obtain ⟨e, he, heq⟩ := List.mem_map.1 ht
    obtain ⟨rfl, rfl⟩ := Prod.mk.inj heq
    obtain ⟨q, hq, hcondition, hmadeFor⟩ := hmade.expressions e he
    have hcall : e.call = q.call.text := congrArg Expression.call hmadeFor
    have htype : e.valueType = q.valueType := congrArg Expression.valueType hmadeFor
    have hcolumn : (e.call, e.aliasName) ∈ d.columnEntries := List.mem_map_of_mem he
    have hkeys : e.call = r.call.key := (hd.columns.key_eq_iff hcolumn hentry).2 rfl
    have htexts : q.call.text = r.call.text := by rw [← hcall, hkeys, Call.key_eq_text hnone]
    rw [htype, hunique q r hq hr (Call.eq_of_text_eq hcondition hnone htexts)]
  · obtain ⟨q, hq, heq⟩ := List.mem_map.1 ht
    obtain ⟨entry, hmem, rfl⟩ := List.mem_map.1 hq
    obtain ⟨rfl, rfl⟩ := Prod.mk.inj heq
    -- conditional queries have aliases of their own kind
    have hquery : (entry.1, entry.2.aliasName) ∈ d.queryEntries := List.mem_map_of_mem hmem
    have hbegins := (hd.columns.allocated _ hentry).begins
    have hbegins' := (hd.queries.allocated _ hquery).begins
    exact absurd rfl (columns_exclude_conditionals.ne hbegins hbegins')

end Compilation

theorem Evaluation.IsTyped.isNormal_valueAt {types : List (String × ValueType)} {e : Evaluation}
    (h : IsTyped types e.aggregates) {name : String} {t : ValueType}
    (hunique : ∀ t', (name, t') ∈ types → t' = t) : (Row.valueAt e.values name).IsNormal t := by
  have hget : e.values.get? name = (e.aggregates.get? name).map Cell.toValue :=
    Named.get?_map Cell.toValue e.aggregates name
  rw [Row.valueAt, hget]
  cases hcell : e.aggregates.get? name with
  | none => exact .null t
  | some c =>
    obtain ⟨t', ht', hc⟩ := h name c hcell
    rw [hunique t' ht'] at hc
    exact hc

/-! ## Rows -/

namespace Row

/-- No difference between dates, and no quotient of which a leg is a date. -/
structure SparesDates (row : Row) : Prop where
  difference : row.metric.valueType = .date → row.difference = none
  quotient : ∀ n d t, row.metric = .ratio n d t → n.valueType = .date ∨ d.valueType = .date →
    row.source = .null ∧ row.target = .null

theorem difference_of_date {t : ValueType} {v w : Value} {d : Option Number}
    (h : Value.IsDifference t v w d) (ht : t = .date) : d = none := by
  by_contra hsome
  have hnumber := (h.isSome_iff.1 hsome).1
  rw [ht] at hnumber
  exact nomatch hnumber

theorem IsQuotient.null_of_date {v w : Value} {c : Cell} {t t' : ValueType} (h : IsQuotient v w c)
    (hv : v.IsNormal t) (hw : w.IsNormal t') (hdate : t = .date ∨ t' = .date) : c = .null := by
  rcases hdate with rfl | rfl
  · exact h.null_iff.2 (.numerator hv.not_isNumeric)
  · exact h.null_iff.2 (.denominator hw.not_isNumeric)

/-- The values under the legs of every ratio are normal for the types of the legs. -/
def LegsAreNormal (raw : Record) (m : ResolvedMetric) (x : Definition) : Prop :=
  ∀ n q t name numerator denominator, m = .ratio n q t →
    x = .ratio m name numerator denominator →
    (valueAt raw numerator).IsNormal n.valueType ∧ (valueAt raw denominator).IsNormal q.valueType

theorem isNormal_of_entry {object : String} {filter : Option String} {calls : TypedCall → Prop}
    {d : Draft} {definitions : List Definition} {e : Evaluation} (hd : d.Sound)
    (hmade : d.MadeFor object filter calls)
    (hunique : ∀ q r, calls q → calls r → q.call = r.call → q = r)
    (htyped : Evaluation.IsTyped (finish object filter definitions d).aliasTypes e.aggregates)
    {r : TypedCall} (hr : calls r) (hnone : r.call.condition? = none) {name : String}
    (hentry : (r.call.key, name) ∈ d.entries r.call) :
    (valueAt e.values name).IsNormal r.valueType := by
  apply htyped.isNormal_valueAt
  intro t ht
  exact valueType_of_entry hd hmade hunique definitions hr hnone hentry ht

theorem legsAreNormal {ms : List ResolvedMetric} {object : String} {filter : Option String}
    {d : Draft} {definitions : List Definition} {e : Evaluation}
    (hd : d.Sound) (hmade : d.MadeFor object filter (Comparison.Requested ms))
    (hunique : ∀ q r, Comparison.Requested ms q → Comparison.Requested ms r →
      q.call = r.call → q = r)
    (htyped : Evaluation.IsTyped (finish object filter definitions d).aliasTypes e.aggregates)
    {m : ResolvedMetric} (hm : m ∈ ms) {x : Definition} (hx : d.Defines m x) :
    LegsAreNormal e.values m x := by
  rintro n q t name numerator denominator rfl hratio
  cases hx with
  | direct => exact nomatch hratio
  | ratio hnumerator hdenominator =>
    obtain ⟨-, rfl, rfl, rfl⟩ := Definition.ratio.inj hratio
    have hn : Comparison.Requested ms n.typedCall := ⟨_, hm, List.mem_cons_self⟩
    have hq : Comparison.Requested ms q.typedCall :=
      ⟨_, hm, List.mem_cons_of_mem _ List.mem_cons_self⟩
    exact ⟨isNormal_of_entry hd hmade hunique htyped hn rfl hnumerator,
      isNormal_of_entry hd hmade hunique htyped hq rfl hdenominator⟩

theorem Tells.sparesDates {source target : Record} {d : Draft} {m : ResolvedMetric}
    {x : Definition} {row : Row} (h : Tells source target x row) (hx : d.Defines m x)
    (hsource : LegsAreNormal source m x) (htarget : LegsAreNormal target m x) :
    row.SparesDates := by
  cases h with
  | direct hmetric hname hs ht hdifference =>
    cases hx with
    | direct hcalls hentry =>
      refine ⟨fun hdate => difference_of_date hdifference (hmetric ▸ hdate), ?_⟩
      intro n q t hratio
      -- a metric of one call is no ratio
      rw [← hmetric, hratio] at hcalls
      exact absurd hcalls (by simp [ResolvedMetric.calls])
  | ratio hmetric hname hs ht hdifference =>
    cases hx with
    | ratio hnumerator hdenominator hallocated =>
      refine ⟨fun hdate => difference_of_date hdifference (hmetric ▸ hdate), ?_⟩
      intro n q t hratio hdate
      rw [hmetric] at hratio
      obtain ⟨rfl, rfl, rfl⟩ := ResolvedMetric.ratio.inj hratio
      obtain ⟨hsn, hsd⟩ := hsource _ _ _ _ _ _ rfl rfl
      obtain ⟨htn, htd⟩ := htarget _ _ _ _ _ _ rfl rfl
      exact ⟨hs.null_of_date hsn hsd hdate, ht.null_of_date htn htd hdate⟩

end Row

namespace Comparison

variable {schema : ObjectSchema} {environment : String} {parsed : List Metric}
  {ms : List ResolvedMetric}

theorem unique_requested (hresolve : Resolution.resolve schema environment parsed = .ok ms)
    (q r : TypedCall) (hq : Requested ms q) (hr : Requested ms r) (h : q.call = r.call) :
    q = r := by
  have htypes : ∀ r, Requested ms r → Resolution.Types schema r := by
    rintro r ⟨m, hm, hr⟩
    obtain ⟨_, _, hsettles⟩ :=
      Sequence.exists_of_mem_right (Resolution.resolve_ok_iff.1 hresolve) hm
    exact hsettles.types r hr
  exact (htypes q hq).unique (htypes r hr) h

theorem sparesDates_of_compile (hresolve : Resolution.resolve schema environment parsed = .ok ms)
    {object : String} {filter : Option String} {p : Plan} (hp : compile object ms filter = .ok p)
    {source target : Evaluation} (hsource : Evaluation.IsTyped p.aliasTypes source.aggregates)
    (htarget : Evaluation.IsTyped p.aliasTypes target.aggregates) {rows : List Row}
    (hrows : Row.assembleAll p.definitions source.values target.values = .ok rows) :
    ∀ row ∈ rows, row.SparesDates := by
  intro row hrow
  have hsettles := Row.settles_of_compile hp source.isPlain_values target.isPlain_values
  obtain ⟨definitions, d, rfl, hrun⟩ := run_of_compile object filter hp
  have hd := hrun.sound Draft.sound_empty
  have hmade : d.MadeFor object (normalizeFilter filter) (Requested ms) :=
    hrun.madeFor _ (fun m hm r hr => ⟨m, hm, hr⟩) (Draft.madeFor_empty _ _ _)
  obtain ⟨x, hx, hassemble⟩ :=
    Sequence.exists_of_mem_right (Sequence.mapM_ok_iff.1 hrows) hrow
  have htells : Row.Tells source.values target.values x row := by
    rcases hsettles x hx with ⟨-, herror⟩ | ⟨-, row', hok, htells⟩
    · rw [herror] at hassemble
      exact absurd hassemble Sequence.error_ne_ok
    · rw [hok] at hassemble
      obtain rfl := Except.ok.inj hassemble
      exact htells
  obtain ⟨m, hm, hdefines⟩ := Sequence.exists_of_mem_right hrun.defines hx
  have hunique := unique_requested hresolve
  exact htells.sparesDates hdefines (Row.legsAreNormal hd hmade hunique hsource hm hdefines)
    (Row.legsAreNormal hd hmade hunique htarget hm hdefines)

/-- Normalization is closed and stable for each type and keeps whole decimals exactly, so that no
row of two evaluations has a difference of dates or a quotient with a date in it. -/
theorem normalize_closed :
    (∀ t v c, Cell.normalize t v = .ok c →
      c.toValue.IsNormal t ∧ Cell.normalize t c.toValue = .ok c) ∧
    (∀ s k e n, Decimal.IsExactly s k e n →
      Cell.normalize .number (.decimal (.finite s k e)) = .ok (.number (.int n))) ∧
    ∀ (schema : ObjectSchema) (environment : String) (parsed : List Metric)
      (ms : List ResolvedMetric) (object : String) (filter : Option String) (p : Plan),
      Resolution.resolve schema environment parsed = .ok ms → compile object ms filter = .ok p →
      ∀ (σ τ ε δ : Type) (b : Backend σ ε) (c : Backend τ δ) (sampleQuery : Option String) (s : σ)
        (t : τ) (source target : Evaluation) (rows : List Row),
        (Evaluation.evaluate b p sampleQuery s).1 = .ok source →
        (Evaluation.evaluate c p sampleQuery t).1 = .ok target →
        Row.assembleAll p.definitions source.values target.values = .ok rows →
        ∀ row ∈ rows, row.SparesDates := by
  refine ⟨fun t v c h => ?_, fun s k e n => Cell.normalize_of_isExactly, ?_⟩
  · have hnormal := Cell.isNormal_of_normalize h
    exact ⟨hnormal, Cell.normalize_toValue hnormal⟩
  · intro schema environment parsed ms object filter p hresolve hp σ τ ε δ b c sampleQuery s t
      source target rows hsource htarget hrows
    exact sparesDates_of_compile hresolve hp (Evaluation.isTyped_of_evaluate hsource)
      (Evaluation.isTyped_of_evaluate htarget) hrows

/-! ## A quotient of a date -/

def maxClosed : ResolvedAggregate := ⟨.max, ⟨"Closed", "date", "Closed"⟩, .date⟩

def dealAmount : ResolvedAggregate := ⟨.sum, ⟨"Amount", "currency", "Amount"⟩, .number⟩

def closingMetrics : List Metric :=
  [.ratio ⟨.max, "closed"⟩ ⟨.sum, "amount"⟩, .fieldAggregate ⟨.max, "CLOSED"⟩]

def settledClosingMetrics : List ResolvedMetric :=
  [.ratio maxClosed dealAmount .number, .fieldAggregate maxClosed]

def closingPlan : Plan where
  object := "Deal"
  filter := none
  query := some "SELECT MAX(Closed) max__closed, SUM(Amount) sum__amount FROM Deal"
  expressions := [⟨"max__closed", "MAX(Closed)", .date⟩, ⟨"sum__amount", "SUM(Amount)", .number⟩]
  definitions :=
    [.ratio (.ratio maxClosed dealAmount .number) "ratio__max_closed_sum_amount" "max__closed"
      "sum__amount",
     .direct (.fieldAggregate maxClosed) "max__closed"]
  conditionals := []
  sampleFields := ["Closed", "Amount"]

/-- A script that answers one query with one record. -/
def oneAnswer (record : Record) : Script := ⟨[.given record], .given [], []⟩

/-- One environment returns dates and decimals, the other numbers for both. -/
def datedRecord : Record :=
  [("max__closed", .date ⟨2024, 3, 5⟩), ("sum__amount", .decimal (.finite false 1200 (-2)))]

def plainRecord : Record := [("max__closed", .int 20240305), ("sum__amount", .bool true)]

def datedEvaluation : Evaluation :=
  ⟨[("max__closed", .text "2024-03-05"), ("sum__amount", .number (.int 12))], []⟩

def plainEvaluation : Evaluation :=
  ⟨[("max__closed", .text "20240305"), ("sum__amount", .number (.int 1))], []⟩

def closingRows : List Row :=
  [⟨.ratio maxClosed dealAmount .number, "ratio__max_closed_sum_amount", .null, .null, none⟩,
   ⟨.fieldAggregate maxClosed, "max__closed", .text "2024-03-05", .text "20240305", none⟩]

theorem normalize_closed_closing :
    Resolution.resolve dealSchema "source" closingMetrics = .ok settledClosingMetrics ∧
      compile "Deal" settledClosingMetrics none = .ok closingPlan ∧
      (Evaluation.evaluate Script.backend closingPlan none (oneAnswer datedRecord)).1 =
        .ok datedEvaluation ∧
      (Evaluation.evaluate Script.backend closingPlan none (oneAnswer plainRecord)).1 =
        .ok plainEvaluation ∧
      Row.assembleAll closingPlan.definitions datedEvaluation.values plainEvaluation.values =
        .ok closingRows ∧
      (∀ row ∈ closingRows, row.SparesDates) ∧
      Cell.normalize .date (.text "2024-03-05") = .ok (.text "2024-03-05") ∧
      Cell.normalize .number (.decimal (.finite false 1200 (-2))) = .ok (.number (.int 12)) := by
  have hresolve : Resolution.resolve dealSchema "source" closingMetrics =
      .ok settledClosingMetrics := by decide +kernel
  have hp : compile "Deal" settledClosingMetrics none = .ok closingPlan := by decide +kernel
  have hsource : (Evaluation.evaluate Script.backend closingPlan none (oneAnswer datedRecord)).1 =
      .ok datedEvaluation := by rfl
  have htarget : (Evaluation.evaluate Script.backend closingPlan none (oneAnswer plainRecord)).1 =
      .ok plainEvaluation := by rfl
  have hrows : Row.assembleAll closingPlan.definitions datedEvaluation.values
      plainEvaluation.values = .ok closingRows := by decide +kernel
  have hdate : Cell.normalize .date (.date ⟨2024, 3, 5⟩) = .ok (.text "2024-03-05") := by rfl
  obtain ⟨hstable, hwhole, hspares⟩ := normalize_closed
  refine ⟨hresolve, hp, hsource, htarget, hrows, ?_, (hstable _ _ _ hdate).2,
    hwhole _ _ _ _ (by decide : Decimal.IsExactly false 1200 (-2) 12)⟩
  exact hspares _ _ _ _ _ _ _ hresolve hp _ _ _ _ _ _ none _ _ _ _ _ hsource htarget hrows

end Comparison
end CrossCheck
