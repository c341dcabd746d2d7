import CrossCheck.Proofs.Compilation.Run
import CrossCheck.Proofs.Reconciliation

/-!
Compilation asks no metric for a type or a label.  Blanking them commutes with every step of it, so
metrics that are spelled alike compile to plans that differ in nothing else.
-/

namespace CrossCheck

/-! ## Blanking types and labels -/

def ResolvedField.untyped (f : ResolvedField) : ResolvedField := ⟨f.name, "", ""⟩

def ResolvedAggregate.untyped (a : ResolvedAggregate) : ResolvedAggregate :=
  ⟨a.function, a.field.untyped, .number⟩

def TypedCall.untyped (r : TypedCall) : TypedCall := ⟨r.call, .number⟩

namespace ResolvedMetric

def untyped : ResolvedMetric → ResolvedMetric
  | count _ => .count .number
  | fieldAggregate a => .fieldAggregate a.untyped
  | countDistinct f _ => .countDistinct f.untyped .number
  | ratio n d _ => .ratio n.untyped d.untyped .number
  | countIf c _ => .countIf c .number
  | sumIf f c _ => .sumIf f.untyped c .number
  | other kind name => .other kind name

theorem untyped_eq_of_spelled_eq {a b : ResolvedMetric} (h : a.spelled = b.spelled) :
    a.untyped = b.untyped := by
  cases a <;> cases b <;> simp_all [spelled, untyped, ResolvedAggregate.spelled,
    ResolvedAggregate.untyped, ResolvedField.untyped]

theorem calls_untyped (m : ResolvedMetric) : m.untyped.calls = m.calls.map (·.untyped) := by
  cases m <;> rfl

end ResolvedMetric

def Expression.untyped (e : Expression) : Expression := { e with valueType := .number }

namespace Definition

def untyped : Definition → Definition
  | direct m aliasName => .direct m.untyped aliasName
  | ratio m aliasName numerator denominator => .ratio m.untyped aliasName numerator denominator
  | other name => .other name

/-- The kind of a definition, its alias and what it reads, without its metric. -/
def shape (x : Definition) : Bool × String × List String := (x.isRatio, x.aliasName, x.reads)

theorem shape_untyped (x : Definition) : x.untyped.shape = x.shape := by
  cases x <;> rfl

end Definition

namespace Plan

/-- Conditional queries have no types of their own to blank. -/
def untyped (p : Plan) : Plan :=
  { p with expressions := p.expressions.map (·.untyped),
           definitions := p.definitions.map (·.untyped) }

/-- Plans that ask the same queries and read the answers under the same aliases. -/
structure Agrees (p q : Plan) : Prop where
  query : p.query = q.query
  filter : p.filter = q.filter
  sampleFields : p.sampleFields = q.sampleFields
  columns : p.expressions.map (fun e => (e.aliasName, e.call)) =
    q.expressions.map (fun e => (e.aliasName, e.call))
  conditionals : p.conditionals = q.conditionals
  definitions : p.definitions.map (·.shape) = q.definitions.map (·.shape)
  sampleQuery : ∀ size, p.sampleQuery? size = q.sampleQuery? size

theorem columns_untyped (p : Plan) : p.untyped.expressions.map (fun e => (e.aliasName, e.call)) =
    p.expressions.map (fun e => (e.aliasName, e.call)) := by
  rw [untyped, List.map_map]
  rfl

theorem shapes_untyped (p : Plan) :
    p.untyped.definitions.map (·.shape) = p.definitions.map (·.shape) := by
  rw [untyped, List.map_map]
  exact List.map_congr_left fun x _ => x.shape_untyped

theorem agrees_of_untyped_eq {p q : Plan} (h : p.untyped = q.untyped) : p.Agrees q where
  query := by
    show p.untyped.query = q.untyped.query
    rw [h]
  filter := by
    show p.untyped.filter = q.untyped.filter
    rw [h]
  sampleFields := by
    show p.untyped.sampleFields = q.untyped.sampleFields
    rw [h]
  columns := by rw [← columns_untyped p, ← columns_untyped q, h]
  conditionals := by
    show p.untyped.conditionals = q.untyped.conditionals
    rw [h]
  definitions := by rw [← shapes_untyped p, ← shapes_untyped q, h]
  sampleQuery size := by
    show p.untyped.sampleQuery? size = q.untyped.sampleQuery? size
    rw [h]

end Plan

namespace Compilation

/-! ## Steps of compilation -/

namespace Draft

def untyped (d : Draft) : Draft := { d with expressions := d.expressions.map (·.untyped) }

theorem sample_untyped (d : Draft) (field : String) :
    d.untyped.sample field = (d.sample field).untyped := by
  rw [sample, sample, apply_ite untyped]
  rfl

theorem column_untyped (d : Draft) (call base : String) (t : ValueType) :
    d.untyped.column call base .number = Prod.map id untyped (d.column call base t) := by
  have hfind : d.untyped.expressions.find? (·.call == call) =
      (d.expressions.find? (·.call == call)).map (·.untyped) := by
    rw [untyped, List.find?_map]
    rfl
  have hnames : d.untyped.expressions.map (·.aliasName) = d.expressions.map (·.aliasName) := by
    rw [untyped, List.map_map]
    rfl
  rw [column, column, hfind, hnames]
  cases d.expressions.find? (·.call == call) with
  | some e => rfl
  | none => simp [untyped, Expression.untyped]

theorem conditional_untyped (object : String) (filter : Option String) (d : Draft)
    (key call condition start : String) :
    conditional object filter d.untyped key call condition start =
      Prod.map id untyped (conditional object filter d key call condition start) := by
  have hlookup : d.untyped.conditionals.lookup key = d.conditionals.lookup key := rfl
  rw [conditional, conditional, hlookup]
  cases d.conditionals.lookup key <;> rfl

theorem request_untyped (object : String) (filter : Option String) (d : Draft) (r : TypedCall) :
    d.untyped.request object filter r.untyped =
      Prod.map id untyped (d.request object filter r) := by
  obtain ⟨c, t⟩ := r
  cases c with
  | count => exact column_untyped d _ _ t
  | aggregate a =>
    show (d.untyped.sample a.field).column _ _ .number = _
    rw [sample_untyped]
    exact column_untyped _ _ _ t
  | countDistinct f =>
    show (d.untyped.sample f).column _ _ .number = _
    rw [sample_untyped]
    exact column_untyped _ _ _ t
  | countIf c => exact conditional_untyped object filter d _ _ c _
  | sumIf f c =>
    show conditional object filter (d.untyped.sample f) _ _ c _ = _
    rw [sample_untyped]
    exact conditional_untyped object filter _ _ _ c _

theorem aggregate_untyped (d : Draft) (a : ResolvedAggregate) :
    d.untyped.aggregate a.untyped = Prod.map id untyped (d.aggregate a) :=
  request_untyped "" none d a.typedCall

end Draft

/-- What compiling a metric gives, without types and labels. -/
def untypedPair (made : Definition × Draft) : Definition × Draft :=
  (made.1.untyped, made.2.untyped)

section
variable (object : String) (filter : Option String)

theorem directly_untyped (m : ResolvedMetric) (made : String × Draft) :
    directly m.untyped (Prod.map id Draft.untyped made) = untypedPair (directly m made) := rfl

theorem compileMetric_untyped (d : Draft) (m : ResolvedMetric) :
    compileMetric object filter d.untyped m.untyped =
      (compileMetric object filter d m).map untypedPair := by
  by_cases hratio : m.isRatio = true
  · cases m with
    | ratio n q t =>
      show compileMetric object filter d.untyped (.ratio n.untyped q.untyped .number) = _
      simp only [compileMetric, Draft.aggregate_untyped, Prod.map]
      rfl
    | _ => exact absurd hratio Bool.false_ne_true
  · cases hs : m.isSupported with
    | false =>
      cases m with
      | other kind name => rfl
      | _ => exact absurd hs.symm Bool.false_ne_true
    | true =>
      obtain ⟨c, hc⟩ := ResolvedMetric.calls_of_direct hs (Bool.eq_false_iff.2 hratio)
      have huntyped : m.untyped.calls = [TypedCall.untyped ⟨c, m.valueType⟩] := by
        rw [ResolvedMetric.calls_untyped, hc]
        rfl
      rw [compileMetric_direct object filter d hc, compileMetric_direct object filter _ huntyped,
        Draft.request_untyped, directly_untyped]
      rfl

theorem compileMetrics_untyped (d : Draft) (ms : List ResolvedMetric) :
    compileMetrics object filter d.untyped (ms.map (·.untyped)) =
      (compileMetrics object filter d ms).map fun made =>
        (made.1.map (·.untyped), made.2.untyped) := by
  induction ms generalizing d with
  | nil => rfl
  | cons m ms ih =>
    have hm := compileMetric_untyped object filter d m
    rw [List.map_cons]
    cases hmade : compileMetric object filter d m with
    | error e =>
      rw [hmade] at hm
      rw [compileMetrics, compileMetrics, hm, hmade]
      rfl
    | ok made =>
      obtain ⟨x, e⟩ := made
      rw [hmade] at hm
      rw [compileMetrics_cons_of_ok object filter hm, compileMetrics_cons_of_ok object filter hmade,
        ih]
      cases compileMetrics object filter e ms <;> rfl

theorem finish_untyped (definitions : List Definition) (d : Draft) :
    finish object filter (definitions.map (·.untyped)) d.untyped =
      (finish object filter definitions d).untyped := by
  have hempty : d.untyped.expressions.isEmpty = d.expressions.isEmpty := List.isEmpty_map
  have hcolumns : d.untyped.expressions.map (fun e => e.call ++ " " ++ e.aliasName) =
      d.expressions.map (fun e => e.call ++ " " ++ e.aliasName) := by
    rw [Draft.untyped, List.map_map]
    rfl
  rw [finish, hempty, hcolumns]
  rfl

/-- A plan without types and labels is what metrics without them compile to. -/
theorem compile_untyped (ms : List ResolvedMetric) :
    compile object (ms.map (·.untyped)) filter =
      (compile object ms filter).map (·.untyped) := by
  rw [compile, compile, List.isEmpty_map]
  split
  · rfl
  · have h := compileMetrics_untyped object (normalizeFilter filter) .empty ms
    rw [show Draft.untyped .empty = .empty from rfl] at h
    simp only [h]
    cases compileMetrics object (normalizeFilter filter) .empty ms with
    | error e => rfl
    | ok made => exact congrArg Except.ok (finish_untyped object _ made.1 made.2)

end

theorem map_untyped_of_spelled {source target : List ResolvedMetric}
    (h : source.map (·.spelled) = target.map (·.spelled)) :
    source.map (·.untyped) = target.map (·.untyped) := by
  rw [← List.forall₂_eq_eq_eq, List.forall₂_map_left_iff, List.forall₂_map_right_iff] at h ⊢
  exact h.imp fun _ _ => ResolvedMetric.untyped_eq_of_spelled_eq

/-- Lists of metrics of the six kinds that reconcile compile to plans that differ in the types and
labels of their metrics and in nothing else. -/
theorem compile_agrees_of_reconcile {source target ms : List ResolvedMetric} (hne : source ≠ [])
    (hs : ∀ m ∈ source, m.isSupported = true) (ht : ∀ m ∈ target, m.isSupported = true)
    (h : Reconciliation.reconcile source target = .ok ms) (object : String)
    (filter : Option String) :
    ∃ p q, compile object source filter = .ok p ∧ compile object target filter = .ok q ∧
      p.Agrees q ∧ p.untyped = q.untyped := by
  have hspelled := ((Reconciliation.reconcile_ok_iff hs ht).1 h).2
  have hlength := congrArg List.length hspelled
  rw [List.length_map, List.length_map] at hlength
  have hne' : target ≠ [] := by
    rintro rfl
    exact hne (List.length_eq_zero_iff.1 hlength)
  obtain ⟨_, _, hp, _⟩ := compile_run object filter hne hs
  obtain ⟨_, _, hq, _⟩ := compile_run object filter hne' ht
  have hplans : Except.map Plan.untyped (compile object source filter) =
      Except.map Plan.untyped (compile object target filter) := by
    rw [← compile_untyped, ← compile_untyped, map_untyped_of_spelled hspelled]
  rw [hp, hq] at hplans
  have huntyped := Except.ok.inj hplans
  exact ⟨_, _, hp, hq, Plan.agrees_of_untyped_eq huntyped, huntyped⟩

/-- A source that keeps amounts and dates as such. -/
def datedMetrics : List ResolvedMetric :=
  [.fieldAggregate ⟨.max, ⟨"CloseDate", "date", "Close Date"⟩, .date⟩,
   .ratio ⟨.sum, ⟨"Amount", "currency", "Amount"⟩, .number⟩
    ⟨.max, ⟨"CloseDate", "date", "Close Date"⟩, .date⟩ .number,
   .sumIf ⟨"Amount", "currency", "Amount"⟩ "IsWon = true" .number]

/-- A target that keeps the same fields as plain numbers. -/
def undatedMetrics : List ResolvedMetric :=
  [.fieldAggregate ⟨.max, ⟨"CloseDate", "int", "Closed"⟩, .number⟩,
   .ratio ⟨.sum, ⟨"Amount", "double", "Sum"⟩, .number⟩
    ⟨.max, ⟨"CloseDate", "int", "Closed"⟩, .number⟩ .number,
   .sumIf ⟨"Amount", "double", "Sum"⟩ "IsWon = true" .number]

theorem compile_agrees_of_reconcile_dated :
    datedMetrics ≠ [] ∧ (∀ m ∈ datedMetrics, m.isSupported = true) ∧
      (∀ m ∈ undatedMetrics, m.isSupported = true) ∧
      Reconciliation.reconcile datedMetrics undatedMetrics = .ok datedMetrics ∧
      ∃ p q, compile "Deal" datedMetrics (some " IsDeleted = false ") = .ok p ∧
        compile "Deal" undatedMetrics (some " IsDeleted = false ") = .ok q ∧
        p.Agrees q ∧ p.untyped = q.untyped := by
  have hne : datedMetrics ≠ [] := by decide
  have hs : ∀ m ∈ datedMetrics, m.isSupported = true := by decide
  have ht : ∀ m ∈ undatedMetrics, m.isSupported = true := by decide
  have h : Reconciliation.reconcile datedMetrics undatedMetrics = .ok datedMetrics := by rfl
  exact ⟨hne, hs, ht, h,
    compile_agrees_of_reconcile hne hs ht h "Deal" (some " IsDeleted = false ")⟩

end Compilation
end CrossCheck
