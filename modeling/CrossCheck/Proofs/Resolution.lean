import CrossCheck.Proofs.Metric
import CrossCheck.Proofs.Sequence
import CrossCheck.Resolution

/-!
What a schema settles a metric for.  `Settles` says it without mention of errors, and
`resolve_ok_iff` that resolution gives this and nothing else.  The spelling of the result, the
types of its calls and the characters of its field names are read off it.
-/

namespace CrossCheck

namespace ObjectSchema

variable {s : ObjectSchema}

/-- The name under which the schema keeps the field that a reference finds. -/
def spelling? (s : ObjectSchema) (reference : String) : Option String :=
  (s.field? reference).map (·.name)

/-- The reference as the schema spells it; what it does not know stays. -/
def spell (s : ObjectSchema) (reference : String) : String :=
  (s.spelling? reference).getD reference

theorem spell_eq {reference : String} {f : Field} (h : s.field? reference = some f) :
    s.spell reference = f.name := by
  rw [spell, spelling?, h]
  rfl

theorem lower_name_of_field? {reference : String} {f : Field} (h : s.field? reference = some f) :
    Text.lower f.name = lookupKey reference := by
  simpa using List.find?_some h

theorem field?_congr {reference reference' : String}
    (h : lookupKey reference = lookupKey reference') : s.field? reference = s.field? reference' := by
  rw [field?, field?, h]

/-- Fields that references find are the same once they have the same name. -/
theorem field_unique {reference reference' : String} {f g : Field}
    (hf : s.field? reference = some f) (hg : s.field? reference' = some g)
    (h : f.name = g.name) : f = g := by
  have hkeys : lookupKey reference = lookupKey reference' := by
    rw [← lower_name_of_field? hf, ← lower_name_of_field? hg, h]
  rw [field?_congr hkeys, hg] at hf
  exact (Option.some.inj hf).symm

/-- The name of a field holds a colon only if the reference does. -/
theorem colon_not_mem_name {reference : String} {f : Field} (h : s.field? reference = some f)
    (hcolon : ':' ∉ reference.toList) : ':' ∉ f.name.toList := by
  intro hmem
  have hlower := Text.colon_mem_lower.2 hmem
  rw [lower_name_of_field? h, lookupKey, Text.colon_mem_lower, Text.strip,
    String.toList_ofList] at hlower
  exact hcolon (Text.mem_of_mem_trim hlower)

end ObjectSchema

namespace Metric

/-- The fields that a metric refers to. -/
def references : Metric → List String
  | fieldAggregate a => [a.field]
  | countDistinct f => [f]
  | ratio n d => [n.field, d.field]
  | sumIf f _ => [f]
  | _ => []

def respelled (spell : String → String) : Metric → Metric
  | count => .count
  | fieldAggregate a => .fieldAggregate ⟨a.function, spell a.field⟩
  | countDistinct f => .countDistinct (spell f)
  | ratio n d => .ratio ⟨n.function, spell n.field⟩ ⟨d.function, spell d.field⟩
  | countIf c => .countIf c
  | sumIf f c => .sumIf (spell f) c
  | other kind name => .other kind name

theorem respelled_eq_iff {m : Metric} {spell spell' : String → String} :
    m.respelled spell = m.respelled spell' ↔ ∀ r ∈ m.references, spell r = spell' r := by
  cases m <;> simp [respelled, references]

end Metric

namespace Resolution

open Sequence

/-- The types of fields that a function accepts. -/
def accepts (function : AggregateFunction) (f : Field) : Bool :=
  if function.isExtreme then f.isNumeric || f.isTemporal else f.isNumeric

/-- How a schema settles an aggregate of a field. -/
inductive SettlesAggregate (schema : ObjectSchema) : FieldAggregate → ResolvedAggregate → Prop where
  | intro {function : AggregateFunction} {reference : String} {f : Field}
      (hfield : schema.field? reference = some f) (haggregatable : f.aggregatable = true)
      (haccepts : accepts function f = true) :
      SettlesAggregate schema ⟨function, reference⟩
        ⟨function, resolvedField f, aggregateType function f⟩

/-- How a schema settles a metric: every reference finds a field that is fit for its use. -/
inductive Settles (schema : ObjectSchema) : Metric → ResolvedMetric → Prop where
  | count : Settles schema .count (.count .number)
  | fieldAggregate {a : FieldAggregate} {x : ResolvedAggregate}
      (h : SettlesAggregate schema a x) : Settles schema (.fieldAggregate a) (.fieldAggregate x)
  | countDistinct {reference : String} {f : Field} (hfield : schema.field? reference = some f)
      (haggregatable : f.aggregatable = true) :
      Settles schema (.countDistinct reference) (.countDistinct (resolvedField f) .number)
  | ratio {n d : FieldAggregate} {x y : ResolvedAggregate} (hn : SettlesAggregate schema n x)
      (hd : SettlesAggregate schema d y) : Settles schema (.ratio n d) (.ratio x y .number)
  | countIf (condition : String) : Settles schema (.countIf condition) (.countIf condition .number)
  | sumIf {reference condition : String} {f : Field} (hfield : schema.field? reference = some f)
      (haggregatable : f.aggregatable = true) (hnumeric : f.isNumeric = true) :
      Settles schema (.sumIf reference condition) (.sumIf (resolvedField f) condition .number)

section
variable {schema : ObjectSchema} {environment : String}

/-! ## Resolution settles -/

theorem aggregatableField_ok_iff {reference use : String} {f : Field} :
    aggregatableField schema environment reference use = .ok f ↔
      schema.field? reference = some f ∧ f.aggregatable = true := by
  rw [aggregatableField]
  split
  · next h => simp [h]
  · next g h =>
    rw [h, Option.some.injEq]
    split
    · next hg =>
      refine ⟨fun heq => ?_, fun heq => heq.1 ▸ rfl⟩
      rw [← Except.ok.inj heq]
      exact ⟨rfl, hg⟩
    · next hg => exact ⟨fun heq => absurd heq (by simp), fun heq => absurd (heq.1 ▸ heq.2) hg⟩

/-- What the types of a function are called where a field is refused for its type. -/
def required (function : AggregateFunction) : String :=
  if function.isExtreme then "numeric or date/time" else "numeric"

theorem resolveAggregate_eq (schema : ObjectSchema) (environment : String) (a : FieldAggregate) :
    resolveAggregate schema environment a = (do
      let f ← aggregatableField schema environment a.field a.function.name
      if accepts a.function f then
        return ⟨a.function, resolvedField f, aggregateType a.function f⟩
      else throw (wrongType schema environment f a.function.name (required a.function))) := by
  rw [resolveAggregate]
  congr 1
  funext f
  cases hextreme : a.function.isExtreme with
  | true =>
    cases hfit : f.isNumeric || f.isTemporal with
    | true =>
      simp only [accepts, hextreme, hfit]
      rfl
    | false =>
      simp only [accepts, required, hextreme, hfit]
      rfl
  | false =>
    cases hfit : f.isNumeric with
    | true =>
      simp only [accepts, hextreme, hfit]
      rfl
    | false =>
      simp only [accepts, required, hextreme, hfit]
      rfl

theorem resolveAggregate_ok_iff {a : FieldAggregate} {x : ResolvedAggregate} :
    resolveAggregate schema environment a = .ok x ↔ SettlesAggregate schema a x := by
  obtain ⟨function, reference⟩ := a
  rw [resolveAggregate_eq, bind_ok_iff]
  constructor
  · rintro ⟨f, hf, h⟩
    obtain ⟨hfield, haggregatable⟩ := aggregatableField_ok_iff.1 hf
    split at h
    · next haccepts =>
      rw [← pure_ok_iff.1 h]
      exact .intro hfield haggregatable haccepts
    · exact absurd h error_ne_ok
  · rintro ⟨hfield, haggregatable, haccepts⟩
    exact ⟨_, aggregatableField_ok_iff.2 ⟨hfield, haggregatable⟩, if_pos haccepts⟩

theorem resolveMetric_ok_iff {m : Metric} {r : ResolvedMetric} :
    resolveMetric schema environment m = .ok r ↔ Settles schema m r := by
  constructor
  · intro h
    cases m with
    | count =>
      rw [← pure_ok_iff.1 h]
      exact .count
    | fieldAggregate a =>
      obtain ⟨x, hx, h⟩ := bind_ok_iff.1 h
      rw [← pure_ok_iff.1 h]
      exact .fieldAggregate (resolveAggregate_ok_iff.1 hx)
    | countDistinct reference =>
      obtain ⟨f, hf, h⟩ := bind_ok_iff.1 h
      obtain ⟨hfield, haggregatable⟩ := aggregatableField_ok_iff.1 hf
      rw [← pure_ok_iff.1 h]
      exact .countDistinct hfield haggregatable
    | ratio n d =>
      obtain ⟨x, hx, h⟩ := bind_ok_iff.1 h
      obtain ⟨y, hy, h⟩ := bind_ok_iff.1 h
      rw [← pure_ok_iff.1 h]
      exact .ratio (resolveAggregate_ok_iff.1 hx) (resolveAggregate_ok_iff.1 hy)
    | countIf condition =>
      rw [← pure_ok_iff.1 h]
      exact .countIf condition
    | sumIf reference condition =>
      obtain ⟨f, hf, h⟩ := bind_ok_iff.1 h
      obtain ⟨hfield, haggregatable⟩ := aggregatableField_ok_iff.1 hf
      cases hnumeric : f.isNumeric with
      | false =>
        rw [hnumeric] at h
        exact absurd h error_ne_ok
      | true =>
        rw [hnumeric] at h
        rw [← Except.ok.inj h]
        exact .sumIf hfield haggregatable hnumeric
    | other kind name => exact absurd h error_ne_ok
  · intro h
    cases h with
    | count => rfl
    | fieldAggregate hx => exact bind_ok_iff.2 ⟨_, resolveAggregate_ok_iff.2 hx, rfl⟩
    | countDistinct hfield haggregatable =>
      exact bind_ok_iff.2 ⟨_, aggregatableField_ok_iff.2 ⟨hfield, haggregatable⟩, rfl⟩
    | ratio hn hd =>
      exact bind_ok_iff.2 ⟨_, resolveAggregate_ok_iff.2 hn,
        bind_ok_iff.2 ⟨_, resolveAggregate_ok_iff.2 hd, rfl⟩⟩
    | countIf condition => rfl
    | sumIf hfield haggregatable hnumeric =>
      refine bind_ok_iff.2 ⟨_, aggregatableField_ok_iff.2 ⟨hfield, haggregatable⟩, ?_⟩
      rw [hnumeric]
      rfl

/-- Resolution settles every metric of the list, or gives no list at all. -/
theorem resolve_ok_iff {ms : List Metric} {rs : List ResolvedMetric} :
    resolve schema environment ms = .ok rs ↔ List.Forall₂ (Settles schema) ms rs := by
  rw [resolve, mapM_ok_iff]
  simp only [resolveMetric_ok_iff]

/-! ## Types of calls -/

/-- The call has the type that the schema gives it: a date for an extreme of a temporal field that
some reference finds, and a number otherwise. -/
def Types (schema : ObjectSchema) (r : TypedCall) : Prop :=
  match r.call with
  | .aggregate a => ∃ reference f, schema.field? reference = some f ∧ f.name = a.field ∧
      r.valueType = aggregateType a.function f
  | _ => r.valueType = .number

/-- One schema gives a call one type. -/
theorem Types.unique {q r : TypedCall} (hq : Types schema q) (hr : Types schema r)
    (h : q.call = r.call) : q = r := by
  obtain ⟨c, t⟩ := q
  obtain ⟨c', t'⟩ := r
  have hcalls : c = c' := h
  subst hcalls
  cases c with
  | aggregate a =>
    obtain ⟨reference, f, hf, hfname, ht⟩ := hq
    obtain ⟨reference', g, hg, hgname, ht'⟩ := hr
    have hfields : f = g := ObjectSchema.field_unique hf hg (hfname.trans hgname.symm)
    have htypes : t = t' := by
      rw [show t = _ from ht, show t' = _ from ht', hfields]
    rw [htypes]
  | _ =>
    have htypes : t = t' := Eq.trans hq hr.symm
    rw [htypes]

theorem Types.of_condition? {r : TypedCall} (h : Types schema r)
    (hcondition : r.call.condition? ≠ none) : r.valueType = .number := by
  obtain ⟨c, t⟩ := r
  cases c with
  | countIf c => exact h
  | sumIf f c => exact h
  | _ => exact absurd rfl hcondition

theorem SettlesAggregate.types {a : FieldAggregate} {x : ResolvedAggregate}
    (h : SettlesAggregate schema a x) : Types schema x.typedCall := by
  obtain ⟨hfield, _, _⟩ := h
  exact ⟨_, _, hfield, rfl, rfl⟩

/-! ## What is settled -/

variable {m : Metric} {r : ResolvedMetric}

theorem SettlesAggregate.spelled {a : FieldAggregate} {x : ResolvedAggregate}
    (h : SettlesAggregate schema a x) : x.spelled = ⟨a.function, schema.spell a.field⟩ := by
  obtain ⟨hfield, _, _⟩ := h
  rw [ObjectSchema.spell_eq hfield]
  rfl

theorem SettlesAggregate.exists_field {a : FieldAggregate} {x : ResolvedAggregate}
    (h : SettlesAggregate schema a x) : ∃ f, schema.field? a.field = some f := by
  obtain ⟨hfield, _, _⟩ := h
  exact ⟨_, hfield⟩

namespace Settles

theorem isSupported (h : Settles schema m r) : r.isSupported = true := by
  cases h <;> rfl

/-- The result is the metric in the spelling of the schema. -/
theorem spelled (h : Settles schema m r) : r.spelled = m.respelled schema.spell := by
  cases h with
  | fieldAggregate hx => exact congrArg Metric.fieldAggregate hx.spelled
  | countDistinct hfield => exact congrArg Metric.countDistinct (ObjectSchema.spell_eq hfield).symm
  | ratio hn hd => exact congrArg₂ Metric.ratio hn.spelled hd.spelled
  | sumIf hfield =>
    exact congrArg (Metric.sumIf · _) (ObjectSchema.spell_eq hfield).symm
  | _ => rfl

theorem exists_field (h : Settles schema m r) {reference : String}
    (hmem : reference ∈ m.references) : ∃ f, schema.field? reference = some f := by
  cases h with
  | count => exact absurd hmem List.not_mem_nil
  | countIf => exact absurd hmem List.not_mem_nil
  | fieldAggregate hx =>
    rw [List.mem_singleton.1 hmem]
    exact hx.exists_field
  | countDistinct hfield =>
    rw [List.mem_singleton.1 hmem]
    exact ⟨_, hfield⟩
  | ratio hn hd =>
    rcases List.mem_cons.1 hmem with rfl | hmem
    · exact hn.exists_field
    · rw [List.mem_singleton.1 hmem]
      exact hd.exists_field
  | sumIf hfield =>
    rw [List.mem_singleton.1 hmem]
    exact ⟨_, hfield⟩

theorem types (h : Settles schema m r) : ∀ c ∈ r.calls, Types schema c := by
  intro c hc
  cases h with
  | fieldAggregate hx =>
    rw [List.mem_singleton.1 hc]
    exact hx.types
  | ratio hn hd =>
    rcases List.mem_cons.1 hc with rfl | hc
    · exact hn.types
    · rw [List.mem_singleton.1 hc]
      exact hd.types
  | _ =>
    rw [List.mem_singleton.1 hc]
    rfl

/-- A field that was read before a colon is kept under a name without one. -/
theorem colon_not_mem {f : ResolvedField} {c : String} {t : ValueType}
    (h : Settles schema m (.sumIf f c t))
    (hcolon : ∀ reference c, m = .sumIf reference c → ':' ∉ reference.toList) :
    ':' ∉ f.name.toList := by
  cases h with
  | sumIf hfield => exact ObjectSchema.colon_not_mem_name hfield (hcolon _ _ rfl)

end Settles

/-- Fields of conditional sums that come from tokens hold no colon in any schema. -/
theorem colon_not_mem_of_resolve {ms : List Metric} {rs : List ResolvedMetric}
    (hresolve : resolve schema environment ms = .ok rs)
    (hcolon : ∀ reference c, Metric.sumIf reference c ∈ ms → ':' ∉ reference.toList)
    {f : ResolvedField} {c : String} {t : ValueType} (hmem : .sumIf f c t ∈ rs) :
    ':' ∉ f.name.toList := by
  obtain ⟨m, hm, hsettles⟩ := exists_of_mem_right (resolve_ok_iff.1 hresolve) hmem
  refine hsettles.colon_not_mem fun reference c heq => hcolon reference c ?_
  rw [← heq]
  exact hm

end

end Resolution
end CrossCheck
