import CrossCheck.Compilation
import CrossCheck.Proofs.Resolution
import CrossCheck.Proofs.Text.Case

/-!
How a reference spells its field has no part in resolution.  References with one lookup key find
one field, so metrics that differ in such references only come out the same, up to the name that a
missing field is reported under.  The name that the schema keeps a field under is a reference to
that field, so what is resolved can be resolved again.
-/

namespace CrossCheck

namespace ObjectSchema

variable {s : ObjectSchema}

/-- The name of a field that a reference finds has no blanks around it, since the reference was
trimmed before it was lowered and the name was not. -/
theorem strip_name_of_field? {reference : String} {f : Field} (h : s.field? reference = some f) :
    Text.strip f.name = f.name := by
  have hlower := lower_name_of_field? h
  rw [lookupKey] at hlower
  exact Text.strip_eq_self_of_lower_eq hlower

theorem lookupKey_name_of_field? {reference : String} {f : Field}
    (h : s.field? reference = some f) : lookupKey f.name = lookupKey reference := by
  rw [lookupKey, strip_name_of_field? h, lower_name_of_field? h]

/-- A field is found by its own name, once it is found at all. -/
theorem lookupKey_spell (s : ObjectSchema) (reference : String) :
    lookupKey (s.spell reference) = lookupKey reference := by
  cases h : s.field? reference with
  | none =>
    rw [spell, spelling?, h]
    rfl
  | some f => rw [spell_eq h, lookupKey_name_of_field? h]

end ObjectSchema

namespace Metric

theorem respelled_respelled (m : Metric) (spell spell' : String → String) :
    (m.respelled spell).respelled spell' = m.respelled (spell' ∘ spell) := by
  cases m <;> rfl

/-- Metrics that differ in the spelling of fields only: trimmed and lowered they are the same. -/
def Alike (m m' : Metric) : Prop :=
  (m.respelled fun field => Text.lower (Text.strip field)) =
    m'.respelled fun field => Text.lower (Text.strip field)

theorem alike_respelled (s : ObjectSchema) (m : Metric) : Alike (m.respelled s.spell) m := by
  rw [Alike, respelled_respelled, respelled_eq_iff]
  exact fun reference _ => s.lookupKey_spell reference

end Metric

namespace Resolution

open Sequence

/-- Errors that differ at most in how they spell a field that was not found. -/
inductive Error.Alike : Error → Error → Prop where
  | refl (e : Error) : Alike e e
  | fieldNotFound {object field field' environment : String}
      (h : Text.lower field = Text.lower field') :
      Alike (.fieldNotFound object field environment) (.fieldNotFound object field' environment)

/-- The same result, or errors that are alike. -/
inductive Agree {α : Type} : Except Error α → Except Error α → Prop where
  | ok (a : α) : Agree (.ok a) (.ok a)
  | error {e e' : Error} (h : e.Alike e') : Agree (.error e) (.error e')

namespace Agree

variable {α β : Type} {x y : Except Error α}

theorem refl (x : Except Error α) : Agree x x := by
  cases x with
  | ok a => exact .ok a
  | error e => exact .error (.refl e)

theorem bind (h : Agree x y) {g g' : α → Except Error β} (hg : ∀ a, Agree (g a) (g' a)) :
    Agree (x >>= g) (y >>= g') := by
  cases h with
  | ok a => exact hg a
  | error h => exact .error h

/-- Computations that agree are continued in one way. -/
theorem bind_same (h : Agree x y) (g : α → Except Error β) : Agree (x >>= g) (y >>= g) :=
  h.bind fun a => refl (g a)

theorem ok_iff (h : Agree x y) {a : α} : x = .ok a ↔ y = .ok a := by
  cases h with
  | ok b => exact Iff.rfl
  | error h => exact ⟨fun heq => absurd heq error_ne_ok, fun heq => absurd heq error_ne_ok⟩

theorem exists_error (h : Agree x y) {e : Error} (hx : x = .error e) :
    ∃ e', y = .error e' ∧ e.Alike e' := by
  cases h with
  | ok b => exact absurd hx.symm error_ne_ok
  | error h =>
    obtain rfl := Except.error.inj hx
    exact ⟨_, rfl, h⟩

end Agree

section
variable {schema : ObjectSchema} {environment : String}

theorem agree_aggregatableField {reference reference' : String}
    (h : ObjectSchema.lookupKey reference = ObjectSchema.lookupKey reference') (use : String) :
    Agree (aggregatableField schema environment reference use)
      (aggregatableField schema environment reference' use) := by
  rw [aggregatableField, aggregatableField, ObjectSchema.field?_congr h]
  split
  · exact .error (.fieldNotFound h)
  · exact .refl _

theorem agree_resolveAggregate {function : AggregateFunction} {reference reference' : String}
    (h : ObjectSchema.lookupKey reference = ObjectSchema.lookupKey reference') :
    Agree (resolveAggregate schema environment ⟨function, reference⟩)
      (resolveAggregate schema environment ⟨function, reference'⟩) := by
  rw [resolveAggregate_eq, resolveAggregate_eq]
  exact (agree_aggregatableField h function.name).bind_same _

theorem agree_resolveMetric {m m' : Metric} (h : m.Alike m') :
    Agree (resolveMetric schema environment m) (resolveMetric schema environment m') := by
  rw [Metric.Alike] at h
  cases m with
  | count => cases m' with
    | count => exact .refl _
    | _ => simp [Metric.respelled] at h
  | fieldAggregate a => cases m' with
    | fieldAggregate a' =>
      obtain ⟨function, reference⟩ := a
      obtain ⟨function', reference'⟩ := a'
      simp only [Metric.respelled, Metric.fieldAggregate.injEq, FieldAggregate.mk.injEq] at h
      obtain ⟨rfl, hkeys⟩ := h
      exact (agree_resolveAggregate hkeys).bind_same _
    | _ => simp [Metric.respelled] at h
  | countDistinct reference => cases m' with
    | countDistinct reference' =>
      exact (agree_aggregatableField (Metric.countDistinct.inj h) "count_distinct").bind_same _
    | _ => simp [Metric.respelled] at h
  | ratio n d => cases m' with
    | ratio n' d' =>
      obtain ⟨⟨f, r⟩, ⟨g, s⟩⟩ := n, d
      obtain ⟨⟨f', r'⟩, ⟨g', s'⟩⟩ := n', d'
      simp only [Metric.respelled, Metric.ratio.injEq, FieldAggregate.mk.injEq] at h
      obtain ⟨⟨rfl, hnumerator⟩, rfl, hdenominator⟩ := h
      -- The denominator is only looked at once the numerators have come out the same.
      refine (agree_resolveAggregate hnumerator).bind fun x => ?_
      exact (agree_resolveAggregate hdenominator).bind_same _
    | _ => simp [Metric.respelled] at h
  | countIf c => cases m' with
    | countIf c' =>
      obtain rfl := Metric.countIf.inj h
      exact .refl _
    | _ => simp [Metric.respelled] at h
  | sumIf reference c => cases m' with
    | sumIf reference' c' =>
      obtain ⟨hkeys, rfl⟩ := Metric.sumIf.inj h
      exact (agree_aggregatableField hkeys "sum_if").bind_same _
    | _ => simp [Metric.respelled] at h
  | other kind name => cases m' with
    | other kind' name' =>
      obtain ⟨-, rfl⟩ := Metric.other.inj h
      exact .refl _
    | _ => simp [Metric.respelled] at h

/-! ## Lists of metrics -/

variable {ms ms' : List Metric}

theorem agree_resolve (h : List.Forall₂ Metric.Alike ms ms') :
    Agree (resolve schema environment ms) (resolve schema environment ms') := by
  induction h with
  | nil => exact .refl _
  | cons hm _ ih =>
    rw [resolve, resolve, List.mapM_cons, List.mapM_cons]
    exact (agree_resolveMetric hm).bind fun r => ih.bind_same _

theorem failsAt_of_alike (h : List.Forall₂ Metric.Alike ms ms') {k : Nat} {e : Error}
    (hfails : FailsAt (resolveMetric schema environment) ms k e) :
    ∃ e', FailsAt (resolveMetric schema environment) ms' k e' ∧ e.Alike e' := by
  induction hfails generalizing ms' with
  | head hx =>
    cases h with
    | cons hm hms =>
      obtain ⟨e', he', halike⟩ := (agree_resolveMetric hm).exists_error hx
      exact ⟨e', .head he', halike⟩
  | tail hx _ ih =>
    cases h with
    | cons hm hms =>
      obtain ⟨e', hfails, halike⟩ := ih hms
      exact ⟨e', .tail ((agree_resolveMetric hm).ok_iff.1 hx) hfails, halike⟩

/-- The outcomes of lists that differ in the spelling of fields only. -/
structure ComeOutAlike (schema : ObjectSchema) (environment : String) (ms ms' : List Metric) :
    Prop where
  ok_iff : ∀ rs, resolve schema environment ms = .ok rs ↔ resolve schema environment ms' = .ok rs
  plans : ∀ (object : String) (filter : Option String) (p : Plan),
    (∃ rs, resolve schema environment ms = .ok rs ∧ Compilation.compile object rs filter = .ok p) ↔
      ∃ rs, resolve schema environment ms' = .ok rs ∧ Compilation.compile object rs filter = .ok p
  /-- The first metric that fails stands at one place in both lists. -/
  error : ∀ e, resolve schema environment ms = .error e → ∃ k e',
    resolve schema environment ms' = .error e' ∧ e.Alike e' ∧
    FailsAt (resolveMetric schema environment) ms k e ∧
    FailsAt (resolveMetric schema environment) ms' k e'
  /-- A list in the spelling of the schema is resolved to the same once more. -/
  resolved : ∀ rs, resolve schema environment ms = .ok rs →
    rs.map (·.spelled) = ms.map (·.respelled schema.spell) ∧
    resolve schema environment (rs.map (·.spelled)) = .ok rs

theorem resolve_alike (schema : ObjectSchema) (environment : String)
    (h : List.Forall₂ Metric.Alike ms ms') : ComeOutAlike schema environment ms ms' where
  ok_iff rs := (agree_resolve h).ok_iff
  plans object filter p := by simp only [(agree_resolve h).ok_iff]
  error e he := by
    obtain ⟨k, hk⟩ := exists_failsAt_of_mapM_error he
    obtain ⟨e', hk', halike⟩ := failsAt_of_alike h hk
    exact ⟨k, e', hk'.mapM_error, halike, hk, hk'⟩
  resolved rs hrs := by
    have hspelled : rs.map (·.spelled) = ms.map (·.respelled schema.spell) := by
      rw [← List.forall₂_eq_eq_eq, List.forall₂_map_left_iff, List.forall₂_map_right_iff]
      exact (resolve_ok_iff.1 hrs).flip.imp fun r m hsettles => hsettles.spelled
    refine ⟨hspelled, ?_⟩
    have halike : List.Forall₂ Metric.Alike (ms.map (·.respelled schema.spell)) ms := by
      rw [List.forall₂_map_left_iff, List.forall₂_same]
      exact fun m _ => m.alike_respelled schema
    rw [hspelled]
    exact (agree_resolve halike).ok_iff.2 hrs

end

/-- A Greek field name whose last letter has two small forms, and one that begins with a letter
whose small form is two characters long. -/
def greekSchema : ObjectSchema :=
  ⟨"Deal", none,
    [⟨"ΠΟΣΟΣ", some "", "currency", true, true⟩, ⟨"İlk", none, "date", true, true⟩]⟩

def greekMetrics : List Metric :=
  [.ratio ⟨.sum, " ποσος"⟩ ⟨.avg, "ΠΟΣΟΣ "⟩, .fieldAggregate ⟨.max, "İLK"⟩]

def otherGreekMetrics : List Metric :=
  [.ratio ⟨.sum, "Ποσος"⟩ ⟨.avg, "\tποσοΣ"⟩, .fieldAggregate ⟨.max, " i\u0307lk"⟩]

theorem resolve_alike_greek :
    List.Forall₂ Metric.Alike greekMetrics otherGreekMetrics ∧
      ComeOutAlike greekSchema "source" greekMetrics otherGreekMetrics ∧
      resolve greekSchema "source" greekMetrics =
        .ok [.ratio ⟨.sum, ⟨"ΠΟΣΟΣ", "currency", "ΠΟΣΟΣ"⟩, .number⟩
            ⟨.avg, ⟨"ΠΟΣΟΣ", "currency", "ΠΟΣΟΣ"⟩, .number⟩ .number,
          .fieldAggregate ⟨.max, ⟨"İlk", "date", "İlk"⟩, .date⟩] := by
  have halike : List.Forall₂ Metric.Alike greekMetrics otherGreekMetrics :=
    .cons (by unfold Metric.Alike; decide +kernel)
      (.cons (by unfold Metric.Alike; decide +kernel) .nil)
  exact ⟨halike, resolve_alike greekSchema "source" halike, by decide +kernel⟩

end Resolution
end CrossCheck
