import CrossCheck.Proofs.Resolution

/-!
When a schema settles metrics, and what it refuses otherwise.  Every use of a field has to find a
field that is fit for it; the first use that does not decides the error.
-/

namespace CrossCheck

/-! ## Uses of fields -/

/-- What a metric does with a field that it refers to. -/
inductive Use where
  | aggregate (function : AggregateFunction)
  | countDistinct
  | sumIf
deriving DecidableEq

namespace Use

/-- The name of a use in errors. -/
def name : Use → String
  | aggregate function => function.name
  | countDistinct => "count_distinct"
  | sumIf => "sum_if"

/-- The types that a field may have for a use. -/
def Allows (f : Field) : Use → Prop
  | aggregate .min | aggregate .max => f.isNumeric = true ∨ f.isTemporal = true
  | aggregate .sum | aggregate .avg | aggregate .median | aggregate .stddev | aggregate .variance =>
    f.isNumeric = true
  | sumIf => f.isNumeric = true
  | countDistinct => True

/-- What these types are called in errors. -/
def required : Use → String
  | aggregate .min | aggregate .max => "numeric or date/time"
  | _ => "numeric"

end Use

structure FieldUse where
  reference : String
  use : Use
deriving DecidableEq

namespace Metric

/-- The fields that a metric uses, the numerator's before the denominator's. -/
def fieldUses : Metric → List FieldUse
  | fieldAggregate a => [⟨a.field, .aggregate a.function⟩]
  | countDistinct reference => [⟨reference, .countDistinct⟩]
  | ratio n d => [⟨n.field, .aggregate n.function⟩, ⟨d.field, .aggregate d.function⟩]
  | sumIf reference _ => [⟨reference, .sumIf⟩]
  | _ => []

/-- Metrics of the six kinds. -/
def isSupported : Metric → Bool
  | other _ _ => false
  | _ => true

theorem isSupported_of_mem_fieldUses {m : Metric} {u : FieldUse} (hu : u ∈ m.fieldUses) :
    m.isSupported = true := by
  cases m with
  | other => exact absurd hu List.not_mem_nil
  | _ => rfl

end Metric

/-- Case apart, and blanks around the reference. -/
def Field.AnswersTo (f : Field) (reference : String) : Prop :=
  Text.lower f.name = Text.lower (Text.strip reference)

namespace ObjectSchema

/-- The first field of the schema that answers to a reference. -/
def Finds (s : ObjectSchema) (reference : String) (f : Field) : Prop :=
  f.AnswersTo reference ∧
    ∃ before after, s.fields = before ++ f :: after ∧ ∀ g ∈ before, ¬ g.AnswersTo reference

theorem field?_eq_some_iff {s : ObjectSchema} {reference : String} {f : Field} :
    s.field? reference = some f ↔ s.Finds reference f := by
  rw [field?, List.find?_eq_some_iff_append, Finds]
  simp [Field.AnswersTo, lookupKey]

theorem Finds.unique {s : ObjectSchema} {reference : String} {f g : Field}
    (hf : s.Finds reference f) (hg : s.Finds reference g) : f = g := by
  rw [← field?_eq_some_iff] at hf hg
  rw [hf] at hg
  exact Option.some.inj hg

theorem Finds.mem {s : ObjectSchema} {reference : String} {f : Field}
    (h : s.Finds reference f) : f ∈ s.fields := by
  obtain ⟨_, before, after, hfields, _⟩ := h
  rw [hfields]
  exact List.mem_append_right before List.mem_cons_self

theorem field?_eq_none_iff {s : ObjectSchema} {reference : String} :
    s.field? reference = none ↔ ∀ g ∈ s.fields, ¬ g.AnswersTo reference := by
  rw [field?, List.find?_eq_none]
  simp [Field.AnswersTo, lookupKey]

end ObjectSchema

/-- The field that a use finds can be aggregated and has one of the types it may have. -/
def FieldUse.Fits (schema : ObjectSchema) (u : FieldUse) : Prop :=
  ∃ f, schema.Finds u.reference f ∧ f.aggregatable = true ∧ u.use.Allows f

def Metric.Fits (schema : ObjectSchema) (m : Metric) : Prop := ∀ u ∈ m.fieldUses, u.Fits schema

namespace Resolution

open Sequence

/-- How a use is refused: for want of a field, else for a field that cannot be aggregated, else
for its type.  The field is named as the schema spells it, once there is one. -/
inductive Refuses (schema : ObjectSchema) (environment : String) (u : FieldUse) : Error → Prop where
  | fieldNotFound (hnone : ∀ g ∈ schema.fields, ¬ g.AnswersTo u.reference) :
      Refuses schema environment u
        (.fieldNotFound schema.name (Text.strip u.reference) environment)
  | notAggregatable {f : Field} (hfinds : schema.Finds u.reference f)
      (haggregatable : f.aggregatable = false) :
      Refuses schema environment u (.notAggregatable schema.name f.name environment u.use.name)
  | unsupportedType {f : Field} (hfinds : schema.Finds u.reference f)
      (haggregatable : f.aggregatable = true) (hallows : ¬ u.use.Allows f) :
      Refuses schema environment u
        (.unsupportedType schema.name f.name f.type environment u.use.name u.use.required)

section
variable {schema : ObjectSchema} {environment : String}

/-! ## Fitness -/

theorem accepts_iff {function : AggregateFunction} {f : Field} :
    accepts function f = true ↔ (Use.aggregate function).Allows f := by
  cases function <;> simp [accepts, AggregateFunction.isExtreme, Use.Allows]

theorem exists_settlesAggregate_iff {a : FieldAggregate} :
    (∃ x, SettlesAggregate schema a x) ↔
      FieldUse.Fits schema ⟨a.field, .aggregate a.function⟩ := by
  constructor
  · rintro ⟨_, hfield, haggregatable, haccepts⟩
    exact ⟨_, ObjectSchema.field?_eq_some_iff.1 hfield, haggregatable, accepts_iff.1 haccepts⟩
  · rintro ⟨f, hfinds, haggregatable, hallows⟩
    exact ⟨_, .intro (ObjectSchema.field?_eq_some_iff.2 hfinds) haggregatable
      (accepts_iff.2 hallows)⟩

/-- A schema settles the metrics whose fields are fit for their uses. -/
theorem exists_settles_iff {m : Metric} (hsupported : m.isSupported = true) :
    (∃ r, Settles schema m r) ↔ m.Fits schema := by
  unfold Metric.Fits
  cases m with
  | count => exact ⟨fun _ u hu => absurd hu List.not_mem_nil, fun _ => ⟨_, .count⟩⟩
  | countIf c => exact ⟨fun _ u hu => absurd hu List.not_mem_nil, fun _ => ⟨_, .countIf c⟩⟩
  | fieldAggregate a =>
    rw [Metric.fieldUses, List.forall_mem_singleton, ← exists_settlesAggregate_iff]
    constructor
    · rintro ⟨_, hx⟩
      cases hx with
      | fieldAggregate hx => exact ⟨_, hx⟩
    · rintro ⟨x, hx⟩
      exact ⟨_, .fieldAggregate hx⟩
  | ratio n d =>
    rw [Metric.fieldUses, List.forall_mem_cons, List.forall_mem_singleton,
      ← exists_settlesAggregate_iff, ← exists_settlesAggregate_iff]
    constructor
    · rintro ⟨_, h⟩
      cases h with
      | ratio hn hd => exact ⟨⟨_, hn⟩, ⟨_, hd⟩⟩
    · rintro ⟨⟨x, hn⟩, ⟨y, hd⟩⟩
      exact ⟨_, .ratio hn hd⟩
  | countDistinct reference =>
    rw [Metric.fieldUses, List.forall_mem_singleton]
    constructor
    · rintro ⟨_, h⟩
      cases h with
      | countDistinct hfield haggregatable =>
        exact ⟨_, ObjectSchema.field?_eq_some_iff.1 hfield, haggregatable, trivial⟩
    · rintro ⟨f, hfinds, haggregatable, _⟩
      exact ⟨_, .countDistinct (ObjectSchema.field?_eq_some_iff.2 hfinds) haggregatable⟩
  | sumIf reference condition =>
    rw [Metric.fieldUses, List.forall_mem_singleton]
    constructor
    · rintro ⟨_, h⟩
      cases h with
      | sumIf hfield haggregatable hnumeric =>
        exact ⟨_, ObjectSchema.field?_eq_some_iff.1 hfield, haggregatable, hnumeric⟩
    · rintro ⟨f, hfinds, haggregatable, hnumeric⟩
      exact ⟨_, .sumIf (ObjectSchema.field?_eq_some_iff.2 hfinds) haggregatable hnumeric⟩
  | other kind name => exact absurd hsupported (by simp [Metric.isSupported])

/-! ## Refusals -/

theorem Refuses.not_fits {u : FieldUse} {e : Error} (h : Refuses schema environment u e) :
    ¬ u.Fits schema := by
  rintro ⟨f, hfinds, haggregatable, hallows⟩
  cases h with
  | fieldNotFound hnone =>
    exact hnone f hfinds.mem hfinds.1
  | notAggregatable hfinds' hfalse =>
    rw [hfinds.unique hfinds', hfalse] at haggregatable
    exact Bool.false_ne_true haggregatable
  | unsupportedType hfinds' _ hnot =>
    rw [hfinds.unique hfinds'] at hallows
    exact hnot hallows

theorem Refuses.unique {u : FieldUse} {e e' : Error} (h : Refuses schema environment u e)
    (h' : Refuses schema environment u e') : e = e' := by
  cases h with
  | fieldNotFound hnone =>
    cases h' with
    | fieldNotFound => rfl
    | notAggregatable hfinds => exact absurd hfinds.1 (hnone _ hfinds.mem)
    | unsupportedType hfinds => exact absurd hfinds.1 (hnone _ hfinds.mem)
  | notAggregatable hfinds hfalse =>
    cases h' with
    | fieldNotFound hnone => exact absurd hfinds.1 (hnone _ hfinds.mem)
    | notAggregatable hfinds' => rw [hfinds.unique hfinds']
    | unsupportedType hfinds' htrue =>
      rw [← hfinds.unique hfinds', hfalse] at htrue
      exact absurd htrue Bool.false_ne_true
  | unsupportedType hfinds htrue =>
    cases h' with
    | fieldNotFound hnone => exact absurd hfinds.1 (hnone _ hfinds.mem)
    | notAggregatable hfinds' hfalse =>
      rw [← hfinds.unique hfinds', htrue] at hfalse
      exact absurd hfalse.symm Bool.false_ne_true
    | unsupportedType hfinds' => rw [hfinds.unique hfinds']

theorem Refuses.first {u : FieldUse} {e : Error} (h : Refuses schema environment u e)
    (rest : List FieldUse) : ∃ v, FirstWithout (·.Fits schema) (u :: rest) v ∧
      Refuses schema environment v e := ⟨u, .head h.not_fits, h⟩

theorem refuses_of_aggregatableField {u : FieldUse} {e : Error}
    (h : aggregatableField schema environment u.reference u.use.name = .error e) :
    Refuses schema environment u e := by
  rw [aggregatableField] at h
  split at h
  · next hnone =>
    rw [← Except.error.inj h]
    exact .fieldNotFound (ObjectSchema.field?_eq_none_iff.1 hnone)
  · next f hfield =>
    split at h
    · exact absurd h.symm error_ne_ok
    · next haggregatable =>
      rw [← Except.error.inj h]
      exact .notAggregatable (ObjectSchema.field?_eq_some_iff.1 hfield)
        (Bool.eq_false_iff.2 haggregatable)

theorem refuses_of_resolveAggregate {a : FieldAggregate} {e : Error}
    (h : resolveAggregate schema environment a = .error e) :
    Refuses schema environment ⟨a.field, .aggregate a.function⟩ e := by
  rw [resolveAggregate_eq] at h
  rcases bind_error_iff.1 h with hnone | ⟨f, hf, h⟩
  · exact refuses_of_aggregatableField (u := ⟨a.field, .aggregate a.function⟩) hnone
  · obtain ⟨hfield, haggregatable⟩ := aggregatableField_ok_iff.1 hf
    split at h
    · exact absurd h pure_ne_error
    · next haccepts =>
      have hrequired : required a.function = (Use.aggregate a.function).required := by
        cases a.function <;> rfl
      rw [← Except.error.inj h, hrequired]
      exact .unsupportedType (ObjectSchema.field?_eq_some_iff.1 hfield) haggregatable
        fun hallows => haccepts (accepts_iff.2 hallows)

theorem fits_of_resolveAggregate {a : FieldAggregate} {x : ResolvedAggregate}
    (h : resolveAggregate schema environment a = .ok x) :
    FieldUse.Fits schema ⟨a.field, .aggregate a.function⟩ :=
  exists_settlesAggregate_iff.1 ⟨x, resolveAggregate_ok_iff.1 h⟩

/-- A metric is refused for the first of its uses that finds no fit field. -/
theorem exists_refuses_of_resolveMetric {m : Metric} (hsupported : m.isSupported = true)
    {e : Error} (h : resolveMetric schema environment m = .error e) :
    ∃ u, FirstWithout (·.Fits schema) m.fieldUses u ∧ Refuses schema environment u e := by
  cases m with
  | count | countIf => exact absurd h pure_ne_error
  | fieldAggregate a =>
    rcases bind_error_iff.1 h with hfail | ⟨_, _, h⟩
    · exact (refuses_of_resolveAggregate hfail).first []
    · exact absurd h pure_ne_error
  | countDistinct reference =>
    rcases bind_error_iff.1 h with hfail | ⟨_, _, h⟩
    · exact (refuses_of_aggregatableField (u := ⟨reference, .countDistinct⟩) hfail).first []
    · exact absurd h pure_ne_error
  | ratio n d =>
    rcases bind_error_iff.1 h with hfail | ⟨x, hx, h⟩
    · exact (refuses_of_resolveAggregate hfail).first _
    rcases bind_error_iff.1 h with hfail | ⟨_, _, h⟩
    · obtain ⟨u, hu, hrefuses⟩ := (refuses_of_resolveAggregate hfail).first []
      exact ⟨u, .tail (fits_of_resolveAggregate hx) hu, hrefuses⟩
    · exact absurd h pure_ne_error
  | sumIf reference condition =>
    rcases bind_error_iff.1 h with hfail | ⟨f, hf, h⟩
    · exact (refuses_of_aggregatableField (u := ⟨reference, .sumIf⟩) hfail).first []
    obtain ⟨hfield, haggregatable⟩ := aggregatableField_ok_iff.1 hf
    cases hnumeric : f.isNumeric with
    | true =>
      rw [hnumeric] at h
      exact absurd h pure_ne_error
    | false =>
      rw [hnumeric] at h
      rw [← Except.error.inj h]
      exact Refuses.first (u := ⟨reference, .sumIf⟩) (.unsupportedType
        (ObjectSchema.field?_eq_some_iff.1 hfield) haggregatable (Bool.eq_false_iff.1 hnumeric)) []
  | other kind name => exact absurd hsupported (by simp [Metric.isSupported])

end

/-! ## Results -/

/-- The field as metrics keep it. -/
structure KeptAs (f : Field) (x : ResolvedField) : Prop where
  name : x.name = f.name
  type : x.type = f.type
  label : ∀ label, f.label = some label → label ≠ "" → x.label = label
  unlabelled : f.label = none ∨ f.label = some "" → x.label = f.name

def GivesField (schema : ObjectSchema) (reference : String) (x : ResolvedField) : Prop :=
  ∃ f, schema.Finds reference f ∧ KeptAs f x

/-- An aggregate of a field is a date if it is an extreme of a temporal field, and a number
otherwise. -/
def GivesAggregate (schema : ObjectSchema) (a : FieldAggregate) (x : ResolvedAggregate) : Prop :=
  x.function = a.function ∧ ∃ f, schema.Finds a.field f ∧ KeptAs f x.field ∧
    (x.valueType = .date ↔ (a.function = .min ∨ a.function = .max) ∧ f.isTemporal = true)

/-- The metric with its fields as the schema has them. -/
def Gives (schema : ObjectSchema) : Metric → ResolvedMetric → Prop
  | .count, .count t => t = .number
  | .fieldAggregate a, .fieldAggregate x => GivesAggregate schema a x
  | .countDistinct reference, .countDistinct x t => GivesField schema reference x ∧ t = .number
  | .ratio n d, .ratio x y t => GivesAggregate schema n x ∧ GivesAggregate schema d y ∧ t = .number
  | .countIf c, .countIf c' t => c' = c ∧ t = .number
  | .sumIf reference c, .sumIf x c' t => GivesField schema reference x ∧ c' = c ∧ t = .number
  | _, _ => False

theorem keptAs_resolvedField (f : Field) : KeptAs f (resolvedField f) where
  name := rfl
  type := rfl
  label label hlabel hne := by simp [resolvedField, hlabel, hne]
  unlabelled h := by
    rcases h with h | h
    · simp [resolvedField, h]
    · simp [resolvedField, h]

theorem aggregateType_eq_date_iff {function : AggregateFunction} {f : Field} :
    aggregateType function f = .date ↔
      (function = .min ∨ function = .max) ∧ f.isTemporal = true := by
  cases function <;> cases h : f.isTemporal <;> simp [aggregateType, AggregateFunction.isExtreme, h]

theorem givesField_of_field? {schema : ObjectSchema} {reference : String} {f : Field}
    (h : schema.field? reference = some f) : GivesField schema reference (resolvedField f) :=
  ⟨f, ObjectSchema.field?_eq_some_iff.1 h, keptAs_resolvedField f⟩

theorem SettlesAggregate.gives {schema : ObjectSchema} {a : FieldAggregate} {x : ResolvedAggregate}
    (h : SettlesAggregate schema a x) : GivesAggregate schema a x := by
  obtain ⟨hfield, _, _⟩ := h
  exact ⟨rfl, _, ObjectSchema.field?_eq_some_iff.1 hfield, keptAs_resolvedField _,
    aggregateType_eq_date_iff⟩

theorem Settles.gives {schema : ObjectSchema} {m : Metric} {r : ResolvedMetric}
    (h : Settles schema m r) : Gives schema m r := by
  cases h with
  | count => exact rfl
  | fieldAggregate hx => exact hx.gives
  | countDistinct hfield => exact ⟨givesField_of_field? hfield, rfl⟩
  | ratio hn hd => exact ⟨hn.gives, hd.gives, rfl⟩
  | countIf => exact ⟨rfl, rfl⟩
  | sumIf hfield => exact ⟨givesField_of_field? hfield, rfl, rfl⟩

/-! ## Lists of metrics -/

section
variable {schema : ObjectSchema} {environment : String} {ms : List Metric}

theorem exists_resolveMetric_iff {m : Metric} (hsupported : m.isSupported = true) :
    (∃ r, resolveMetric schema environment m = .ok r) ↔ m.Fits schema := by
  simp only [resolveMetric_ok_iff, exists_settles_iff hsupported]

theorem exists_resolve_iff (hsupported : ∀ m ∈ ms, m.isSupported = true) :
    (∃ rs, resolve schema environment ms = .ok rs) ↔ ∀ m ∈ ms, m.Fits schema := by
  rw [resolve, exists_mapM_ok_iff]
  exact forall₂_congr fun m hm => exists_resolveMetric_iff (hsupported m hm)

/-- The first metric that does not fit is refused, for the first of its uses that does not. -/
def RefusesFirst (schema : ObjectSchema) (environment : String) (ms : List Metric) (e : Error) :
    Prop :=
  ∃ m u, FirstWithout (·.Fits schema) ms m ∧ FirstWithout (·.Fits schema) m.fieldUses u ∧
    Refuses schema environment u e

theorem RefusesFirst.unique {e e' : Error} (h : RefusesFirst schema environment ms e)
    (h' : RefusesFirst schema environment ms e') : e = e' := by
  obtain ⟨m, u, hm, hu, hrefuses⟩ := h
  obtain ⟨m', u', hm', hu', hrefuses'⟩ := h'
  obtain rfl := hm.unique hm'
  obtain rfl := hu.unique hu'
  exact hrefuses.unique hrefuses'

theorem refusesFirst_of_resolve (hsupported : ∀ m ∈ ms, m.isSupported = true) {e : Error}
    (h : resolve schema environment ms = .error e) : RefusesFirst schema environment ms e := by
  obtain ⟨before, m, after, rfl, hbefore, hm⟩ := exists_first_of_mapM_error h
  obtain ⟨u, hu, hrefuses⟩ := exists_refuses_of_resolveMetric (hsupported m (by simp)) hm
  refine ⟨m, u, .of_append (fun n hn => ?_) fun hfits => hu.not_prop (hfits u hu.mem), hu, hrefuses⟩
  exact (exists_resolveMetric_iff (hsupported n (List.mem_append_left _ hn))).1 (hbefore n hn)

theorem resolve_error_iff (hsupported : ∀ m ∈ ms, m.isSupported = true) {e : Error} :
    resolve schema environment ms = .error e ↔ RefusesFirst schema environment ms e := by
  refine ⟨refusesFirst_of_resolve hsupported, fun h => ?_⟩
  cases hresolve : resolve schema environment ms with
  | error e' => rw [h.unique (refusesFirst_of_resolve hsupported hresolve)]
  | ok rs =>
    obtain ⟨m, u, hm, _, _⟩ := h
    exact absurd ((exists_resolve_iff hsupported).1 ⟨rs, hresolve⟩ m hm.mem) hm.not_prop

/-- One use of a field that cannot be aggregated is enough for a metric to be refused. -/
theorem exists_error_of_not_aggregatable {m : Metric} {u : FieldUse} (hu : u ∈ m.fieldUses)
    {f : Field} (hfinds : schema.Finds u.reference f) (hf : f.aggregatable = false) :
    ∃ e, resolveMetric schema environment m = .error e := by
  cases hresolve : resolveMetric schema environment m with
  | error e => exact ⟨e, rfl⟩
  | ok r =>
    have hsupported := Metric.isSupported_of_mem_fieldUses hu
    have hfits := (exists_resolveMetric_iff hsupported).1 ⟨r, hresolve⟩ u hu
    have hrefuses : Refuses schema environment u _ := .notAggregatable hfinds hf
    exact absurd hfits hrefuses.not_fits

theorem error_of_not_aggregatable {m : Metric} {u : FieldUse} (huses : m.fieldUses = [u])
    {f : Field} (hfinds : schema.Finds u.reference f) (hf : f.aggregatable = false) :
    resolveMetric schema environment m =
      .error (.notAggregatable schema.name f.name environment u.use.name) := by
  have hu : u ∈ m.fieldUses := by
    rw [huses]
    exact List.mem_singleton_self u
  obtain ⟨e, he⟩ : ∃ e, resolveMetric schema environment m = .error e :=
    exists_error_of_not_aggregatable hu hfinds hf
  obtain ⟨v, hv, hrefuses⟩ :=
    exists_refuses_of_resolveMetric (Metric.isSupported_of_mem_fieldUses hu) he
  have hvu : v = u := by
    have hmem := hv.mem
    rwa [huses, List.mem_singleton] at hmem
  subst hvu
  rw [he, hrefuses.unique (.notAggregatable hfinds hf)]

/-- What a schema makes of metrics. -/
structure Exact (schema : ObjectSchema) (environment : String) (ms : List Metric) : Prop where
  succeeds : (∃ rs, resolve schema environment ms = .ok rs) ↔ ∀ m ∈ ms, m.Fits schema
  gives : ∀ rs, resolve schema environment ms = .ok rs → List.Forall₂ (Gives schema) ms rs
  refuses : ∀ e, resolve schema environment ms = .error e ↔ RefusesFirst schema environment ms e

theorem resolve_exact (hsupported : ∀ m ∈ ms, m.isSupported = true) :
    Exact schema environment ms where
  succeeds := exists_resolve_iff hsupported
  gives _ h := (resolve_ok_iff.1 h).imp fun _ _ hsettles => hsettles.gives
  refuses _ := resolve_error_iff hsupported

end

/-- Two fields whose names differ in case, the second unfit for sums; a field without a label, and
one whose label is empty. -/
def collidingSchema : ObjectSchema :=
  ⟨"Deal", none,
    [⟨"Amount", some "", "Currency", true, true⟩, ⟨"AMOUNT", none, "string", false, true⟩,
      ⟨"Closed", none, "dateTime", true, true⟩,
      ⟨"Stage", some "Stage name", "picklist", true, true⟩]⟩

def collidingMetrics : List Metric :=
  [.ratio ⟨.sum, " amount "⟩ ⟨.max, "AMOUNT"⟩, .fieldAggregate ⟨.min, "closed"⟩,
    .countDistinct "stage"]

theorem resolve_exact_colliding :
    Exact collidingSchema "source" collidingMetrics ∧
      resolve collidingSchema "source" collidingMetrics =
        .ok [.ratio ⟨.sum, ⟨"Amount", "Currency", "Amount"⟩, .number⟩
            ⟨.max, ⟨"Amount", "Currency", "Amount"⟩, .number⟩ .number,
          .fieldAggregate ⟨.min, ⟨"Closed", "dateTime", "Closed"⟩, .date⟩,
          .countDistinct ⟨"Stage", "picklist", "Stage name"⟩ .number] := by
  have hsupported : ∀ m ∈ collidingMetrics, m.isSupported = true := by decide
  exact ⟨resolve_exact hsupported, by decide +kernel⟩

/-- The numerator is refused for its type before the denominator is looked up. -/
example : resolve collidingSchema "source" [.ratio ⟨.sum, "closed"⟩ ⟨.sum, "Owner"⟩] =
    .error (.unsupportedType "Deal" "Closed" "dateTime" "source" "sum" "numeric") := by
  decide +kernel

end Resolution
end CrossCheck
