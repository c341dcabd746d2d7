import CrossCheck.Comparison
import CrossCheck.Proofs.Compilation.Run
import CrossCheck.Proofs.Measurement
import CrossCheck.Proofs.Named

/-!
When a row holds a value.  The values of two records decide for each definition of a plan whether
its arithmetic overflows, and if it does not, which cells of its row are empty.  Nothing else keeps a
row from being assembled.
-/

namespace CrossCheck

/-! ## Quotients and differences of values -/

namespace Value

/-- One of two values is no number, or the second is zero. -/
inductive NoQuotient (v w : Value) : Prop
  | numerator (h : ¬ v.IsNumeric)
  | denominator (h : ¬ w.IsNumeric)
  | zero (h : w.Vanishes)

def QuotientOverflows (v w : Value) : Prop :=
  ∃ a b, v.Is a ∧ w.Is b ∧ ¬ w.Vanishes ∧ a.QuotientOverflows b

def DifferenceOverflows (v w : Value) : Prop :=
  ∃ a b, v.Is a ∧ w.Is b ∧ a.DifferenceOverflows b

variable {v w : Value}

theorem QuotientOverflows.not_noQuotient (h : QuotientOverflows v w) : ¬ NoQuotient v w := by
  obtain ⟨a, b, ha, hb, hzero, -⟩ := h
  rintro (h | h | h)
  · exact h ha.isNumeric
  · exact h hb.isNumeric
  · exact hzero h

theorem ratio_of_is {a b : Number} (ha : v.Is a) (hb : w.Is b) :
    ratio v w = if b.isZero then .ok none else (a.divide b).map some := by
  rw [ratio, number?_of_is ha, number?_of_is hb]
  show (if b.isZero then pure none else a.divide b >>= fun x => pure (some x)) = _
  cases b.isZero with
  | true => rfl
  | false => cases a.divide b <;> rfl

theorem number?_eq_none_or (h : ¬ (v.IsNumeric ∧ w.IsNumeric)) :
    v.number? = none ∨ w.number? = none := by
  by_cases hv : v.IsNumeric
  · exact .inr (number?_of_not_isNumeric fun hw => h ⟨hv, hw⟩)
  · exact .inl (number?_of_not_isNumeric hv)

theorem ratio_of_not_isNumeric (h : ¬ (v.IsNumeric ∧ w.IsNumeric)) : ratio v w = .ok none := by
  unfold ratio
  rcases number?_eq_none_or h with hv | hw
  · rw [hv]
  · rw [hw]
    cases v.number? <;> rfl

/-- A quotient is missing exactly where one of the two is no number, or the divisor is zero. -/
theorem ratio_cases (hv : v.IsPlain) (hw : w.IsPlain) :
    (QuotientOverflows v w ∧ ratio v w = .error .overflow) ∨
    (¬ QuotientOverflows v w ∧ ∃ q, ratio v w = .ok q ∧ (q = none ↔ NoQuotient v w) ∧
      ∀ x, q = some x → ∃ a b, v.Is a ∧ w.Is b ∧ a.divide b = .ok x) := by
  by_cases hnone : NoQuotient v w
  · have hratio : ratio v w = .ok none := by
      by_cases hnumeric : v.IsNumeric ∧ w.IsNumeric
      · obtain ⟨a, ha⟩ := hv.exists_is hnumeric.1
        obtain ⟨b, hb⟩ := hw.exists_is hnumeric.2
        have hzero : w.Vanishes := by
          rcases hnone with h | h | h
          · exact absurd hnumeric.1 h
          · exact absurd hnumeric.2 h
          · exact h
        rw [ratio_of_is ha hb, if_pos (hb.isZero_iff.2 hzero)]
      · exact ratio_of_not_isNumeric hnumeric
    exact .inr ⟨fun h => h.not_noQuotient hnone, none, hratio, iff_of_true rfl hnone, nofun⟩
  · obtain ⟨a, ha⟩ := hv.exists_is (not_not.1 fun h => hnone (.numerator h))
    obtain ⟨b, hb⟩ := hw.exists_is (not_not.1 fun h => hnone (.denominator h))
    have hvanishes : ¬ w.Vanishes := fun h => hnone (.zero h)
    have hzero : b.isZero = false := Bool.eq_false_iff.2 fun h => hvanishes (hb.isZero_iff.1 h)
    rw [ratio_of_is ha hb, hzero, if_neg Bool.false_ne_true]
    rcases Number.divide_cases hzero with ⟨hlarge, h⟩ | ⟨hsmall, x, h⟩
    · rw [h]
      exact .inl ⟨⟨a, b, ha, hb, hvanishes, hlarge⟩, rfl⟩
    · rw [h]
      refine .inr ⟨?_, some x, rfl, iff_of_false nofun hnone, ?_⟩
      · rintro ⟨a', b', ha', hb', -, hlarge⟩
        rw [ha.unique ha', hb.unique hb'] at hsmall
        exact hsmall hlarge
      · rintro y hy
        obtain rfl := Option.some.inj hy
        exact ⟨a, b, ha, hb, h⟩

/-- There is a difference exactly between numbers, and between whole numbers it is exact. -/
structure IsDifference (t : ValueType) (v w : Value) (d : Option Number) : Prop where
  isSome_iff : d ≠ none ↔ t = .number ∧ v.IsNumeric ∧ w.IsNumeric
  exact : ∀ a b, t = .number → v.Is (.int a) → w.Is (.int b) → d = some (.int (b - a))

theorem difference_of_is {a b : Number} (ha : v.Is a) (hb : w.Is b) :
    difference .number v w = (b.subtract a).map some := by
  unfold difference
  rw [number?_of_is ha, number?_of_is hb]
  show (b.subtract a >>= fun d => pure (some d)) = _
  cases b.subtract a <;> rfl

theorem difference_none {t : ValueType} (h : ¬ (t = .number ∧ v.IsNumeric ∧ w.IsNumeric)) :
    difference t v w = .ok none := by
  unfold difference
  cases t with
  | date => rfl
  | number =>
    rcases number?_eq_none_or fun hboth => h ⟨rfl, hboth⟩ with hv | hw
    · rw [hv]
    · rw [hw]
      cases v.number? <;> rfl

theorem difference_cases (t : ValueType) (hv : v.IsPlain) (hw : w.IsPlain) :
    (t = .number ∧ DifferenceOverflows v w ∧ difference t v w = .error .overflow) ∨
    (¬ (t = .number ∧ DifferenceOverflows v w) ∧
      ∃ d, difference t v w = .ok d ∧ IsDifference t v w d) := by
  by_cases h : t = .number ∧ v.IsNumeric ∧ w.IsNumeric
  · obtain ⟨rfl, hvn, hwn⟩ := h
    obtain ⟨a, ha⟩ := hv.exists_is hvn
    obtain ⟨b, hb⟩ := hw.exists_is hwn
    rw [difference_of_is ha hb]
    rcases Number.subtract_cases b a with ⟨hlarge, h⟩ | ⟨hsmall, d, h⟩
    · rw [h]
      exact .inl ⟨rfl, ⟨a, b, ha, hb, hlarge.symm⟩, rfl⟩
    · rw [h]
      refine .inr ⟨?_, some d, rfl, iff_of_true nofun ⟨rfl, hvn, hwn⟩, ?_⟩
      · rintro ⟨-, a', b', ha', hb', hlarge⟩
        rw [← ha.unique ha', ← hb.unique hb'] at hlarge
        exact hsmall hlarge.symm
      · intro m n _ hm hn
        rw [ha.unique hm, hb.unique hn] at h
        exact congrArg some (Except.ok.inj h).symm
  · refine .inr ⟨?_, none, difference_none h, iff_of_false (not_not.2 rfl) h, ?_⟩
    · rintro ⟨rfl, a, b, ha, hb, -⟩
      exact h ⟨rfl, ha.isNumeric, hb.isNumeric⟩
    · intro a b ht ha hb
      exact absurd ⟨ht, ha.isNumeric, hb.isNumeric⟩ h

end Value

/-! ## One row -/

def Record.IsPlain (raw : Record) : Prop := ∀ name v, raw.get? name = some v → v.IsPlain

theorem Record.isPlain_of_forall {raw : Record} (h : ∀ m ∈ raw, m.2.IsPlain) : raw.IsPlain :=
  fun name v hget => h (name, v) (Named.mem_of_get? hget)

theorem Cell.isPlain_toValue (c : Cell) : c.toValue.IsPlain := by
  cases c with
  | number n => cases n <;> trivial
  | _ => trivial

theorem Evaluation.isPlain_values (e : Evaluation) : Record.IsPlain e.values := by
  refine Record.isPlain_of_forall fun m hm => ?_
  obtain ⟨⟨name, c⟩, -, rfl⟩ := List.mem_map.1 hm
  exact c.isPlain_toValue

open Row (valueAt) in
/-- The arithmetic of a definition is too large for two records: a quotient in one of them, or the
difference of what stands in both. -/
def Definition.Overflows (source target : Record) : Definition → Prop
  | direct m name =>
    m.valueType = .number ∧ (valueAt source name).DifferenceOverflows (valueAt target name)
  | ratio _ _ n d =>
    (valueAt source n).QuotientOverflows (valueAt source d) ∨
      (valueAt target n).QuotientOverflows (valueAt target d)
  | other _ => False

namespace Row

variable {source target : Record}

theorem isPlain_valueAt (h : source.IsPlain) (name : String) : (valueAt source name).IsPlain := by
  rw [valueAt]
  cases hget : source.get? name with
  | none => trivial
  | some v => exact h name v hget

/-- The cell holds the quotient of two values, where there is one. -/
structure IsQuotient (v w : Value) (c : Cell) : Prop where
  null_iff : c = .null ↔ Value.NoQuotient v w
  divided : c ≠ .null → ∃ a b x, v.Is a ∧ w.Is b ∧ a.divide b = .ok x ∧ c = .number (.float x)

theorem quotientAt_cases (h : source.IsPlain) (numerator denominator : String) :
    ((valueAt source numerator).QuotientOverflows (valueAt source denominator) ∧
      quotientAt source numerator denominator = .error .overflow) ∨
    (¬ (valueAt source numerator).QuotientOverflows (valueAt source denominator) ∧
      ∃ c, quotientAt source numerator denominator = .ok c.toValue ∧
        IsQuotient (valueAt source numerator) (valueAt source denominator) c) := by
  have hn := isPlain_valueAt h numerator
  have hd := isPlain_valueAt h denominator
  rw [quotientAt]
  rcases Value.ratio_cases hn hd with ⟨hlarge, h⟩ | ⟨hsmall, q, h, hnone, hsome⟩
  · rw [h]
    exact .inl ⟨hlarge, rfl⟩
  · rw [h]
    refine .inr ⟨hsmall, ?_⟩
    cases q with
    | none => exact ⟨.null, rfl, iff_of_true rfl (hnone.1 rfl), fun h => absurd rfl h⟩
    | some x =>
      obtain ⟨a, b, ha, hb, hdivide⟩ := hsome x rfl
      refine ⟨.number (.float x), rfl, ?_, fun _ => ⟨a, b, x, ha, hb, hdivide, rfl⟩⟩
      exact iff_of_false nofun fun h => nomatch hnone.2 h

/-- The row is the definition's, and its cells are empty exactly where they have to be. -/
inductive Tells (source target : Record) : Definition → Row → Prop
  | direct {m : ResolvedMetric} {name : String} {row : Row} (hmetric : row.metric = m)
      (hname : row.aliasName = name)
      (hsource : Cell.admit? (valueAt source name) = some row.source)
      (htarget : Cell.admit? (valueAt target name) = some row.target)
      (hdifference : Value.IsDifference m.valueType (valueAt source name) (valueAt target name)
        row.difference) :
      Tells source target (.direct m name) row
  | ratio {m : ResolvedMetric} {name n d : String} {row : Row} (hmetric : row.metric = m)
      (hname : row.aliasName = name)
      (hsource : IsQuotient (valueAt source n) (valueAt source d) row.source)
      (htarget : IsQuotient (valueAt target n) (valueAt target d) row.target)
      (hdifference : Value.IsDifference m.valueType row.source.toValue row.target.toValue
        row.difference) :
      Tells source target (.ratio m name n d) row

theorem exists_admit? {v : Value} (h : v.IsPlain) : ∃ c, Cell.admit? v = some c := by
  cases v with
  | decimal d =>
    cases d with
    | finite s c e => exact ⟨_, rfl⟩
    | _ => exact h.elim
  | null | bool _ | int _ | float _ | text _ => exact ⟨_, rfl⟩
  | _ => exact h.elim

theorem ofValues_cases (m : ResolvedMetric) (name : String) {v w : Value} (hv : v.IsPlain)
    (hw : w.IsPlain) :
    (m.valueType = .number ∧ v.DifferenceOverflows w ∧
      ofValues m name v w = .error (.arithmetic .overflow)) ∨
    (¬ (m.valueType = .number ∧ v.DifferenceOverflows w) ∧
      ∃ s t d, Cell.admit? v = some s ∧ Cell.admit? w = some t ∧
        Value.IsDifference m.valueType v w d ∧ ofValues m name v w = .ok ⟨m, name, s, t, d⟩) := by
  rw [ofValues]
  rcases Value.difference_cases m.valueType hv hw with ⟨ht, hlarge, h⟩ | ⟨hsmall, d, h, hd⟩
  · rw [h]
    exact .inl ⟨ht, hlarge, rfl⟩
  · obtain ⟨s, hs⟩ := exists_admit? hv
    obtain ⟨t, ht⟩ := exists_admit? hw
    rw [h, hs, ht]
    exact .inr ⟨hsmall, s, t, d, rfl, rfl, hd, rfl⟩

/-- Quotients are binary numbers, and these have a difference. -/
theorem IsQuotient.not_differenceOverflows {v w v' w' : Value} {s t : Cell}
    (hs : IsQuotient v w s) (ht : IsQuotient v' w' t) :
    ¬ s.toValue.DifferenceOverflows t.toValue := by
  rintro ⟨a, b, ha, hb, hlarge⟩
  have hs' : s ≠ .null := by
    rintro rfl
    exact ha.isNumeric
  have ht' : t ≠ .null := by
    rintro rfl
    exact hb.isNumeric
  obtain ⟨_, _, x, _, _, _, rfl⟩ := hs.divided hs'
  obtain ⟨_, _, y, _, _, _, rfl⟩ := ht.divided ht'
  cases ha
  cases hb
  exact hlarge.elim id id

/-- A definition that reads plain records fails by overflow or gives the row that tells of them. -/
def Settles (source target : Record) (x : Definition) : Prop :=
  (x.Overflows source target ∧ assemble source target x = .error (.arithmetic .overflow)) ∨
  (¬ x.Overflows source target ∧
    ∃ row, assemble source target x = .ok row ∧ Tells source target x row)

theorem settles_direct (hsource : source.IsPlain) (htarget : target.IsPlain) (m : ResolvedMetric)
    (name : String) : Settles source target (.direct m name) := by
  have hs := isPlain_valueAt hsource name
  have ht := isPlain_valueAt htarget name
  rcases ofValues_cases m name hs ht with ⟨hnumber, hlarge, h⟩ | ⟨hsmall, s, t, d, hs, ht, hd, h⟩
  · exact .inl ⟨⟨hnumber, hlarge⟩, h⟩
  · exact .inr ⟨hsmall, _, h, .direct rfl rfl hs ht hd⟩

theorem settles_ratio (hsource : source.IsPlain) (htarget : target.IsPlain) (m : ResolvedMetric)
    (name n d : String) : Settles source target (.ratio m name n d) := by
  rw [Settles, assemble]
  rcases quotientAt_cases hsource n d with ⟨hlarge, h⟩ | ⟨hsmall, s, h, hs⟩
  · rw [h]
    exact .inl ⟨.inl hlarge, rfl⟩
  rw [h]
  rcases quotientAt_cases htarget n d with ⟨hlarge, h⟩ | ⟨hsmall', t, h, ht⟩
  · rw [h]
    exact .inl ⟨.inr hlarge, rfl⟩
  rw [h]
  refine .inr ⟨not_or.2 ⟨hsmall, hsmall'⟩, ?_⟩
  rcases ofValues_cases m name s.isPlain_toValue t.isPlain_toValue with
    ⟨-, hlarge, -⟩ | ⟨-, s', t', d, hs', ht', hd, h⟩
  · exact absurd hlarge (hs.not_differenceOverflows ht)
  · rw [Cell.admit?_toValue] at hs' ht'
    obtain rfl := Option.some.inj hs'
    obtain rfl := Option.some.inj ht'
    exact ⟨_, h, .ratio rfl rfl hs ht hd⟩

theorem settles_of_defines (hsource : source.IsPlain) (htarget : target.IsPlain)
    {d : Compilation.Draft} {m : ResolvedMetric} {x : Definition} (h : d.Defines m x) :
    Settles source target x := by
  cases h with
  | direct => exact settles_direct hsource htarget _ _
  | ratio => exact settles_ratio hsource htarget _ _ _ _

theorem settles_of_compile {object : String} {ms : List ResolvedMetric} {filter : Option String}
    {p : Plan} (hp : Compilation.compile object ms filter = .ok p) (hsource : source.IsPlain)
    (htarget : target.IsPlain) : ∀ x ∈ p.definitions, Settles source target x := by
  intro x hx
  obtain ⟨definitions, d, rfl, hrun⟩ := Compilation.run_of_compile object filter hp
  obtain ⟨m, -, hm⟩ := Sequence.exists_of_mem_right hrun.defines hx
  exact settles_of_defines hsource htarget hm

/-! ## All rows -/

/-- Either the arithmetic of some definition overflows and no row is assembled, or none overflows
and each definition has its row. -/
inductive AllSettled (source target : Record) (definitions : List Definition) : Prop
  | overflows (h : ∃ x ∈ definitions, x.Overflows source target)
      (herror : assembleAll definitions source target = .error (.arithmetic .overflow))
  | rows {rows : List Row} (h : ∀ x ∈ definitions, ¬ x.Overflows source target)
      (hok : assembleAll definitions source target = .ok rows)
      (htells : List.Forall₂ (Tells source target) definitions rows)

theorem allSettled {definitions : List Definition}
    (h : ∀ x ∈ definitions, Settles source target x) : AllSettled source target definitions := by
  cases hall : assembleAll definitions source target with
  | error e =>
    obtain ⟨x, hx, hfail⟩ := Sequence.exists_of_mapM_error hall
    rcases h x hx with ⟨hlarge, herror⟩ | ⟨-, row, hrow, -⟩
    · rw [hfail] at herror
      obtain rfl := Except.error.inj herror
      exact .overflows ⟨x, hx, hlarge⟩ hall
    · rw [hfail] at hrow
      exact absurd hrow Sequence.error_ne_ok
  | ok rows =>
    have hrows := Sequence.mapM_ok_iff.1 hall
    have hsettled (x : Definition) (hx : x ∈ definitions) (row : Row)
        (hrow : assemble source target x = .ok row) :
        ¬ x.Overflows source target ∧ Tells source target x row := by
      rcases h x hx with ⟨-, herror⟩ | ⟨hsmall, row', hrow', htells⟩
      · rw [herror] at hrow
        exact absurd hrow Sequence.error_ne_ok
      · rw [hrow'] at hrow
        obtain rfl := Except.ok.inj hrow
        exact ⟨hsmall, htells⟩
    refine .rows (fun x hx => ?_) hall (Sequence.forall₂_imp_of_mem hrows
      fun x hx row _ hrow => (hsettled x hx row hrow).2)
    obtain ⟨row, hrow⟩ := Sequence.exists_mapM_ok_iff.1 ⟨rows, hall⟩ x hx
    exact (hsettled x hx row hrow).1

theorem AllSettled.error {definitions : List Definition}
    (h : AllSettled source target definitions) {x : Definition} (hx : x ∈ definitions)
    (hlarge : x.Overflows source target) :
    assembleAll definitions source target = .error (.arithmetic .overflow) := by
  cases h with
  | overflows _ herror => exact herror
  | rows h => exact absurd hlarge (h x hx)

/-- Arithmetic that is too large is all that keeps a row of a compiled plan from being assembled,
and what the cells of the row hold can be told from the values of the two records. -/
theorem assemble_of_compile {object : String} {ms : List ResolvedMetric} {filter : Option String}
    {p : Plan} (hp : Compilation.compile object ms filter = .ok p) (hsource : source.IsPlain)
    (htarget : target.IsPlain) {x : Definition} (hx : x ∈ p.definitions) :
    (assemble source target x = .error (.arithmetic .overflow) ↔ x.Overflows source target) ∧
    (¬ x.Overflows source target →
      ∃ row, assemble source target x = .ok row ∧ Tells source target x row) := by
  rcases settles_of_compile hp hsource htarget x hx with ⟨hlarge, h⟩ | ⟨hsmall, row, h, htells⟩
  · exact ⟨iff_of_true h hlarge, fun hsmall => absurd hlarge hsmall⟩
  · rw [h]
    exact ⟨iff_of_false nofun hsmall, fun _ => ⟨row, rfl, htells⟩⟩

def sumAmount : ResolvedAggregate := ⟨.sum, ⟨"Amount", "double", "Amount"⟩, .number⟩

def maxAmount : ResolvedAggregate := ⟨.max, ⟨"Amount", "double", "Amount"⟩, .number⟩

def shareMetrics : List ResolvedMetric := [.count .number, .ratio sumAmount maxAmount .number]

def countDefinition : Definition := .direct (.count .number) "count__all"

def shareDefinition : Definition :=
  .ratio (.ratio sumAmount maxAmount .number) "ratio__sum_amount_max_amount" "sum__amount"
    "max__amount"

def sharePlan : Plan where
  object := "Deal"
  filter := none
  query := some
    "SELECT COUNT(Id) count__all, SUM(Amount) sum__amount, MAX(Amount) max__amount FROM Deal"
  expressions :=
    [⟨"count__all", "COUNT(Id)", .number⟩, ⟨"sum__amount", "SUM(Amount)", .number⟩,
     ⟨"max__amount", "MAX(Amount)", .number⟩]
  definitions := [countDefinition, shareDefinition]
  conditionals := []
  sampleFields := ["Amount"]

theorem compile_shareMetrics : Compilation.compile "Deal" shareMetrics none = .ok sharePlan := by
  decide +kernel

/-- The greatest amount is not zero, and becomes zero by rounding. -/
def tinyAmounts : Record :=
  [("count__all", .bool true), ("sum__amount", .int 6),
   ("max__amount", .decimal (.finite false 1 (-400)))]

/-- The sum of the amounts is `3.00`. -/
def wholeAmounts : Record :=
  [("count__all", .int 7), ("sum__amount", .decimal (.finite false 300 (-2))),
   ("max__amount", .int 2)]

theorem assemble_of_compile_share :
    Compilation.compile "Deal" shareMetrics none = .ok sharePlan ∧ tinyAmounts.IsPlain ∧
      wholeAmounts.IsPlain ∧ shareDefinition ∈ sharePlan.definitions ∧
      ¬ shareDefinition.Overflows tinyAmounts wholeAmounts ∧
      ∃ row, assemble tinyAmounts wholeAmounts shareDefinition = .ok row ∧
        Tells tinyAmounts wholeAmounts shareDefinition row ∧
        row.source = .null ∧ row.target ≠ .null ∧ row.difference = none := by
  have hsource : tinyAmounts.IsPlain := Record.isPlain_of_forall (by simp [tinyAmounts, Value.IsPlain])
  have htarget : wholeAmounts.IsPlain :=
    Record.isPlain_of_forall (by simp [wholeAmounts, Value.IsPlain])
  have hx : shareDefinition ∈ sharePlan.definitions := by simp [sharePlan]
  have htiny : Value.Vanishes (valueAt tinyAmounts "max__amount") := .decimal (by decide +kernel)
  have hsum : (valueAt wholeAmounts "sum__amount").Is (.int 3) :=
    .whole (by decide : Decimal.IsExactly false 300 (-2) 3)
  have hmax : (valueAt wholeAmounts "max__amount").Is (.int 2) := .int 2
  have hfits : ¬ shareDefinition.Overflows tinyAmounts wholeAmounts := by
    rintro (⟨_, _, _, _, hnonzero, _⟩ | ⟨a, b, ha, hb, _, hlarge⟩)
    · exact hnonzero htiny
    · rw [ha.unique hsum, hb.unique hmax] at hlarge
      exact absurd hlarge (by decide +kernel : ¬ Binary64.tooLarge * 2 ≤ 3)
  obtain ⟨-, hrow⟩ := assemble_of_compile compile_shareMetrics hsource htarget hx
  obtain ⟨row, hok, htells⟩ := hrow hfits
  refine ⟨compile_shareMetrics, hsource, htarget, hx, hfits, row, hok, htells, ?_⟩
  cases htells with
  | ratio _ _ hs ht hd =>
    have hnull := hs.null_iff.2 (.zero htiny)
    refine ⟨hnull, fun h => ?_, ?_⟩
    · rcases ht.null_iff.1 h with h | h | h
      · exact h hsum.isNumeric
      · exact h hmax.isNumeric
      · exact absurd (hmax.isZero_iff.2 h) Bool.false_ne_true
    · by_contra hsome
      have hnumeric := (hd.isSome_iff.1 hsome).2.1
      rw [hnull] at hnumeric
      exact hnumeric

/-- Rows are missing only where arithmetic is too large, and the cells that they are assembled from
only where the value of a backend cannot be measured. -/
theorem assembleAll_of_compile {object : String} {ms : List ResolvedMetric}
    {filter : Option String} {p : Plan} (hp : Compilation.compile object ms filter = .ok p) :
    (∀ source target : Evaluation, AllSettled source.values target.values p.definitions) ∧
    ∀ t v e, Cell.normalize t v = .error e ↔ Cell.Unmeasurable t v e := by
  refine ⟨fun source target => allSettled ?_, Cell.normalize_error_iff⟩
  exact settles_of_compile hp source.isPlain_values target.isPlain_values

/-- A whole number past the binary ones. -/
def hugeWhole : Int := (10 ^ 400 : Nat)

theorem tooLarge_le_hugeWhole : Binary64.tooLarge ≤ hugeWhole.natAbs := by decide +kernel

def hugeCount : Evaluation := ⟨[("count__all", .number (.int hugeWhole))], []⟩

def hugeSum : Evaluation :=
  ⟨[("sum__amount", .number (.int hugeWhole)), ("max__amount", .number (.int 1))], []⟩

def fractionalCount : Evaluation := ⟨[("count__all", .number (.float (.ofDecimal false 15 (-1))))], []⟩

theorem assembleAll_of_compile_share :
    Compilation.compile "Deal" shareMetrics none = .ok sharePlan ∧
      AllSettled hugeCount.values fractionalCount.values sharePlan.definitions ∧
      AllSettled hugeCount.values hugeCount.values sharePlan.definitions ∧
      (Cell.normalize .number (.decimal (.nan false false 0)) = .error .invalid ↔
        Cell.Unmeasurable .number (.decimal (.nan false false 0)) .invalid) := by
  obtain ⟨hsettled, hmeasured⟩ := assembleAll_of_compile compile_shareMetrics
  exact ⟨compile_shareMetrics, hsettled _ _, hsettled _ _, hmeasured _ _ _⟩

/-- A difference and a quotient that are too large raise an error where their cells should be empty,
and so do an infinite decimal and one that signals. -/
theorem assembleAll_error_huge :
    Compilation.compile "Deal" shareMetrics none = .ok sharePlan ∧
      assembleAll sharePlan.definitions hugeCount.values fractionalCount.values =
        .error (.arithmetic .overflow) ∧
      assembleAll sharePlan.definitions hugeSum.values fractionalCount.values =
        .error (.arithmetic .overflow) ∧
      Cell.normalize .number (.decimal (.infinite false)) = .error .overflow ∧
      Cell.normalize .number (.decimal (.nan false true 0)) = .error .invalid := by
  have hsettled (e f : Evaluation) : AllSettled e.values f.values sharePlan.definitions :=
    allSettled (settles_of_compile compile_shareMetrics e.isPlain_values f.isPlain_values)
  have hdifference : countDefinition.Overflows hugeCount.values fractionalCount.values :=
    ⟨rfl, .int hugeWhole, _, .int _, .float _, .inl tooLarge_le_hugeWhole⟩
  have hquotient : shareDefinition.Overflows hugeSum.values fractionalCount.values := by
    refine .inl ⟨.int hugeWhole, .int 1, .int _, .int _, nofun, ?_⟩
    show Binary64.tooLarge * 1 ≤ hugeWhole.natAbs
    rw [Nat.mul_one]
    exact tooLarge_le_hugeWhole
  refine ⟨compile_shareMetrics, (hsettled _ _).error (x := countDefinition) ?_ hdifference,
    (hsettled _ _).error (x := shareDefinition) ?_ hquotient, rfl, rfl⟩
  · exact List.mem_cons_self
  · exact List.mem_cons_of_mem _ (List.mem_singleton_self _)

end Row
end CrossCheck
