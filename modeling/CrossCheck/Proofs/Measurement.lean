import CrossCheck.Measurement
import CrossCheck.Proofs.Number.Range

/-!
Which values are numbers, which numbers they are, and which of them are zero.  Decimals are what
makes this more than a reading of their sort: one that is whole counts as that whole number, and any
other is rounded and may vanish on the way.  At the end stand the values that cannot be measured.
-/

namespace CrossCheck

open Reading (signed signed_mul natAbs_signed)

/-! ## Whole decimals -/

namespace Decimal

theorem isWhole_iff (c : Nat) (e : Int) : isWhole c e = true ↔ 10 ^ (-e).toNat ∣ c := by
  rw [isWhole, Bool.or_eq_true, Bool.or_eq_true, Bool.and_eq_true, decide_eq_true_iff,
    decide_eq_true_iff, decide_eq_true_iff, decide_eq_true_iff]
  by_cases he : 0 ≤ e
  · have hzero : (-e).toNat = 0 := by omega
    simp [he, hzero]
  · have habs : e.natAbs = (-e).toNat := by omega
    rw [habs, show Nat.pow 10 (-e).toNat = 10 ^ (-e).toNat from rfl, ← Nat.dvd_iff_mod_eq_zero]
    constructor
    · rintro ((h | rfl) | ⟨-, h⟩)
      · exact absurd h he
      · exact Nat.dvd_zero _
      · exact h
    · intro h
      by_cases hc : c = 0
      · exact .inl (.inr hc)
      refine .inr ⟨?_, h⟩
      -- a multiple of the power has more digits than the power has zeros
      have hle : 10 ^ (-e).toNat ≤ c := Nat.le_of_dvd (Nat.pos_of_ne_zero hc) h
      by_contra hshort
      have hlt := (Nat.length_toDigits_le_iff (by decide) (by omega)).1
        (Nat.le_of_lt (Nat.lt_of_not_le hshort))
      omega

/-- The decimal is exactly the whole number. -/
def IsExactly (s : Bool) (c : Nat) (e n : Int) : Prop :=
  signed s c * 10 ^ e.toNat = n * 10 ^ (-e).toNat

instance (s : Bool) (c : Nat) (e n : Int) : Decidable (IsExactly s c e n) :=
  inferInstanceAs (Decidable (_ = _))

theorem IsExactly.coefficient {s : Bool} {c : Nat} {e n : Int} (h : IsExactly s c e n) :
    c * 10 ^ e.toNat = n.natAbs * 10 ^ (-e).toNat := by
  have habs := congrArg Int.natAbs h
  rwa [Int.natAbs_mul, Int.natAbs_mul, natAbs_signed, Int.natAbs_pow, Int.natAbs_pow] at habs

theorem IsExactly.dvd {s : Bool} {c : Nat} {e n : Int} (h : IsExactly s c e n) :
    10 ^ (-e).toNat ∣ c := by
  by_cases he : 0 ≤ e
  · have hzero : (-e).toNat = 0 := by omega
    rw [hzero]
    exact Nat.one_dvd c
  · have hzero : e.toNat = 0 := by omega
    have hc := h.coefficient
    rw [hzero, Nat.pow_zero, Nat.mul_one] at hc
    exact ⟨n.natAbs, hc.trans (Nat.mul_comm _ _)⟩

theorem IsExactly.unique {s : Bool} {c : Nat} {e m n : Int} (hm : IsExactly s c e m)
    (hn : IsExactly s c e n) : m = n :=
  Int.eq_of_mul_eq_mul_right (Int.pow_ne_zero (by decide)) (hm.symm.trans hn)

theorem isExactly_wholePart (s : Bool) {c : Nat} {e : Int} (h : 10 ^ (-e).toNat ∣ c) :
    IsExactly s c e (wholePart s c e) := by
  have hsigned : wholePart s c e = signed s (if c = 0 then 0
      else if 0 ≤ e then c * 10 ^ e.natAbs else c / 10 ^ e.natAbs) := rfl
  have hpow (k : Nat) : (10 : Int) ^ k = ((10 ^ k : Nat) : Int) := (Int.natCast_pow 10 k).symm
  rw [IsExactly, hsigned, hpow, hpow, ← signed_mul, ← signed_mul]
  by_cases hc : c = 0
  · rw [hc, if_pos rfl, Nat.zero_mul, Nat.zero_mul]
  rw [if_neg hc]
  by_cases he : 0 ≤ e
  · have habs : e.natAbs = e.toNat := by omega
    have hzero : (-e).toNat = 0 := by omega
    rw [if_pos he, habs, hzero, Nat.pow_zero, Nat.mul_one]
  · have habs : e.natAbs = (-e).toNat := by omega
    have hzero : e.toNat = 0 := by omega
    rw [if_neg he, habs, hzero, Nat.pow_zero, Nat.mul_one, Nat.div_mul_cancel h]

end Decimal

/-! ## Numbers -/

namespace Value

open Binary64 (unitsPerOne unitsPerOne_pos)

/-- Values whose sort is one of numbers.  Truth values are not among them. -/
def IsNumeric : Value → Prop
  | int _ | float _ | decimal _ => True
  | _ => False

/-- Nothing, texts, truth values and numbers, without the decimals that are not finite. -/
def IsPlain : Value → Prop
  | null | bool _ | int _ | float _ | text _ | decimal (.finite _ _ _) => True
  | _ => False

/-- The value is the number. -/
inductive Is : Value → Number → Prop
  | int (n : Int) : Is (.int n) (.int n)
  | float (x : Binary64) : Is (.float x) (.float x)
  | whole {s : Bool} {c : Nat} {e n : Int} (h : Decimal.IsExactly s c e n) :
      Is (.decimal (.finite s c e)) (.int n)
  | rounded {s : Bool} {c : Nat} {e : Int} (h : ∀ n, ¬ Decimal.IsExactly s c e n) :
      Is (.decimal (.finite s c e)) (.float (.ofDecimal s c e))

/-- The values that are zero to a division.  Among them are the decimals of at most half the least
positive binary number, `2 ^ -1074`, also where they are not zero themselves. -/
inductive Vanishes : Value → Prop
  | int : Vanishes (.int 0)
  | float (s : Bool) : Vanishes (.float (.zero s))
  | decimal {s : Bool} {c : Nat} {e : Int}
      (h : c * 10 ^ e.toNat * (2 * unitsPerOne) ≤ 10 ^ (-e).toNat) :
      Vanishes (.decimal (.finite s c e))

variable {v : Value} {n : Number}

theorem number?_of_is (h : v.Is n) : v.number? = some (.ok n) := by
  cases h with
  | int n => rfl
  | float x => rfl
  | @whole s c e n h =>
    have hpart := (Decimal.isExactly_wholePart s h.dvd).unique h
    rw [number?, Decimal.toNumber, if_pos ((Decimal.isWhole_iff c e).2 h.dvd), hpart]
  | @rounded s c e h =>
    have hwhole : ¬ Decimal.isWhole c e = true := fun hwhole =>
      h _ (Decimal.isExactly_wholePart s ((Decimal.isWhole_iff c e).1 hwhole))
    rw [number?, Decimal.toNumber, if_neg hwhole]

theorem number?_of_not_isNumeric (h : ¬ v.IsNumeric) : v.number? = none := by
  cases v with
  | int _ | float _ | decimal _ => exact absurd trivial h
  | _ => rfl

theorem Is.isNumeric (h : v.Is n) : v.IsNumeric := by
  cases h <;> trivial

theorem Is.unique {m : Number} (hm : v.Is m) (hn : v.Is n) : m = n := by
  have h := (number?_of_is hm).symm.trans (number?_of_is hn)
  exact Except.ok.inj (Option.some.inj h)

theorem IsPlain.exists_is (hv : v.IsPlain) (h : v.IsNumeric) : ∃ n, v.Is n := by
  cases v with
  | int n => exact ⟨_, .int n⟩
  | float x => exact ⟨_, .float x⟩
  | decimal d =>
    cases d with
    | finite s c e =>
      by_cases hwhole : ∃ n, Decimal.IsExactly s c e n
      · obtain ⟨n, hn⟩ := hwhole
        exact ⟨_, .whole hn⟩
      · exact ⟨_, .rounded (not_exists.1 hwhole)⟩
    | _ => exact hv.elim
  | _ => exact h.elim

theorem vanishes_whole_iff {s : Bool} {c : Nat} {e n : Int} (h : Decimal.IsExactly s c e n) :
    Vanishes (.decimal (.finite s c e)) ↔ n = 0 := by
  have hpow : 0 < 10 ^ (-e).toNat := Nat.pow_pos (by decide)
  constructor
  · rintro ⟨⟩
    rename_i hle
    rw [h.coefficient] at hle
    by_contra hn
    have hpos : 0 < n.natAbs := Int.natAbs_pos.2 hn
    have hone : 1 * 10 ^ (-e).toNat ≤ n.natAbs * 10 ^ (-e).toNat := Nat.mul_le_mul_right _ hpos
    have htwo := Nat.mul_le_mul hone (Nat.mul_le_mul_left 2 unitsPerOne_pos)
    omega
  · rintro rfl
    refine .decimal ?_
    rw [h.coefficient, Int.natAbs_zero, Nat.zero_mul, Nat.zero_mul]
    exact Nat.zero_le _

theorem vanishes_rounded_iff {s : Bool} {c : Nat} {e : Int}
    (h : ∀ n, ¬ Decimal.IsExactly s c e n) :
    Vanishes (.decimal (.finite s c e)) ↔ (Binary64.ofDecimal s c e).isZero = true := by
  have hndvd : ¬ 10 ^ (-e).toNat ∣ c := fun hdvd => h _ (Decimal.isExactly_wholePart s hdvd)
  have hc : c ≠ 0 := by
    rintro rfl
    exact hndvd (Nat.dvd_zero _)
  have he : e < 0 := by
    by_contra hnonneg
    have hzero : (-e).toNat = 0 := by omega
    rw [hzero] at hndvd
    exact hndvd (Nat.one_dvd c)
  have hzero : e.toNat = 0 := by omega
  have hk : 0 < (-e).toNat := by omega
  have hneg : e = -((-e).toNat : Int) := by omega
  have hiff := Binary64.isZero_ofDecimal_iff s hc hk
  rw [← hneg] at hiff
  rw [hiff]
  constructor
  · rintro ⟨⟩
    rename_i hle
    rwa [hzero, Nat.pow_zero, Nat.mul_one] at hle
  · intro hle
    refine .decimal ?_
    rwa [hzero, Nat.pow_zero, Nat.mul_one]

/-- Whether a number is zero can be told from the value, before it is rounded. -/
theorem Is.isZero_iff (h : v.Is n) : n.isZero = true ↔ v.Vanishes := by
  cases h with
  | int n =>
    rw [Number.isZero, decide_eq_true_iff]
    constructor
    · rintro rfl
      exact .int
    · rintro ⟨⟩
      rfl
  | float x =>
    rw [Number.isZero]
    constructor
    · intro h
      cases x with
      | finite s rank =>
        have hrank : rank = ⟨0, by decide⟩ := Fin.ext (beq_iff_eq.1 h)
        rw [hrank]
        exact .float s
      | _ => exact absurd h Bool.false_ne_true
    · rintro ⟨⟩
      rfl
  | whole h => exact (decide_eq_true_iff).trans (vanishes_whole_iff h).symm
  | rounded h => exact (vanishes_rounded_iff h).symm

end Value

/-! ## Values that cannot be measured -/

namespace Value

/-- Values that are not made of others. -/
def IsScalar : Value → Prop
  | list _ | record _ => False
  | _ => True

theorem isWritable_int_iff (n : Int) : (int n).isWritable = true ↔ n.natAbs < 10 ^ longestWhole := by
  rw [isWritable, decide_eq_true_iff]
  exact Nat.length_toDigits_le_iff (by decide) (by decide)

theorem isWritable_of_isScalar {v : Value} (hv : v.IsScalar) (hint : ∀ n, v ≠ .int n) :
    v.isWritable = true := by
  cases v with
  | int n => exact absurd rfl (hint n)
  | list _ | record _ => exact hv.elim
  | _ => rfl

end Value

namespace Cell

/-- No cell is measured from the value: a number that is not finite where only a decimal could hold
it, or a whole number too long to be written out as the text that a date is. -/
inductive Unmeasurable : ValueType → Value → ArithmeticError → Prop
  | infinite (s : Bool) : Unmeasurable .number (.decimal (.infinite s)) .overflow
  | signaling (s : Bool) (payload : Nat) :
      Unmeasurable .number (.decimal (.nan s true payload)) .invalid
  | digits {n : Int} (h : 10 ^ longestWhole ≤ n.natAbs) : Unmeasurable .date (.int n) .unwritable
  | nested {v : Value} (hv : ¬ v.IsScalar) (h : v.isWritable = false) :
      Unmeasurable .date v .unwritable

theorem ofNumeric_error_iff (v : Value) (e : ArithmeticError) :
    ofNumeric v = .error e ↔ Unmeasurable .number v e := by
  constructor
  · intro h
    cases v with
    | decimal d =>
      cases d with
      | finite s c x =>
        rw [ofNumeric, Decimal.toNumber] at h
        split at h <;> exact nomatch h
      | infinite s =>
        cases h
        exact .infinite s
      | nan s signaling payload =>
        cases signaling with
        | true =>
          cases h
          exact .signaling s payload
        | false => exact nomatch h
    | bytes bs =>
      rw [ofNumeric] at h
      split at h <;> exact nomatch h
    | _ => exact nomatch h
  · rintro (_ | _)
    · rfl
    · rfl

theorem ofTemporal_error_iff (v : Value) (e : ArithmeticError) :
    ofTemporal v = .error e ↔ v.isWritable = false ∧ e = .unwritable := by
  have hshown (hv : ofTemporal v = if v.isWritable then .ok (text v.display)
      else .error .unwritable) : ofTemporal v = .error e ↔ v.isWritable = false ∧ e = .unwritable := by
    rw [hv]
    cases v.isWritable with
    | true => simp
    | false => simp [eq_comm]
  cases v with
  | null | date | time | timestamp =>
    simp [ofTemporal, Value.isWritable]
  | _ => exact hshown rfl

theorem normalize_error_iff (t : ValueType) (v : Value) (e : ArithmeticError) :
    normalize t v = .error e ↔ Unmeasurable t v e := by
  cases t with
  | number => exact ofNumeric_error_iff v e
  | date =>
    refine (ofTemporal_error_iff v e).trans ?_
    constructor
    · rintro ⟨hv, rfl⟩
      by_cases hscalar : v.IsScalar
      · by_cases hint : ∃ n, v = .int n
        · obtain ⟨n, rfl⟩ := hint
          refine .digits (Nat.le_of_not_lt fun hlt => ?_)
          rw [(Value.isWritable_int_iff n).2 hlt] at hv
          exact nomatch hv
        · rw [Value.isWritable_of_isScalar hscalar (not_exists.1 hint)] at hv
          exact nomatch hv
      · exact .nested hscalar hv
    · rintro (_ | _ | h | ⟨-, h⟩)
      · refine ⟨Bool.eq_false_iff.2 fun hw => ?_, rfl⟩
        have hlt := (Value.isWritable_int_iff _).1 hw
        omega
      · exact ⟨h, rfl⟩

end Cell
end CrossCheck
