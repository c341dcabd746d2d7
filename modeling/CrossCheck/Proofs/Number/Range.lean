import CrossCheck.Number
import CrossCheck.Proofs.Number.Shortest

/-!
The two ends of the format.  A quotient rounds past every finite number from half way between the
largest one and the power of two above it, and it rounds to zero up to half the least positive one.
The upper bound decides which divisions and subtractions overflow, the lower one which decimals
vanish on their way to a binary number.
-/

namespace CrossCheck
namespace Binary64

/-! ## The bounds -/

/-- The least whole number that rounds to no finite number. -/
@[irreducible] def tooLarge : Nat := 2 ^ 1024 - 2 ^ 970

theorem units_finiteCount :
    (units (finiteCount - 1) + units finiteCount) * 1 = 2 * (tooLarge * unitsPerOne) := by
  decide +kernel

theorem nearest_tooLarge : Nearest finiteCount (tooLarge * unitsPerOne) 1 := by
  have hnext : units finiteCount < units (finiteCount + 1) := units_lt_succ _
  have hprev : units (finiteCount - 1) ≤ units finiteCount :=
    units_strictMono.monotone (Nat.sub_le _ _)
  have hmid := units_finiteCount
  refine nearest_of_le hmid.le ?_ fun _ => by decide
  omega

theorem nearestRank_ge_iff (num : Nat) {den : Nat} (hden : 0 < den) :
    finiteCount ≤ nearestRank num den ↔ tooLarge * unitsPerOne * den ≤ num := by
  have hnearest := nearest_nearestRank num hden
  constructor
  · intro hle
    have hbelow : units (finiteCount - 1) ≤ units (nearestRank num den - 1) :=
      units_strictMono.monotone (by omega)
    have hat : units finiteCount ≤ units (nearestRank num den) := units_strictMono.monotone hle
    have hlower := (Nat.mul_le_mul_right den (Nat.add_le_add hbelow hat)).trans hnearest.lower
    rw [← Nat.mul_one (units (finiteCount - 1) + units finiteCount), units_finiteCount,
      Nat.mul_assoc] at hlower
    omega
  · intro hle
    refine nearest_tooLarge.le hnearest Nat.one_pos hden ?_
    rwa [Nat.mul_one]

theorem nearestRank_eq_zero_iff (num : Nat) {den : Nat} (hden : 0 < den) :
    nearestRank num den = 0 ↔ 2 * num ≤ den := by
  have hone : units 0 + units 1 = 1 := by decide
  constructor
  · intro hzero
    have hupper := (nearest_nearestRank num hden).upper
    rw [hzero, hone, Nat.one_mul] at hupper
    exact hupper
  · intro hle
    refine nearestRank_eq (nearest_of_le ?_ ?_ fun _ => rfl) hden
    · simp [units_zero]
    · rw [hone, Nat.one_mul]
      exact hle

/-- A quotient is too large, or it rounds to a finite number, which is zero if it is at most half a
unit. -/
theorem ofRatio_cases (negative : Bool) (num : Nat) {den : Nat} (hden : 0 < den) :
    (tooLarge * den ≤ num ∧ ofRatio negative num den = infinite negative) ∨
    (num < tooLarge * den ∧ ∃ rank, ofRatio negative num den = finite negative rank ∧
      (rank.val = 0 ↔ num * (2 * unitsPerOne) ≤ den)) := by
  have hscale : tooLarge * unitsPerOne * den ≤ num * unitsPerOne ↔ tooLarge * den ≤ num := by
    rw [Nat.mul_right_comm]
    exact Nat.mul_le_mul_right_iff unitsPerOne_pos
  have hge := (nearestRank_ge_iff (num * unitsPerOne) hden).trans hscale
  have hzero := nearestRank_eq_zero_iff (num * unitsPerOne) hden
  rw [ofRatio, ofUnits]
  by_cases hfinite : nearestRank (num * unitsPerOne) den < finiteCount
  · rw [dif_pos hfinite]
    refine .inr ⟨?_, _, rfl, ?_⟩
    · omega
    · rw [Nat.mul_left_comm]
      exact hzero
  · rw [dif_neg hfinite]
    exact .inl ⟨hge.1 (by omega), rfl⟩

/-! ## Whole numbers -/

/-- A whole number does not come to be zero by rounding. -/
theorem ofInt?_cases (n : Int) :
    (tooLarge ≤ n.natAbs ∧ ofInt? n = none) ∨
    (n.natAbs < tooLarge ∧ ∃ x, ofInt? n = some x ∧ (n ≠ 0 → x.isZero = false)) := by
  rw [ofInt?]
  rcases ofRatio_cases (n < 0) n.natAbs Nat.one_pos with ⟨hlarge, h⟩ | ⟨hsmall, rank, h, hzero⟩
  · rw [h]
    exact .inl ⟨by omega, rfl⟩
  · rw [h]
    refine .inr ⟨by omega, _, rfl, fun hn => ?_⟩
    have hpos : 0 < n.natAbs := Int.natAbs_pos.2 hn
    have hone : 2 * 1 ≤ 2 * unitsPerOne := Nat.mul_le_mul_left 2 unitsPerOne_pos
    have hlarge : 1 * (2 * 1) ≤ n.natAbs * (2 * unitsPerOne) := Nat.mul_le_mul hpos hone
    have hrank : rank.val ≠ 0 := fun h0 => by
      have := hzero.1 h0
      omega
    exact beq_eq_false_iff_ne.2 hrank

theorem ofQuotient?_cases (a : Int) {b : Int} (hb : b ≠ 0) :
    (tooLarge * b.natAbs ≤ a.natAbs ∧ ofQuotient? a b = none) ∨
    (a.natAbs < tooLarge * b.natAbs ∧ ∃ x, ofQuotient? a b = some x) := by
  rw [ofQuotient?]
  rcases ofRatio_cases ((a < 0) != (b < 0)) a.natAbs (Int.natAbs_pos.2 hb) with
    ⟨hlarge, h⟩ | ⟨hsmall, rank, h, -⟩
  · rw [h]
    exact .inl ⟨hlarge, rfl⟩
  · rw [h]
    exact .inr ⟨hsmall, _, rfl⟩

/-! ## Decimals that vanish -/

/-- A fraction becomes zero exactly if it is at most half a unit, also where its power of ten is
not computed. -/
theorem isZero_ofDecimal_iff (negative : Bool) {c k : Nat} (hc : c ≠ 0) (hk : 0 < k) :
    (ofDecimal negative c (-k)).isZero = true ↔ c * (2 * unitsPerOne) ≤ 10 ^ k := by
  have hpow : 0 < 10 ^ k := Nat.pow_pos (by decide)
  have hlarge : ¬(farPower : Int) < -k := by omega
  have hneg : -(k : Int) < 0 := by omega
  have habs : (-(k : Int)).natAbs = k := by omega
  have hzero := nearestRank_eq_zero_iff (c * unitsPerOne) hpow
  rw [Nat.mul_left_comm] at hzero
  rw [ofDecimal, if_neg hc, if_neg hlarge]
  by_cases hfar : (Nat.log2 c / 3 : Int) + -k < -(farPower : Int)
  · rw [if_pos hfar]
    refine ⟨fun _ => ?_, fun _ => rfl⟩
    by_contra hmuch
    have hpos : 0 < nearestRank (c * unitsPerOne) (10 ^ k) := by omega
    have hnearest : NearestDecimal (nearestRank (c * unitsPerOne) (10 ^ k)) c (-k) := by
      have hplus : (-(k : Int)).toNat = 0 := by omega
      have hminus : (- -(k : Int)).toNat = k := by omega
      rw [NearestDecimal, hplus, hminus, Nat.pow_zero, Nat.mul_one]
      exact nearest_nearestRank _ hpow
    have hnear := hnearest.le_log2_add hpos
    omega
  · rw [if_neg hfar, if_pos hneg, habs]
    rcases ofRatio_cases negative c hpow with ⟨hmuch, h⟩ | ⟨-, rank, h, hrank⟩
    · rw [show Nat.pow 10 k = 10 ^ k from rfl, h]
      refine ⟨fun hinf => absurd hinf Bool.false_ne_true, fun hle => ?_⟩
      have hle' : 1 * (10 ^ k) ≤ tooLarge * 10 ^ k :=
        Nat.mul_le_mul_right _ (by decide +kernel)
      have htwo : c * (2 * 1) ≤ c * (2 * unitsPerOne) :=
        Nat.mul_le_mul_left c (Nat.mul_le_mul_left 2 unitsPerOne_pos)
      omega
    · rw [show Nat.pow 10 k = 10 ^ k from rfl, h, ← hrank]
      exact beq_iff_eq

end Binary64

/-! ## Arithmetic -/

namespace Number

open Binary64

/-- A whole number that cannot become a binary one. -/
def IsTooLarge : Number → Prop
  | int n => tooLarge ≤ n.natAbs
  | float _ => False

/-- The quotient of two whole numbers is too large, or one of two numbers that have to meet as
binary ones is. -/
def QuotientOverflows : Number → Number → Prop
  | int a, int b => tooLarge * b.natAbs ≤ a.natAbs
  | a, b => a.IsTooLarge ∨ b.IsTooLarge

/-- Whole numbers have a difference whatever their size. -/
def DifferenceOverflows : Number → Number → Prop
  | int _, int _ => False
  | a, b => a.IsTooLarge ∨ b.IsTooLarge

theorem DifferenceOverflows.symm {a b : Number} (h : DifferenceOverflows a b) :
    DifferenceOverflows b a := by
  cases a with
  | int a =>
    cases b with
    | int b => exact h
    | float y => exact Or.symm h
  | float x =>
    cases b with
    | int b => exact Or.symm h
    | float y => exact Or.symm h

theorem toBinary64_cases (a : Number) :
    (a.IsTooLarge ∧ a.toBinary64 = .error .overflow) ∨
    (¬ a.IsTooLarge ∧ ∃ x, a.toBinary64 = .ok x ∧ (a.isZero = false → x.isZero = false)) := by
  cases a with
  | float x => exact .inr ⟨id, x, rfl, id⟩
  | int n =>
    rw [toBinary64]
    rcases ofInt?_cases n with ⟨hlarge, h⟩ | ⟨hsmall, x, h, hzero⟩
    · rw [h]
      exact .inl ⟨hlarge, rfl⟩
    · rw [h]
      refine .inr ⟨Nat.not_le_of_lt hsmall, x, rfl, fun hn => hzero ?_⟩
      simpa [isZero] using hn

/-- Numbers that meet as binary ones become such, unless one of them is too large. -/
theorem asBinary_cases {α : Type} (f : Binary64 → Binary64 → Except ArithmeticError α)
    (a b : Number) :
    ((a.IsTooLarge ∨ b.IsTooLarge) ∧ asBinary f a b = .error .overflow) ∨
    (¬ (a.IsTooLarge ∨ b.IsTooLarge) ∧ ∃ x y, a.toBinary64 = .ok x ∧ b.toBinary64 = .ok y ∧
      (b.isZero = false → y.isZero = false) ∧ asBinary f a b = f x y) := by
  rcases toBinary64_cases a with ⟨ha, hx⟩ | ⟨ha, x, hx, -⟩
  · refine .inl ⟨.inl ha, ?_⟩
    rw [asBinary, hx]
    rfl
  · rcases toBinary64_cases b with ⟨hb, hy⟩ | ⟨hb, y, hy, hzero⟩
    · refine .inl ⟨.inr hb, ?_⟩
      rw [asBinary, hx, hy]
      rfl
    · refine .inr ⟨not_or.2 ⟨ha, hb⟩, x, y, hx, hy, hzero, ?_⟩
      rw [asBinary, hx, hy]
      rfl

theorem asBinary_succeeds {α : Type} {f : Binary64 → Binary64 → Except ArithmeticError α}
    {a b : Number} (hf : ∀ x y, (b.isZero = false → y.isZero = false) → ∃ r, f x y = .ok r) :
    ((a.IsTooLarge ∨ b.IsTooLarge) ∧ asBinary f a b = .error .overflow) ∨
    (¬ (a.IsTooLarge ∨ b.IsTooLarge) ∧ ∃ r, asBinary f a b = .ok r) := by
  rcases asBinary_cases f a b with h | ⟨hsmall, x, y, -, -, hzero, h⟩
  · exact .inl h
  · rw [h]
    exact .inr ⟨hsmall, hf x y hzero⟩

/-- By what is not zero division succeeds unless it overflows.  In particular no divisor becomes
zero on its way to a binary number. -/
theorem divide_cases {a b : Number} (hb : b.isZero = false) :
    (QuotientOverflows a b ∧ divide a b = .error .overflow) ∨
    (¬ QuotientOverflows a b ∧ ∃ x, divide a b = .ok x) := by
  have hbinary := asBinary_succeeds (a := a) (b := b)
    (f := fun x y => if y.isZero then .error .zeroDivisor else .ok (x.div y))
    fun x y hy => ⟨x.div y, if_neg (Bool.eq_false_iff.1 (hy hb))⟩
  cases a with
  | int a =>
    cases b with
    | int b =>
      have hne : b ≠ 0 := by simpa [isZero] using hb
      rw [divide, if_neg hne]
      rcases ofQuotient?_cases a hne with ⟨hlarge, h⟩ | ⟨hsmall, x, h⟩
      · rw [h]
        exact .inl ⟨hlarge, rfl⟩
      · rw [h]
        exact .inr ⟨Nat.not_le_of_lt hsmall, x, rfl⟩
    | float y => exact hbinary
  | float x =>
    cases b with
    | int b => exact hbinary
    | float y => exact hbinary

theorem subtract_cases (a b : Number) :
    (DifferenceOverflows a b ∧ subtract a b = .error .overflow) ∨
    (¬ DifferenceOverflows a b ∧ ∃ n, subtract a b = .ok n) := by
  have hbinary := asBinary_succeeds (a := a) (b := b) (f := fun x y => .ok (float (x.sub y)))
    fun x y _ => ⟨float (x.sub y), rfl⟩
  cases a with
  | int a =>
    cases b with
    | int b => exact .inr ⟨id, _, rfl⟩
    | float y => exact hbinary
  | float x =>
    cases b with
    | int b => exact hbinary
    | float y => exact hbinary

end Number
end CrossCheck
