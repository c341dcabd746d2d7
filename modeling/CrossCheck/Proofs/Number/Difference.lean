import CrossCheck.Proofs.Number.Nearest

/-!
Differences of two numbers, as clocks are read.  A difference is rounded, so two of them keep
their order but may become equal.  Between a number and its double nothing is lost at all.
-/

namespace CrossCheck
namespace Binary64

/-! ## Order -/

/-- The order of numbers.  What is no number has no place in it. -/
def AtMost : Binary64 → Binary64 → Prop
  | nan, _ | _, nan => False
  | infinite true, _ | _, infinite false => True
  | infinite false, _ | _, infinite true => False
  | finite s a, finite t b => signedUnits s a ≤ signedUnits t b

instance : (x y : Binary64) → Decidable (AtMost x y)
  | nan, _ | infinite _, nan | finite _ _, nan | infinite false, infinite true
  | infinite false, finite _ _ | finite _ _, infinite true => .isFalse id
  | infinite true, infinite _ | infinite true, finite _ _ | infinite false, infinite false
  | finite _ _, infinite false => .isTrue trivial
  | finite s a, finite t b => inferInstanceAs (Decidable (signedUnits s a ≤ signedUnits t b))

theorem AtMost.trans {x y z : Binary64} (h : AtMost x y) (h' : AtMost y z) : AtMost x z := by
  rcases x with _ | ⟨_ | _⟩ | ⟨s, a⟩ <;> rcases y with _ | ⟨_ | _⟩ | ⟨t, b⟩ <;>
    rcases z with _ | ⟨_ | _⟩ | ⟨u, c⟩ <;> simp only [AtMost] at h h' ⊢
  exact h.trans h'

theorem AtMost.ne_nan {x y : Binary64} (h : AtMost x y) : y ≠ nan := by
  rintro rfl
  rcases x with _ | ⟨_ | _⟩ | ⟨s, a⟩ <;> exact h

theorem atMost_refl {x : Binary64} (hx : x ≠ nan) : AtMost x x := by
  rcases x with _ | ⟨_ | _⟩ | ⟨s, a⟩
  · exact absurd rfl hx
  · trivial
  · trivial
  · exact le_refl (signedUnits s a)

/-! ## Rounding and whole numbers -/

theorem nearestRank_mono {num num' : Nat} (h : num ≤ num') :
    nearestRank num 1 ≤ nearestRank num' 1 :=
  (nearest_nearestRank num Nat.one_pos).le (nearest_nearestRank num' Nat.one_pos) Nat.one_pos
    Nat.one_pos (Nat.mul_le_mul_right 1 h)

theorem leInt_ofUnits_false (num den : Nat) (n : Int) :
    (ofUnits false num den).leInt n = true ↔
      nearestRank num den < finiteCount ∧ (units (nearestRank num den) : Int) ≤ n * unitsPerOne := by
  unfold ofUnits
  split
  · next h => simp [leInt, signedUnits, h]
  · next h => simp [leInt, h]

theorem leInt_ofUnits_true (num den : Nat) (n : Int) :
    (ofUnits true num den).leInt n = true ↔
      (nearestRank num den < finiteCount →
        -(units (nearestRank num den) : Int) ≤ n * unitsPerOne) := by
  unfold ofUnits
  split
  · next h => simp [leInt, signedUnits, h]
  · next h => simp [leInt, h]

/-- The smaller of two counts of units does not round to more than the larger one. -/
theorem leInt_ofUnits_of_le {z w n : Int} (hle : z ≤ w)
    (h : (ofUnits (w < 0) w.natAbs 1).leInt n = true) :
    (ofUnits (z < 0) z.natAbs 1).leInt n = true := by
  rcases lt_or_ge w 0 with hw | hw
  · -- Both are negative: the magnitudes are in the opposite order.
    have hz : z < 0 := by omega
    rw [decide_eq_true hw, leInt_ofUnits_true] at h
    rw [decide_eq_true hz, leInt_ofUnits_true]
    intro hfinite
    have hrank : nearestRank w.natAbs 1 ≤ nearestRank z.natAbs 1 := nearestRank_mono (by omega)
    have hunits := units_strictMono.monotone hrank
    have hbound := h (by omega)
    exact le_trans (Int.neg_le_neg (Int.ofNat_le.2 hunits)) hbound
  · rw [decide_eq_false (by omega), leInt_ofUnits_false] at h
    obtain ⟨hfinite, hbound⟩ := h
    rcases lt_or_ge z 0 with hz | hz
    · rw [decide_eq_true hz, leInt_ofUnits_true]
      intro _
      exact le_trans (by omega) hbound
    · rw [decide_eq_false (by omega), leInt_ofUnits_false]
      have hrank : nearestRank z.natAbs 1 ≤ nearestRank w.natAbs 1 := nearestRank_mono (by omega)
      have hunits := units_strictMono.monotone hrank
      exact ⟨by omega, le_trans (Int.ofNat_le.2 hunits) hbound⟩

theorem signedUnits_not (s : Bool) (rank : Nat) : signedUnits (!s) rank = -signedUnits s rank := by
  cases s <;> simp [signedUnits]

theorem ofUnits_zero : ofUnits false 0 1 = zero false := by
  have h := ofUnits_units false ⟨0, by decide⟩
  simp only [units_zero] at h
  exact h

/-- A difference of finite numbers compares as its one rounding does, a zero of either sign alike. -/
theorem leInt_sub (s t : Bool) (a b : Fin finiteCount) (n : Int) :
    ((finite s a).sub (finite t b)).leInt n =
      (ofUnits (signedUnits s a - signedUnits t b < 0)
        (signedUnits s a - signedUnits t b).natAbs 1).leInt n := by
  have hsum : signedUnits s a + signedUnits (!t) b = signedUnits s a - signedUnits t b := by
    rw [signedUnits_not, Int.sub_eq_add_neg]
  simp only [sub, neg, add, hsum]
  split
  · next hzero =>
    have hsign (negative : Bool) : (zero negative).leInt n = (zero false).leInt n := by
      cases negative <;> simp [zero, leInt, signedUnits, units_zero]
    rw [hsign, hzero]
    exact congrArg (leInt · n) ofUnits_zero.symm
  · rfl

/-- What happened later is not longer ago: if the time since the earlier moment is no longer than
`n`, neither is the time since the later one. -/
theorem leInt_sub_of_atMost {x y now : Binary64} (hxy : AtMost x y) (hnow : AtMost y now) {n : Int}
    (h : (now.sub x).leInt n = true) : (now.sub y).leInt n = true := by
  rcases now with _ | ⟨_ | _⟩ | ⟨u, c⟩ <;> rcases x with _ | ⟨_ | _⟩ | ⟨s, a⟩ <;>
    rcases y with _ | ⟨_ | _⟩ | ⟨t, b⟩
  -- A difference with an infinite number is infinite or none, and not at most `n` in this order.
  all_goals try first
    | exact absurd hxy id
    | exact absurd hnow id
    | exact absurd h Bool.false_ne_true
  have hxy : signedUnits s a ≤ signedUnits t b := hxy
  rw [leInt_sub] at h ⊢
  exact leInt_ofUnits_of_le (Int.sub_le_sub_left hxy _) h

/-! ## Exact differences -/

/-- Every small multiple of a power of two counts the units of a number. -/
theorem exists_units_eq (e : Nat) {k : Nat} (hk : k ≤ 2 ^ 53) : ∃ rank, units rank = k * 2 ^ e := by
  induction e generalizing k with
  | zero => exact ⟨0 * 2 ^ 52 + k, units_add hk (.inr rfl)⟩
  | succ e ih =>
    rcases Nat.lt_or_ge k (2 ^ 52) with hsmall | hlarge
    · obtain ⟨rank, hrank⟩ := ih (show 2 * k ≤ 2 ^ 53 by omega)
      refine ⟨rank, hrank.trans ?_⟩
      rw [pow_succ]
      ring
    · exact ⟨(e + 1) * 2 ^ 52 + k, units_add hk (.inl hlarge)⟩

/-- The difference of a number and one that is at most its double is a number. -/
theorem exists_units_eq_sub {a b : Nat} (hle : units b ≤ units a) (hnear : units a ≤ 2 * units b) :
    ∃ rank ≤ a, units rank = units a - units b := by
  have hexp : exponent b ≤ exponent a := by
    have hrank : b ≤ a := units_strictMono.le_iff_le.1 hle
    exact Nat.sub_le_sub_right (Nat.div_le_div_right hrank) 1
  -- Both are multiples of the unit of the smaller one's binade.
  have hb := units_eq b
  have ha : units a = significand a * 2 ^ (exponent a - exponent b) * 2 ^ exponent b := by
    rw [units_eq, Nat.mul_assoc, ← pow_add, Nat.sub_add_cancel hexp]
  have hpos : 0 < 2 ^ exponent b := Nat.two_pow_pos _
  rw [ha, hb] at hle hnear
  rw [← Nat.mul_assoc] at hnear
  have hle := Nat.le_of_mul_le_mul_right hle hpos
  have hnear := Nat.le_of_mul_le_mul_right hnear hpos
  have hsmall := significand_lt b
  obtain ⟨rank, hrank⟩ := exists_units_eq (exponent b)
    (show significand a * 2 ^ (exponent a - exponent b) - significand b ≤ 2 ^ 53 by omega)
  have hunits : units rank = units a - units b := by
    rw [hrank, Nat.sub_mul, ← ha, ← hb]
  exact ⟨rank, units_strictMono.le_iff_le.1 (hunits ▸ Nat.sub_le _ _), hunits⟩

/-- Time that is no longer than what was on the clock before it is told exactly. -/
theorem leInt_sub_iff {a b : Fin finiteCount} (hle : units b ≤ units a)
    (hnear : units a ≤ 2 * units b) (n : Int) :
    ((finite false a).sub (finite false b)).leInt n = true ↔
      (units a : Int) - units b ≤ n * unitsPerOne := by
  obtain ⟨rank, hrank, hunits⟩ := exists_units_eq_sub hle hnear
  have hdiff : signedUnits false a - signedUnits false b = units rank := by
    simp only [signedUnits, Bool.false_eq_true, if_false]
    omega
  have hexact := ofUnits_units false ⟨rank, Nat.lt_of_le_of_lt hrank a.isLt⟩
  have hsign : decide ((units rank : Int) < 0) = false := decide_eq_false (by omega)
  have hcast : (units rank : Int) = (units a : Int) - units b := by omega
  rw [leInt_sub, hdiff, hsign, Int.natAbs_natCast, hexact, ← hcast]
  exact decide_eq_true_iff

end Binary64
end CrossCheck
