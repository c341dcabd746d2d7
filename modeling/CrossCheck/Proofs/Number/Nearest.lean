import CrossCheck.Number.Binary64
import Mathlib.Tactic.Ring
import Mathlib.Tactic.Linarith

/-!
Rounding to binary64.  A rank is the one that a quotient of units is rounded to when the quotient
lies between the midpoints to the two neighbours of the rank, where a midpoint goes to the even
one.  This says all that rounding does: it depends on the value of the quotient alone, it keeps
the order of quotients, and every number is its own rounding.
-/

namespace CrossCheck
namespace Binary64

/-! ## Ranks and units -/

theorem exponent_mul_add_significand (rank : Nat) :
    exponent rank * 2 ^ 52 + significand rank = rank := by
  simp only [exponent, significand, Nat.pow_eq]
  split <;> omega

theorem significand_lt (rank : Nat) : significand rank < 2 ^ 53 := by
  simp only [significand, Nat.pow_eq]
  split <;> omega

theorem le_significand_or (rank : Nat) : 2 ^ 52 ≤ significand rank ∨ exponent rank = 0 := by
  simp only [exponent, significand, Nat.pow_eq]
  split <;> omega

/-- A place of a binade, its end included, counts units of that binade.  In the lowest binade the
places begin at zero. -/
theorem units_add {e s : Nat} (hs : s ≤ 2 ^ 53) (hlow : 2 ^ 52 ≤ s ∨ e = 0) :
    units (e * 2 ^ 52 + s) = s * 2 ^ e := by
  rcases Nat.lt_or_ge s (2 ^ 52) with hsmall | hlarge
  · have he : e = 0 := by omega
    subst he
    have hsig : significand (0 * 2 ^ 52 + s) = s := by
      simp only [significand, Nat.pow_eq]
      split <;> omega
    have hexp : exponent (0 * 2 ^ 52 + s) = 0 := by
      simp only [exponent, Nat.pow_eq]
      omega
    rw [units, hsig, hexp]
    rfl
  rcases Nat.lt_or_eq_of_le hs with hbelow | htop
  · have hsig : significand (e * 2 ^ 52 + s) = s := by
      simp only [significand, Nat.pow_eq]
      split <;> omega
    have hexp : exponent (e * 2 ^ 52 + s) = e := by
      simp only [exponent, Nat.pow_eq]
      omega
    rw [units, hsig, hexp]
    rfl
  · subst htop
    have hsig : significand (e * 2 ^ 52 + 2 ^ 53) = 2 ^ 52 := by
      simp only [significand, Nat.pow_eq]
      split <;> omega
    have hexp : exponent (e * 2 ^ 52 + 2 ^ 53) = e + 1 := by
      simp only [exponent, Nat.pow_eq]
      omega
    rw [units, hsig, hexp, Nat.pow_eq, Nat.pow_succ]
    omega

theorem units_eq (rank : Nat) : units rank = significand rank * 2 ^ exponent rank := rfl

/-- Neighbours are one unit of the lower one's binade apart. -/
theorem units_succ (rank : Nat) : units (rank + 1) = units rank + 2 ^ exponent rank := by
  have hrank : rank + 1 = exponent rank * 2 ^ 52 + (significand rank + 1) := by
    have := exponent_mul_add_significand rank
    omega
  have hsig := significand_lt rank
  have hlow := le_significand_or rank
  conv_lhs => rw [hrank]
  rw [units_add (by omega) (by omega), units_eq, Nat.succ_mul]

theorem units_lt_succ (rank : Nat) : units rank < units (rank + 1) := by
  rw [units_succ]
  exact Nat.lt_add_of_pos_right (Nat.two_pow_pos _)

theorem units_strictMono : StrictMono units := strictMono_nat_of_lt_succ units_lt_succ

theorem units_zero : units 0 = 0 := by
  rw [units_eq]
  exact Nat.zero_mul _

/-! ## The nearest rank -/

/-- `num / den` units lie between the midpoints to the two neighbours of a rank.  A midpoint counts
for the even of the two ranks beside it. -/
def Nearest (rank num den : Nat) : Prop :=
  if rank % 2 = 0 then
    (units (rank - 1) + units rank) * den ≤ 2 * num ∧
      2 * num ≤ (units rank + units (rank + 1)) * den
  else
    (units (rank - 1) + units rank) * den < 2 * num ∧
      2 * num < (units rank + units (rank + 1)) * den

theorem Nearest.lower {rank num den : Nat} (h : Nearest rank num den) :
    (units (rank - 1) + units rank) * den ≤ 2 * num := by
  rw [Nearest] at h
  split at h <;> omega

theorem Nearest.upper {rank num den : Nat} (h : Nearest rank num den) :
    2 * num ≤ (units rank + units (rank + 1)) * den := by
  rw [Nearest] at h
  split at h <;> omega

/-- On a midpoint the rank is even. -/
theorem nearest_of_le {rank num den : Nat}
    (hlower : (units (rank - 1) + units rank) * den ≤ 2 * num)
    (hupper : 2 * num ≤ (units rank + units (rank + 1)) * den)
    (heven : (units (rank - 1) + units rank) * den = 2 * num ∨
      2 * num = (units rank + units (rank + 1)) * den → rank % 2 = 0) :
    Nearest rank num den := by
  rw [Nearest]
  split <;> omega

theorem roundHalfEven_of_tie (num : Nat) {den : Nat} (hden : 0 < den)
    (h : 2 * num = 2 * (roundHalfEven num den * den) + den ∨
      2 * (roundHalfEven num den * den) = 2 * num + den) : roundHalfEven num den % 2 = 0 := by
  have hdiv := Nat.div_add_mod num den
  have hmod := Nat.mod_lt num hden
  have hcomm : den * (num / den) = num / den * den := Nat.mul_comm _ _
  rw [roundHalfEven] at h ⊢
  by_cases hbelow : 2 * (num % den) < den
  · rw [if_pos hbelow] at h ⊢
    omega
  rw [if_neg hbelow] at h ⊢
  by_cases habove : den < 2 * (num % den)
  · rw [if_pos habove, Nat.add_mul] at h
    omega
  · rw [if_neg habove]
    omega

/-- The place that a quotient is rounded to in the binade of its floor, or in the lowest one. -/
theorem nearestRank_bounds (num : Nat) {den : Nat} (hden : 0 < den) :
    ∃ e s, nearestRank num den = e * 2 ^ 52 + s ∧ s = roundHalfEven num (den * 2 ^ e) ∧
      num < 2 ^ 53 * (den * 2 ^ e) ∧ (2 ^ 52 * (den * 2 ^ e) ≤ num ∨ e = 0) := by
  refine ⟨Nat.log2 (num / den) - 52, _, rfl, rfl, ?_, ?_⟩
  · have hlt : num / den < 2 ^ (Nat.log2 (num / den) + 1) := Nat.lt_log2_self
    have hle : 2 ^ (Nat.log2 (num / den) + 1) ≤ 2 ^ 53 * 2 ^ (Nat.log2 (num / den) - 52) := by
      rw [← Nat.pow_add]
      exact Nat.pow_le_pow_right (by omega) (by omega)
    have hnum : num < num / den * den + den := by
      have := Nat.div_add_mod num den
      have := Nat.mod_lt num hden
      have : den * (num / den) = num / den * den := Nat.mul_comm _ _
      omega
    calc num < (num / den + 1) * den := by rw [Nat.succ_mul]; exact hnum
      _ ≤ 2 ^ 53 * 2 ^ (Nat.log2 (num / den) - 52) * den :=
        Nat.mul_le_mul_right den (Nat.le_trans hlt hle)
      _ = 2 ^ 53 * (den * 2 ^ (Nat.log2 (num / den) - 52)) := by ring
  · by_cases hlow : Nat.log2 (num / den) ≤ 52
    · exact .inr (by omega)
    · left
      have hne : num / den ≠ 0 := by
        intro h0
        rw [h0] at hlow
        exact hlow (by decide)
      have hle : 2 ^ Nat.log2 (num / den) ≤ num / den := Nat.log2_self_le hne
      have hpow : 2 ^ Nat.log2 (num / den) = 2 ^ 52 * 2 ^ (Nat.log2 (num / den) - 52) := by
        rw [← Nat.pow_add]
        congr 1
        omega
      rw [hpow] at hle
      calc 2 ^ 52 * (den * 2 ^ (Nat.log2 (num / den) - 52))
          = 2 ^ 52 * 2 ^ (Nat.log2 (num / den) - 52) * den := by ring
        _ ≤ num / den * den := Nat.mul_le_mul_right den hle
        _ ≤ num := Nat.div_mul_le_self num den

/-! A place that a quotient is rounded to, beside the midpoints to its two neighbours. -/

section

variable {e s num den : Nat}

theorem units_add_mul (hs : s ≤ 2 ^ 53) (hplace : 2 ^ 52 ≤ s ∨ e = 0) (den : Nat) :
    units (e * 2 ^ 52 + s) * den = s * (den * 2 ^ e) := by
  rw [units_add hs hplace]
  ring

/-- A place that a quotient lies at most half a unit above. -/
theorem le_midpoint_of_place (hden : 0 < den) (hs : s ≤ 2 ^ 53) (hplace : 2 ^ 52 ≤ s ∨ e = 0)
    (hhigh : num < 2 ^ 53 * (den * 2 ^ e))
    (hhalf : 2 * num ≤ 2 * (s * (den * 2 ^ e)) + den * 2 ^ e)
    (htie : 2 * num = 2 * (s * (den * 2 ^ e)) + den * 2 ^ e → s % 2 = 0) :
    2 * num ≤ (units (e * 2 ^ 52 + s) + units (e * 2 ^ 52 + s + 1)) * den ∧
      (2 * num = (units (e * 2 ^ 52 + s) + units (e * 2 ^ 52 + s + 1)) * den → s % 2 = 0) := by
  have hat := units_add_mul hs hplace den
  rw [Nat.add_mul, hat]
  rcases Nat.lt_or_eq_of_le hs with hbelow | htop
  · rw [Nat.add_assoc, units_add_mul (by omega) (by omega), Nat.add_mul s]
    exact ⟨by omega, fun h => htie (by omega)⟩
  · have hnext := Nat.mul_lt_mul_of_pos_right (units_lt_succ (e * 2 ^ 52 + s)) hden
    rw [hat] at hnext
    rw [htop] at hnext ⊢
    exact ⟨by omega, fun _ => by decide⟩

/-- A place that a quotient lies at most half a unit below. -/
theorem midpoint_le_of_place (hs : s ≤ 2 ^ 53) (hplace : 2 ^ 52 ≤ s ∨ e = 0)
    (hlow : 2 ^ 52 * (den * 2 ^ e) ≤ num ∨ e = 0)
    (hhalf : 2 * (s * (den * 2 ^ e)) ≤ 2 * num + den * 2 ^ e)
    (htie : 2 * (s * (den * 2 ^ e)) = 2 * num + den * 2 ^ e → s % 2 = 0) :
    (units (e * 2 ^ 52 + s - 1) + units (e * 2 ^ 52 + s)) * den ≤ 2 * num ∧
      ((units (e * 2 ^ 52 + s - 1) + units (e * 2 ^ 52 + s)) * den = 2 * num → s % 2 = 0) := by
  have hat := units_add_mul hs hplace den
  rw [Nat.add_mul, hat]
  rcases Nat.eq_zero_or_pos s with hzero | hpos
  · have he : e = 0 := by omega
    subst hzero he
    rw [show units (0 * 2 ^ 52 + 0 - 1) = 0 from units_zero]
    exact ⟨by omega, fun _ => by decide⟩
  by_cases hlowest : s = 2 ^ 52 ∧ e ≠ 0
  · -- the lower neighbour is in the binade below, where the units are half as large
    have hprev : units (e * 2 ^ 52 + s - 1) * den ≤ s * (den * 2 ^ e) := by
      rw [← hat]
      exact Nat.mul_le_mul_right den (units_strictMono.monotone (Nat.sub_le _ _))
    have hnum : s * (den * 2 ^ e) ≤ num := by
      rw [hlowest.1]
      exact hlow.resolve_right hlowest.2
    exact ⟨by omega, fun _ => by omega⟩
  · have hprev : e * 2 ^ 52 + s - 1 = e * 2 ^ 52 + (s - 1) := by omega
    have hsplit : s * (den * 2 ^ e) = (s - 1) * (den * 2 ^ e) + den * 2 ^ e := by
      rw [← Nat.succ_mul, Nat.succ_eq_add_one, Nat.sub_add_cancel hpos]
    rw [hprev, units_add_mul (by omega) (by omega)]
    exact ⟨by omega, fun h => htie (by omega)⟩

end

/-- Rounding finds the nearest rank. -/
theorem nearest_nearestRank (num : Nat) {den : Nat} (hden : 0 < den) :
    Nearest (nearestRank num den) num den := by
  obtain ⟨e, s, hrank, hs, hhigh, hlow⟩ := nearestRank_bounds num hden
  have hunit : 0 < den * 2 ^ e := Nat.mul_pos hden (Nat.two_pow_pos e)
  have hbelow := two_mul_roundHalfEven_le num (den * 2 ^ e)
  have habove := le_two_mul_roundHalfEven num hunit
  have htie := roundHalfEven_of_tie num hunit
  rw [← hs] at hbelow habove htie
  have hsle : s ≤ 2 ^ 53 := by
    by_contra hlarge
    have := Nat.mul_le_mul_right (den * 2 ^ e) (Nat.lt_of_not_le hlarge)
    omega
  have hplace : 2 ^ 52 ≤ s ∨ e = 0 := by
    refine hlow.imp_left fun hlow => ?_
    by_contra hsmall
    have := Nat.mul_le_mul_right (den * 2 ^ e) (Nat.le_sub_one_of_lt (Nat.lt_of_not_le hsmall))
    omega
  have hlower := midpoint_le_of_place hsle hplace hlow (by omega) fun h => htie (.inr h)
  have hupper := le_midpoint_of_place hden hsle hplace hhigh (by omega) fun h => htie (.inl h)
  have hparity : (e * 2 ^ 52 + s) % 2 = s % 2 := by omega
  rw [hrank]
  refine nearest_of_le hlower.1 hupper.1 fun h => ?_
  rw [hparity]
  exact h.elim hlower.2 hupper.2

/-- Only an even rank takes a midpoint. -/
theorem Nearest.even {rank num den : Nat} (h : Nearest rank num den)
    (heq : (units (rank - 1) + units rank) * den = 2 * num ∨
      2 * num = (units rank + units (rank + 1)) * den) : rank % 2 = 0 := by
  rw [Nearest] at h
  split at h <;> omega

/-- Rounding keeps the order of quotients. -/
theorem Nearest.le {rank rank' num num' den den' : Nat} (h : Nearest rank num den)
    (h' : Nearest rank' num' den') (hden : 0 < den) (hden' : 0 < den')
    (hle : num * den' ≤ num' * den) : rank ≤ rank' := by
  by_contra hlt
  have hbelow : units rank' ≤ units (rank - 1) := units_strictMono.monotone (by omega)
  have habove : units (rank' + 1) ≤ units rank := units_strictMono.monotone (by omega)
  have hlower := Nat.mul_le_mul_right den' h.lower
  have hupper := Nat.mul_le_mul_right den h'.upper
  have hmid := Nat.mul_le_mul_right (den * den') (Nat.add_le_add hbelow habove)
  have hswap : (units rank' + units (rank' + 1)) * den' * den =
      (units rank' + units (rank' + 1)) * (den * den') := by ring
  have hassoc : (units (rank - 1) + units rank) * den * den' =
      (units (rank - 1) + units rank) * (den * den') := Nat.mul_assoc _ _ _
  have hnum : 2 * num * den' = 2 * (num * den') := Nat.mul_assoc _ _ _
  have hnum' : 2 * num' * den = 2 * (num' * den) := Nat.mul_assoc _ _ _
  -- both quotients would be the one midpoint between two neighbours, of which one is odd
  have hties : units rank' + units (rank' + 1) = units (rank - 1) + units rank :=
    Nat.eq_of_mul_eq_mul_right (Nat.mul_pos hden hden') (by omega)
  have hrank : rank' = rank - 1 := units_strictMono.injective (by omega)
  have heven := h.even (.inl (Nat.eq_of_mul_eq_mul_right hden' (by omega)))
  have heven' := h'.even (.inr (Nat.eq_of_mul_eq_mul_right hden (by omega)))
  omega

/-- Equal quotients have one nearest rank. -/
theorem Nearest.unique {rank rank' num num' den den' : Nat} (h : Nearest rank num den)
    (h' : Nearest rank' num' den') (hden : 0 < den) (hden' : 0 < den')
    (heq : num * den' = num' * den) : rank = rank' :=
  Nat.le_antisymm (h.le h' hden hden' heq.le) (h'.le h hden' hden heq.ge)

/-- A quotient rounds to what it is closer to than half the way to either neighbour. -/
theorem nearest_of_close {rank num den error : Nat}
    (hlow : error < (units rank - units (rank - 1)) * den)
    (hhigh : error < (units (rank + 1) - units rank) * den)
    (hbelow : 2 * num ≤ 2 * (units rank * den) + error)
    (habove : 2 * (units rank * den) ≤ 2 * num + error) : Nearest rank num den := by
  rw [Nat.sub_mul] at hlow hhigh
  refine nearest_of_le ?_ ?_ ?_
  · rw [Nat.add_mul]
    omega
  · rw [Nat.add_mul]
    omega
  · rw [Nat.add_mul, Nat.add_mul]
    omega

/-- Every number is its own rounding. -/
theorem nearest_units (rank : Nat) {den : Nat} (hden : 0 < den) :
    Nearest rank (units rank * den) den := by
  have hbelow : units (rank - 1) ≤ units rank := units_strictMono.monotone (Nat.sub_le _ _)
  have hprev := Nat.mul_le_mul_right den hbelow
  have hnext := Nat.mul_lt_mul_of_pos_right (units_lt_succ rank) hden
  refine nearest_of_le ?_ ?_ ?_
  · rw [Nat.add_mul]
    omega
  · rw [Nat.add_mul]
    omega
  · rw [Nat.add_mul, Nat.add_mul]
    rintro (htie | htie)
    · have hsame : units (rank - 1) = units rank := Nat.eq_of_mul_eq_mul_right hden (by omega)
      have hrank := units_strictMono.injective hsame
      omega
    · omega

theorem nearestRank_eq {rank num den : Nat} (h : Nearest rank num den) (hden : 0 < den) :
    nearestRank num den = rank :=
  (nearest_nearestRank num hden).unique h hden hden rfl

/-- A quotient gives the number whose rank is nearest. -/
theorem ofUnits_of_nearest {rank : Fin finiteCount} {num den : Nat} (hden : 0 < den)
    (h : Nearest rank num den) (negative : Bool) :
    ofUnits negative num den = finite negative rank := by
  have hrank := nearestRank_eq h hden
  rw [ofUnits, dif_pos (hrank ▸ rank.isLt)]
  congr 1
  exact Fin.ext hrank

theorem ofUnits_units (negative : Bool) (rank : Fin finiteCount) :
    ofUnits negative (units rank) 1 = finite negative rank := by
  refine ofUnits_of_nearest Nat.one_pos ?_ negative
  have h := nearest_units rank.val Nat.one_pos
  rwa [Nat.mul_one] at h

end Binary64
end CrossCheck
