import CrossCheck.Number.Shortest
import CrossCheck.Proofs.Number.Nearest

/-!
The decimal digits of a binary64 number read back as that number, whatever zeros they are written
with.  Seventeen digits always do: the numbers beside a number are further from it than half a
unit of its seventeenth digit.
-/

namespace CrossCheck

/-! ## Trailing zeros -/

/-- The zeros at the end of a numeral are a power of ten. -/
theorem pow_dvd_ofDigitChars (cs : List Char) :
    10 ^ (cs.reverse.takeWhile (· == '0')).length ∣ Nat.ofDigitChars 10 cs 0 := by
  have hzeros : cs.reverse.takeWhile (· == '0') =
      List.replicate (cs.reverse.takeWhile (· == '0')).length '0' := by
    refine List.eq_replicate_iff.2 ⟨rfl, fun c hc => ?_⟩
    exact eq_of_beq (List.all_eq_true.1 List.all_takeWhile c hc)
  have hsplit : cs = (cs.reverse.dropWhile (· == '0')).reverse ++
      (cs.reverse.takeWhile (· == '0')).reverse := by
    rw [← List.reverse_append, List.takeWhile_append_dropWhile, List.reverse_reverse]
  have hvalue := congrArg (Nat.ofDigitChars 10 · 0) hsplit
  rw [hzeros, List.reverse_replicate, Nat.ofDigitChars_append,
    Nat.ofDigitChars_replicate_zero] at hvalue
  exact ⟨_, hvalue⟩

theorem Scientific.dropZeros_spec (s : Scientific) :
    ∃ z : Nat, s.digits = s.dropZeros.digits * 10 ^ z ∧
      s.dropZeros.exponent = s.exponent + z := by
  rw [Scientific.dropZeros]
  split
  · exact ⟨0, by rw [Nat.pow_zero, Nat.mul_one], by omega⟩
  · have hdvd := pow_dvd_ofDigitChars s.digitText
    rw [Scientific.digitText, Nat.ofDigitChars_ten_toDigits] at hdvd
    exact ⟨_, (Nat.div_mul_cancel hdvd).symm, rfl⟩

namespace Binary64

theorem unitsPerOne_pos : 0 < unitsPerOne := by decide +kernel

theorem unitsPerOne_le : unitsPerOne ≤ 10 ^ lowestPower := by decide +kernel

/-! ## Decimals that round to a rank -/

/-- The decimal `coefficient * 10 ^ exponent` rounds to a rank. -/
def NearestDecimal (rank coefficient : Nat) (exponent : Int) : Prop :=
  Nearest rank (coefficient * 10 ^ exponent.toNat * unitsPerOne) (10 ^ (-exponent).toNat)

theorem nearestDecimal_of_readsBackAs {rank d : Nat} {p : Int} (h : readsBackAs rank d p = true) :
    NearestDecimal rank d p := by
  rw [NearestDecimal, Nearest]
  simp only [readsBackAs, Nat.pow_eq] at h
  by_cases hp : p < 0
  · have hpos : p.toNat = 0 := by omega
    have hneg : (-p).toNat = p.natAbs := by omega
    rw [hpos, hneg, Nat.pow_zero, Nat.mul_one, ← Nat.mul_assoc]
    simpa only [if_pos hp, Bool.and_eq_true, decide_eq_true_eq, apply_ite (· = true)] using h
  · have hpos : p.toNat = p.natAbs := by omega
    have hneg : (-p).toNat = 0 := by omega
    rw [hpos, hneg, Nat.pow_zero, ← Nat.mul_assoc, ← Nat.mul_assoc]
    simpa only [if_neg hp, Bool.and_eq_true, decide_eq_true_eq, apply_ite (· = true)] using h

theorem nearestDecimal_of_atPrecision? {rank : Nat} {p : Int} {s : Scientific}
    (h : atPrecision? rank p = some s) : NearestDecimal rank s.digits s.exponent := by
  have hread (d : Nat) (hd : readsBackAs rank d p = true) (hs : some ⟨d, p⟩ = some s) :
      NearestDecimal rank s.digits s.exponent := by
    rw [← Option.some.inj hs]
    exact nearestDecimal_of_readsBackAs hd
  rw [atPrecision?] at h
  dsimp only at h
  by_cases hnear : readsBackAs rank (roundHalfEven (ratioAt (units rank) p).1
      (ratioAt (units rank) p).2) p = true
  · rw [if_pos hnear] at h
    exact hread _ hnear h
  · rw [if_neg hnear, Option.ite_none_right_eq_some] at h
    exact hread _ h.1 h.2

/-- Equal decimals round alike. -/
theorem NearestDecimal.congr {rank c c' : Nat} {e e' : Int} (h : NearestDecimal rank c e)
    (heq : c * 10 ^ e.toNat * 10 ^ (-e').toNat = c' * 10 ^ e'.toNat * 10 ^ (-e).toNat) :
    NearestDecimal rank c' e' := by
  have hnearest := nearest_nearestRank (c' * 10 ^ e'.toNat * unitsPerOne)
    (Nat.pow_pos (n := (-e').toNat) (by decide : 0 < 10))
  have hrank := h.unique hnearest (Nat.pow_pos (by decide)) (Nat.pow_pos (by decide)) (by
    rw [Nat.mul_right_comm, heq, Nat.mul_right_comm])
  rw [NearestDecimal, hrank]
  exact hnearest

/-- Zeros at the end of the digits may be taken to the exponent. -/
theorem NearestDecimal.shift {rank c z : Nat} {e : Int}  :
    NearestDecimal rank (c * 10 ^ z) e ↔ NearestDecimal rank c (e + z) := by
  have hpow : 10 ^ z * 10 ^ e.toNat * 10 ^ (-(e + z)).toNat =
      10 ^ (e + z).toNat * 10 ^ (-e).toNat := by
    rw [← Nat.pow_add, ← Nat.pow_add, ← Nat.pow_add]
    congr 1
    omega
  have heq : c * 10 ^ z * 10 ^ e.toNat * 10 ^ (-(e + z)).toNat =
      c * 10 ^ (e + z).toNat * 10 ^ (-e).toNat := by
    rw [Nat.mul_assoc c, Nat.mul_assoc c, hpow, Nat.mul_assoc]
  exact ⟨fun h => h.congr heq, fun h => h.congr heq.symm⟩

theorem NearestDecimal.dropZeros {rank : Nat} {s : Scientific}
    (h : NearestDecimal rank s.digits s.exponent) :
    NearestDecimal rank s.dropZeros.digits s.dropZeros.exponent := by
  obtain ⟨z, hdigits, hexponent⟩ := s.dropZeros_spec
  rw [hexponent, ← NearestDecimal.shift, ← hdigits]
  exact h

/-! ## Seventeen digits -/

/-- Beside a number there is none within `2 ^ -53` of it. -/
theorem units_le_gap {rank : Nat} (hpos : 0 < rank) :
    units rank ≤ 2 ^ 53 * (units rank - units (rank - 1)) ∧
      units rank ≤ 2 ^ 53 * (units (rank + 1) - units rank) := by
  have hsig := significand_lt rank
  have hunits : units rank ≤ 2 ^ 53 * 2 ^ exponent rank := by
    rw [units_eq]
    exact Nat.mul_le_mul_right _ hsig.le
  constructor
  · have hprev := units_succ (rank - 1)
    rw [Nat.sub_add_cancel hpos] at hprev
    rw [hprev, Nat.add_sub_cancel_left, ← hprev]
    by_cases hlowest : exponent (rank - 1) = exponent rank
    · rw [hlowest]
      exact hunits
    · -- a power of two: the lower neighbour is in the binade below
      have hexp : exponent rank = exponent (rank - 1) + 1 := by
        simp only [exponent, Nat.pow_eq] at hlowest ⊢
        omega
      have hfirst : significand rank = 2 ^ 52 := by
        simp only [significand, exponent, Nat.pow_eq] at hlowest ⊢
        split <;> omega
      rw [units_eq, hfirst, hexp, Nat.pow_succ]
      omega
  · rw [units_succ, Nat.add_sub_cancel_left]
    exact hunits

theorem pow_length_toDigits_le {n : Nat} (hn : 0 < n) :
    10 ^ ((Nat.toDigits 10 n).length - 1) ≤ n := by
  by_contra hlt
  rcases Nat.eq_zero_or_pos ((Nat.toDigits 10 n).length - 1) with h0 | hpos
  · rw [h0] at hlt
    omega
  · have hlen := (Nat.length_toDigits_le_iff (by decide) hpos).2 (Nat.lt_of_not_le hlt)
    omega

theorem units_pos {rank : Nat} (hpos : 0 < rank) : 0 < units rank :=
  units_zero ▸ units_strictMono hpos

theorem decimalMagnitude_le {rank : Nat} (hpos : 0 < rank) :
    10 ^ (decimalMagnitude rank).toNat * unitsPerOne ≤
      units rank * 10 ^ (-decimalMagnitude rank).toNat := by
  obtain ⟨len, hlen, hmagnitude, hfirst⟩ : ∃ len : Nat, 0 < len ∧
      decimalMagnitude rank = len - (lowestPower + 1) ∧
      10 ^ (len - 1) * unitsPerOne ≤ units rank * 10 ^ lowestPower := by
    refine ⟨_, Nat.length_toDigits_pos, rfl, Nat.mul_le_of_le_div _ _ _ ?_⟩
    refine pow_length_toDigits_le (Nat.div_pos ?_ unitsPerOne_pos)
    exact Nat.le_trans unitsPerOne_le (Nat.le_mul_of_pos_left _ (units_pos hpos))
  have hexp : len - 1 + (-decimalMagnitude rank).toNat =
      (decimalMagnitude rank).toNat + lowestPower := by omega
  have hpow : 10 ^ (len - 1) * 10 ^ (-decimalMagnitude rank).toNat =
      10 ^ (decimalMagnitude rank).toNat * 10 ^ lowestPower := by
    rw [← Nat.pow_add, ← Nat.pow_add, hexp]
  refine Nat.le_of_mul_le_mul_right (c := 10 ^ lowestPower) ?_ (Nat.pow_pos (by decide))
  calc 10 ^ (decimalMagnitude rank).toNat * unitsPerOne * 10 ^ lowestPower
      = 10 ^ (len - 1) * unitsPerOne * 10 ^ (-decimalMagnitude rank).toNat := by
        rw [Nat.mul_right_comm, ← hpow, Nat.mul_right_comm]
    _ ≤ units rank * 10 ^ lowestPower * 10 ^ (-decimalMagnitude rank).toNat :=
        Nat.mul_le_mul_right _ hfirst
    _ = units rank * 10 ^ (-decimalMagnitude rank).toNat * 10 ^ lowestPower :=
        Nat.mul_right_comm _ _ _

theorem roundedAt_eq (rank : Nat) (p : Int) :
    roundedAt rank p =
      ⟨roundHalfEven (units rank * 10 ^ (-p).toNat) (unitsPerOne * 10 ^ p.toNat), p⟩ := by
  rw [roundedAt, ratioAt]
  by_cases hp : p < 0
  · rw [if_pos hp, show p.toNat = 0 by omega, show (-p).toNat = p.natAbs by omega, Nat.pow_zero,
      Nat.mul_one]
    rfl
  · rw [if_neg hp, show p.toNat = p.natAbs by omega, show (-p).toNat = 0 by omega, Nat.pow_zero,
      Nat.mul_one]
    rfl

/-- A unit of the seventeenth digit is less than the distance to either neighbour. -/
theorem seventeenth_lt {rank : Nat} (hpos : 0 < rank) {p : Int}
    (hp : p = decimalMagnitude rank - 16) {gap : Nat} (hgap : units rank ≤ 2 ^ 53 * gap) :
    unitsPerOne * 10 ^ p.toNat < gap * 10 ^ (-p).toNat := by
  -- the powers are atoms to linear arithmetic only while nothing else is in sight
  have hlt {a b c : Nat} (ha : 0 < a) (hab : a * 10 ^ 16 ≤ b) (hbc : b ≤ 2 ^ 53 * c) : a < c := by
    omega
  have hexp : p.toNat + 16 + (-decimalMagnitude rank).toNat =
      (decimalMagnitude rank).toNat + (-p).toNat := by omega
  have hpow : 10 ^ p.toNat * 10 ^ 16 * 10 ^ (-decimalMagnitude rank).toNat =
      10 ^ (decimalMagnitude rank).toNat * 10 ^ (-p).toNat := by
    rw [← Nat.pow_add, ← Nat.pow_add, ← Nat.pow_add, hexp]
  refine hlt (b := units rank * 10 ^ (-p).toNat) ?_ ?_ ?_
  · exact Nat.mul_pos unitsPerOne_pos (Nat.pow_pos (by decide))
  · refine Nat.le_of_mul_le_mul_right (c := 10 ^ (-decimalMagnitude rank).toNat) ?_
      (Nat.pow_pos (by decide))
    calc unitsPerOne * 10 ^ p.toNat * 10 ^ 16 * 10 ^ (-decimalMagnitude rank).toNat
        = 10 ^ (decimalMagnitude rank).toNat * unitsPerOne * 10 ^ (-p).toNat := by
          rw [Nat.mul_assoc unitsPerOne, Nat.mul_assoc unitsPerOne, hpow, ← Nat.mul_assoc,
            Nat.mul_comm unitsPerOne]
      _ ≤ units rank * 10 ^ (-decimalMagnitude rank).toNat * 10 ^ (-p).toNat :=
          Nat.mul_le_mul_right _ (decimalMagnitude_le hpos)
      _ = units rank * 10 ^ (-p).toNat * 10 ^ (-decimalMagnitude rank).toNat :=
          Nat.mul_right_comm _ _ _
  · rw [← Nat.mul_assoc]
    exact Nat.mul_le_mul_right _ hgap

/-- Seventeen digits read back. -/
theorem nearestDecimal_seventeen {rank : Nat} (hpos : 0 < rank) {p : Int}
    (hp : p = decimalMagnitude rank - 16) :
    NearestDecimal rank (roundedAt rank p).digits (roundedAt rank p).exponent := by
  rw [roundedAt_eq]
  obtain ⟨hprev, hnext⟩ := units_le_gap hpos
  have hlow := seventeenth_lt hpos hp hprev
  have hhigh := seventeenth_lt hpos hp hnext
  have hone : 0 < unitsPerOne * 10 ^ p.toNat :=
    Nat.mul_pos unitsPerOne_pos (Nat.pow_pos (by decide))
  have hbelow := two_mul_roundHalfEven_le (units rank * 10 ^ (-p).toNat) (unitsPerOne * 10 ^ p.toNat)
  have habove := le_two_mul_roundHalfEven (units rank * 10 ^ (-p).toNat) hone
  rw [NearestDecimal, Nat.mul_assoc, Nat.mul_comm (10 ^ p.toNat)]
  exact nearest_of_close hlow hhigh hbelow habove

/-- The digits chosen for a number read back. -/
theorem nearestDecimal_shortest {rank : Nat} (hpos : 0 < rank) :
    NearestDecimal rank (shortest rank).digits (shortest rank).exponent := by
  rw [shortest]
  generalize hfound : (List.range 17).findSome? _ = found
  cases found with
  | none =>
    rw [Option.getD_none]
    exact (nearestDecimal_seventeen hpos rfl).dropZeros
  | some s =>
    obtain ⟨n, -, hn⟩ := List.exists_of_findSome?_eq_some hfound
    rw [Option.getD_some]
    exact (nearestDecimal_of_atPrecision? hn).dropZeros

/-! ## Reading -/

theorem NearestDecimal.le_double {rank c : Nat} {e : Int} (h : NearestDecimal rank c e)
    (hpos : 0 < rank) : 10 ^ (-e).toNat ≤ c * 10 ^ e.toNat * (2 * unitsPerOne) := by
  calc 10 ^ (-e).toNat ≤ units rank * 10 ^ (-e).toNat := Nat.le_mul_of_pos_left _ (units_pos hpos)
    _ ≤ (units (rank - 1) + units rank) * 10 ^ (-e).toNat :=
        Nat.mul_le_mul_right _ (Nat.le_add_left _ _)
    _ ≤ 2 * (c * 10 ^ e.toNat * unitsPerOne) := h.lower
    _ = c * 10 ^ e.toNat * (2 * unitsPerOne) := Nat.mul_left_comm _ _ _

theorem NearestDecimal.coefficient_pos {rank c : Nat} {e : Int} (h : NearestDecimal rank c e)
    (hpos : 0 < rank) : 0 < c := by
  have hle := h.le_double hpos
  rcases Nat.eq_zero_or_pos c with rfl | hc
  · rw [Nat.zero_mul, Nat.zero_mul] at hle
    exact absurd hle (Nat.not_le_of_lt (Nat.pow_pos (by decide)))
  · exact hc

theorem units_finiteCount_lt : units finiteCount < 10 ^ farPower * unitsPerOne := by
  decide +kernel

theorem double_unitsPerOne_le : 2 * unitsPerOne ≤ 10 ^ farPower := by decide +kernel

/-- A decimal above every finite number rounds to none. -/
theorem NearestDecimal.exponent_le {rank : Fin finiteCount} {c : Nat} {e : Int}
    (h : NearestDecimal rank c e) (hpos : 0 < rank.val) : e ≤ farPower := by
  by_contra hlarge
  have hexp : farPower ≤ e.toNat ∧ (-e).toNat = 0 := by omega
  have hupper := h.upper
  rw [hexp.2, Nat.pow_zero, Nat.mul_one] at hupper
  have hunits : units rank ≤ units finiteCount := units_strictMono.monotone rank.isLt.le
  have hnext : units (rank + 1) ≤ units finiteCount := units_strictMono.monotone rank.isLt
  have hle : c * 10 ^ e.toNat * unitsPerOne ≤ units finiteCount := by omega
  refine absurd hle (Nat.not_le_of_lt ?_)
  calc units finiteCount < 10 ^ farPower * unitsPerOne := units_finiteCount_lt
    _ ≤ 10 ^ e.toNat * unitsPerOne :=
        Nat.mul_le_mul_right _ (Nat.pow_le_pow_right (by decide) hexp.1)
    _ ≤ c * 10 ^ e.toNat * unitsPerOne :=
        Nat.mul_le_mul_right _ (Nat.le_mul_of_pos_left _ (h.coefficient_pos hpos))

/-- A decimal below every finite number rounds to zero. -/
theorem NearestDecimal.le_log2_add {rank c : Nat} {e : Int} (h : NearestDecimal rank c e)
    (hpos : 0 < rank) : -farPower ≤ (Nat.log2 c / 3 : Int) + e := by
  by_contra hsmall
  obtain ⟨k, hk, hneg, hzero⟩ :
      ∃ k, Nat.log2 c + 1 ≤ 3 * k ∧ (-e).toNat = k + farPower ∧ e.toNat = 0 :=
    ⟨(-e).toNat - farPower, by omega, by omega, by omega⟩
  have hc : c < 10 ^ k := by
    calc c < 2 ^ (Nat.log2 c + 1) := Nat.lt_log2_self
      _ ≤ 2 ^ (3 * k) := Nat.pow_le_pow_right (by decide) hk
      _ = 8 ^ k := Nat.pow_mul 2 3 k
      _ ≤ 10 ^ k := Nat.pow_le_pow_left (by decide) k
  have hle := h.le_double hpos
  rw [hneg, hzero, Nat.pow_zero, Nat.mul_one, Nat.pow_add] at hle
  refine absurd hle (Nat.not_le_of_lt ?_)
  exact Nat.mul_lt_mul_of_lt_of_le hc double_unitsPerOne_le (Nat.pow_pos (by decide))

/-- A decimal that rounds to a finite number is neither too large nor too small to be computed. -/
theorem ofDecimal_of_nearestDecimal {rank : Fin finiteCount} (hpos : 0 < rank.val) {c : Nat}
    {e : Int} (h : NearestDecimal rank c e) (negative : Bool) :
    ofDecimal negative c e = finite negative rank := by
  have hc : c ≠ 0 := (h.coefficient_pos hpos).ne'
  have hlarge : ¬(farPower : Int) < e := Int.not_lt.2 (h.exponent_le hpos)
  have hsmall : ¬(Nat.log2 c / 3 : Int) + e < -(farPower : Int) := Int.not_lt.2 (h.le_log2_add hpos)
  rw [NearestDecimal] at h
  rw [ofDecimal, if_neg hc, if_neg hlarge, if_neg hsmall]
  by_cases he : e < 0
  · have hnat : e.toNat = 0 := by omega
    have hneg : (-e).toNat = e.natAbs := by omega
    rw [hnat, hneg, Nat.pow_zero, Nat.mul_one] at h
    rw [if_pos he]
    exact ofUnits_of_nearest (Nat.pow_pos (by decide)) h negative
  · have hnat : e.toNat = e.natAbs := by omega
    have hneg : (-e).toNat = 0 := by omega
    rw [hnat, hneg, Nat.pow_zero] at h
    rw [if_neg he]
    exact ofUnits_of_nearest Nat.one_pos h negative

end Binary64
end CrossCheck
