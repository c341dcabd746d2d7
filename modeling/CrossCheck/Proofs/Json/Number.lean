import CrossCheck.Json.Reader
import CrossCheck.Json.Writer
import CrossCheck.Proofs.Number.Shortest
import Mathlib.Data.List.TakeWhile

/-!
A number reads back from its JSON form.  A whole number is its digits.  Any other number stands in
one of three layouts, which spell the chosen digits with zeros before or behind them, and the
digits round to the number however many zeros are counted among them.
-/

namespace CrossCheck

/-! ## Digits -/

theorem natText_ne_nil (n : Nat) : natText n ≠ [] := Nat.toDigits_ne_nil

theorem head?_natText {n : Nat} (hn : 0 < n) : (natText n).head? ≠ some '0' := by
  induction n using Nat.strong_induction_on with
  | _ n ih =>
    rw [natText, Nat.toDigits_eq_if (by decide)]
    by_cases hsmall : n < 10
    · have hfirst : ∀ k < 10, 0 < k → Nat.digitChar k ≠ '0' := by decide
      rw [if_pos hsmall, List.head?_cons]
      exact fun h => hfirst n hsmall hn (Option.some.inj h)
    · rw [if_neg hsmall, List.head?_append, Option.or_of_isSome]
      · exact ih (n / 10) (by omega) (by omega)
      · exact List.isSome_head?.2 Nat.toDigits_ne_nil

namespace Json

open Text

theorem isDigit_of_mem_natText {n : Nat} {c : Char} (hc : c ∈ natText n) : isDigit c = true := by
  have h := Nat.isDigit_of_mem_toDigits (by decide) (by decide) hc
  simpa [Char.isDigit, isDigit, Char.le_def] using h

theorem natOfDigits_eq (ds : List Char) : natOfDigits ds = Nat.ofDigitChars 10 ds 0 := by
  rw [natOfDigits, Nat.ofDigitChars_eq_foldl]
  congr 1
  funext n c
  rw [Nat.mul_comm]
  rfl

theorem natOfDigits_natText (n : Nat) : natOfDigits (natText n) = n := by
  rw [natOfDigits_eq, natText, Nat.ofDigitChars_ten_toDigits]

theorem natOfDigits_zeros_append (k : Nat) (ds : List Char) :
    natOfDigits (List.replicate k '0' ++ ds) = natOfDigits ds := by
  rw [natOfDigits_eq, natOfDigits_eq, Nat.ofDigitChars_append, Nat.ofDigitChars_replicate_zero,
    Nat.mul_zero]

theorem natOfDigits_append_zeros (ds : List Char) (k : Nat) :
    natOfDigits (ds ++ List.replicate k '0') = natOfDigits ds * 10 ^ k := by
  rw [natOfDigits_eq, natOfDigits_eq, Nat.ofDigitChars_append, Nat.ofDigitChars_replicate_zero,
    Nat.mul_comm]

/-! ## The parts of a number -/

/-- Nothing of a number can follow here. -/
def EndsNumber (rest : List Char) : Prop :=
  ∀ c ∈ rest.head?, isDigit c = false ∧ c ≠ '.' ∧ c ≠ 'e' ∧ c ≠ 'E'

theorem span_isDigit {ds rest : List Char} (hds : ∀ c ∈ ds, isDigit c = true)
    (hrest : ∀ c ∈ rest.head?, isDigit c = false) : span isDigit (ds ++ rest) = (ds, rest) := by
  have hnone : rest.takeWhile isDigit = [] ∧ rest.dropWhile isDigit = rest := by
    cases rest with
    | nil => exact ⟨rfl, rfl⟩
    | cons c rest =>
      have hc := hrest c rfl
      rw [List.takeWhile_cons_of_neg (by simp [hc]), List.dropWhile_cons_of_neg (by simp [hc])]
      exact ⟨rfl, rfl⟩
  rw [span, List.takeWhile_append_of_pos hds, List.dropWhile_append_of_pos hds, hnone.1, hnone.2,
    List.append_nil]

theorem fraction?_digits {ds rest : List Char} (hds : ∀ c ∈ ds, isDigit c = true) (hne : ds ≠ [])
    (hrest : ∀ c ∈ rest.head?, isDigit c = false) :
    fraction? ('.' :: ds ++ rest) = some (ds, rest) := by
  rw [List.cons_append, fraction?, span_isDigit hds hrest]
  simp [hne]

theorem fraction?_none {cs : List Char} (hcs : ∀ c ∈ cs.head?, c ≠ '.') :
    fraction? cs = some ([], cs) := by
  rw [fraction?]
  rintro rest rfl
  exact hcs '.' rfl rfl

theorem exponent?_none {rest : List Char} (hrest : EndsNumber rest) :
    exponent? rest = some (none, rest) := by
  cases rest with
  | nil => rfl
  | cons c rest =>
    have hc := hrest c rfl
    rw [exponent?, if_neg (by simp [hc.2.2.1, hc.2.2.2])]

theorem exponent?_exponentText (e : Int) {rest : List Char} (hrest : EndsNumber rest) :
    exponent? (FloatNotation.storedJson.exponentText e ++ rest) = some (some e, rest) := by
  obtain ⟨k, htext⟩ : ∃ k, FloatNotation.storedJson.exponentText e ++ rest =
      'e' :: (if e < 0 then '-' else '+') :: ((List.replicate k '0' ++ natText e.natAbs) ++ rest) := by
    refine ⟨2 - (natText e.natAbs).length, ?_⟩
    rw [FloatNotation.exponentText]
    split <;> simp [FloatNotation.storedJson, FloatNotation.standard]
  have hsign : Reading.takeSign ((if e < 0 then '-' else '+') ::
      ((List.replicate k '0' ++ natText e.natAbs) ++ rest)) =
      (decide (e < 0), (List.replicate k '0' ++ natText e.natAbs) ++ rest) := by
    split <;> simp [Reading.takeSign, *]
  have hdigits : ∀ c ∈ List.replicate k '0' ++ natText e.natAbs, isDigit c = true := by
    intro c hc
    rcases List.mem_append.1 hc with hzero | hdigit
    · rw [List.eq_of_mem_replicate hzero]
      decide
    · exact isDigit_of_mem_natText hdigit
  have hvalue : Reading.signed (decide (e < 0)) e.natAbs = e := by
    by_cases he : e < 0
    · rw [decide_eq_true he, Reading.signed, if_pos rfl]
      omega
    · rw [decide_eq_false he, Reading.signed, if_neg (by decide)]
      omega
  rw [htext, exponent?, if_pos (by decide), hsign]
  simp only [span_isDigit hdigits fun c hc => (hrest c hc).1]
  rw [if_neg (by simp [natText_ne_nil]), natOfDigits_zeros_append, natOfDigits_natText, hvalue]

/-! ## Magnitudes -/

/-- Digits that a number may begin with. -/
structure IsWholePart (ds : List Char) : Prop where
  digits : ∀ c ∈ ds, isDigit c = true
  nonempty : ds ≠ []
  noLeadingZero : ds.head? = some '0' → ds.length = 1
  fits : ds.length ≤ longestWhole

theorem magnitude?_eq {ds afterWhole fraction afterFraction rest : List Char}
    {exponent : Option Int} (hds : IsWholePart ds)
    (hafter : ∀ c ∈ afterWhole.head?, isDigit c = false)
    (hfraction : fraction? afterWhole = some (fraction, afterFraction))
    (hexponent : exponent? afterFraction = some (exponent, rest)) (negative : Bool) :
    magnitude? negative (ds ++ afterWhole) =
      if fraction.isEmpty && exponent.isNone then
        some (.int (Reading.signed negative (natOfDigits ds)), rest)
      else
        some (.float (.ofDecimal negative (natOfDigits (ds ++ fraction))
          (exponent.getD 0 - fraction.length)), rest) := by
  have hlead : (ds.isEmpty || (ds.head? = some '0' && ds.length ≠ 1)) = false := by
    have hne := hds.nonempty
    have hzero := hds.noLeadingZero
    simp only [List.isEmpty_eq_false_iff.2 hne, Bool.false_or, Bool.and_eq_false_iff,
      decide_eq_false_iff_not]
    by_cases h : ds.head? = some '0'
    · exact .inr (by simpa using hzero h)
    · exact .inl h
  rw [magnitude?, span_isDigit hds.digits hafter]
  simp only [hlead, Nat.not_lt.2 hds.fits, hfraction, hexponent, if_false, Option.bind_eq_bind,
    Option.bind_some, Option.pure_def, Bool.false_eq_true]

theorem magnitude?_whole {ds rest : List Char} (hds : IsWholePart ds) (hrest : EndsNumber rest)
    (negative : Bool) :
    magnitude? negative (ds ++ rest) =
      some (.int (Reading.signed negative (natOfDigits ds)), rest) := by
  rw [magnitude?_eq hds (fun c hc => (hrest c hc).1) (fraction?_none fun c hc => (hrest c hc).2.1)
    (exponent?_none hrest)]
  rfl

theorem magnitude?_pointed {ds fraction rest : List Char} (hds : IsWholePart ds)
    (hfraction : ∀ c ∈ fraction, isDigit c = true) (hne : fraction ≠ []) (hrest : EndsNumber rest)
    (negative : Bool) :
    magnitude? negative (ds ++ ('.' :: fraction ++ rest)) =
      some (.float (.ofDecimal negative (natOfDigits (ds ++ fraction)) (-fraction.length)), rest) := by
  rw [magnitude?_eq hds (by rintro c ⟨⟩; decide)
    (fraction?_digits hfraction hne fun c hc => (hrest c hc).1) (exponent?_none hrest),
    if_neg (by simp [hne]), Option.getD_none, Int.zero_sub]

theorem isWholePart_singleton {d : Char} (hd : isDigit d = true) : IsWholePart [d] where
  digits := by simpa using hd
  nonempty := by simp
  noLeadingZero := fun _ => rfl
  fits := show 1 ≤ 4300 by decide

theorem magnitude?_scientific {d : Char} {fraction rest : List Char} (hd : isDigit d = true)
    (hfraction : ∀ c ∈ fraction, isDigit c = true) (e : Int) (hrest : EndsNumber rest)
    (negative : Bool) :
    magnitude? negative ([d] ++ ((if fraction.isEmpty then [] else '.' :: fraction) ++
        (FloatNotation.storedJson.exponentText e ++ rest))) =
      some (.float (.ofDecimal negative (natOfDigits (d :: fraction)) (e - fraction.length)),
        rest) := by
  have hexponent := exponent?_exponentText e hrest
  obtain ⟨cs, hcs⟩ : ∃ cs, FloatNotation.storedJson.exponentText e ++ rest = 'e' :: cs := ⟨_, rfl⟩
  rw [hcs] at hexponent ⊢
  have hread : fraction? ((if fraction.isEmpty then [] else '.' :: fraction) ++ 'e' :: cs) =
      some (fraction, 'e' :: cs) := by
    by_cases hempty : fraction = []
    · subst hempty
      exact fraction?_none (by rintro c ⟨⟩; decide)
    · rw [if_neg (by simp [hempty])]
      exact fraction?_digits hfraction hempty (by rintro c ⟨⟩; decide)
  have hafter : ∀ c ∈ ((if fraction.isEmpty then [] else '.' :: fraction) ++ 'e' :: cs).head?,
      isDigit c = false := by
    split <;> rintro c ⟨⟩ <;> decide
  rw [magnitude?_eq (isWholePart_singleton hd) hafter hread hexponent, if_neg (by simp)]
  rfl

/-! ## Whole numbers -/

theorem isWholePart_natText {n : Nat} (hn : (natText n).length ≤ longestWhole) :
    IsWholePart (natText n) where
  digits := fun _ => isDigit_of_mem_natText
  nonempty := natText_ne_nil n
  noLeadingZero := by
    intro hzero
    rcases Nat.eq_zero_or_pos n with rfl | hpos
    · rfl
    · exact absurd hzero (head?_natText hpos)
  fits := hn

theorem magnitude?_natText {n : Nat} (hn : (natText n).length ≤ longestWhole) {rest : List Char}
    (hrest : EndsNumber rest) (negative : Bool) :
    magnitude? negative (natText n ++ rest) = some (.int (Reading.signed negative n), rest) := by
  rw [magnitude?_whole (isWholePart_natText hn) hrest, natOfDigits_natText]

/-! ## Binary numbers -/

theorem isDigit_of_mem_zeros {k : Nat} {c : Char} (hc : c ∈ List.replicate k '0') :
    isDigit c = true := by
  rw [List.eq_of_mem_replicate hc]
  decide

/-- Zeros before the digits, behind the point. -/
theorem magnitude?_zeros_digits (k : Nat) {ds rest : List Char}
    (hds : ∀ c ∈ ds, isDigit c = true) (hne : ds ≠ []) (hrest : EndsNumber rest)
    (negative : Bool) :
    magnitude? negative (['0', '.'] ++ List.replicate k '0' ++ ds ++ rest) =
      some (.float (.ofDecimal negative (natOfDigits ds) (-(k + ds.length : Nat))), rest) := by
  have hfraction : ∀ c ∈ List.replicate k '0' ++ ds, isDigit c = true := fun c hc =>
    (List.mem_append.1 hc).elim isDigit_of_mem_zeros (hds c)
  have hzeros : natOfDigits (['0'] ++ (List.replicate k '0' ++ ds)) = natOfDigits ds :=
    natOfDigits_zeros_append (k + 1) ds
  have h := magnitude?_pointed (isWholePart_singleton (d := '0') (by decide)) hfraction
    (by simp [hne]) hrest negative
  rw [hzeros, List.length_append, List.length_replicate] at h
  rw [← h, List.append_assoc, List.append_assoc]
  simp only [List.cons_append, List.nil_append, List.append_assoc]

/-- Zeros after the digits, before a point that only says that the number is not whole. -/
theorem magnitude?_digits_zeros (k : Nat) {ds rest : List Char} (hds : IsWholePart ds)
    (hlead : ds.head? ≠ some '0') (hfits : ds.length + k ≤ longestWhole) (hrest : EndsNumber rest)
    (negative : Bool) :
    magnitude? negative (ds ++ List.replicate k '0' ++ ['.', '0'] ++ rest) =
      some (.float (.ofDecimal negative (natOfDigits ds * 10 ^ (k + 1)) (-1)), rest) := by
  have hwhole : IsWholePart (ds ++ List.replicate k '0') := by
    refine ⟨fun c hc => ?_, by simp [hds.nonempty], fun hzero => absurd ?_ hlead, ?_⟩
    · exact (List.mem_append.1 hc).elim (hds.digits c) isDigit_of_mem_zeros
    · rw [← hzero, List.head?_append, Option.or_of_isSome (List.isSome_head?.2 hds.nonempty)]
    · rw [List.length_append, List.length_replicate]
      exact hfits
  have hdigits : natOfDigits (ds ++ List.replicate k '0' ++ ['0']) =
      natOfDigits ds * 10 ^ (k + 1) := by
    rw [List.append_assoc, ← List.replicate_succ', natOfDigits_append_zeros]
  have h := magnitude?_pointed hwhole (List.forall_mem_singleton.2 rfl) (List.cons_ne_nil '0' [])
    hrest negative
  rw [hdigits] at h
  rw [List.append_assoc _ ['.', '0']]
  exact h

/-- A point between the digits. -/
theorem magnitude?_parted {ds rest : List Char} (hds : ∀ c ∈ ds, isDigit c = true)
    (hlead : ds.head? ≠ some '0') {whole : Nat} (hpos : 0 < whole) (hmany : whole < ds.length)
    (hfits : whole ≤ longestWhole) (hrest : EndsNumber rest) (negative : Bool) :
    magnitude? negative (ds.take whole ++ '.' :: ds.drop whole ++ rest) =
      some (.float (.ofDecimal negative (natOfDigits ds) (-(ds.length - whole : Nat))), rest) := by
  have hhead : (ds.take whole).head? = ds.head? := by rw [List.head?_take, if_neg (by omega)]
  have hwhole : IsWholePart (ds.take whole) := by
    refine ⟨fun c hc => hds c (List.mem_of_mem_take hc), fun hnil => ?_,
      fun hzero => absurd (hhead.symm.trans hzero) hlead, ?_⟩
    · have hlength := congrArg List.length hnil
      rw [List.length_take, List.length_nil] at hlength
      omega
    · rw [List.length_take]
      omega
  have hfraction : ds.drop whole ≠ [] := fun hnil => by
    have hlength := congrArg List.length hnil
    rw [List.length_drop, List.length_nil] at hlength
    omega
  have h := magnitude?_pointed hwhole (fun c hc => hds c (List.mem_of_mem_drop hc)) hfraction hrest
    negative
  rw [List.take_append_drop, List.length_drop] at h
  rw [List.append_assoc]
  exact h

/-- The chosen digits of a number are read as the number in each of the layouts. -/
theorem magnitude?_scientificText {s : Scientific} {rank : Fin Binary64.finiteCount}
    (hpos : 0 < rank.val) (hs : Binary64.NearestDecimal rank s.digits s.exponent)
    {rest : List Char} (hrest : EndsNumber rest) (negative : Bool) :
    magnitude? negative (FloatNotation.storedJson.scientificText s ++ rest) =
      some (.float (.finite negative rank), rest) := by
  have hdigits := hs.coefficient_pos hpos
  have hmem : ∀ c ∈ s.digitText, isDigit c = true := fun _ => isDigit_of_mem_natText
  have hlead : s.digitText.head? ≠ some '0' := head?_natText hdigits
  have hne : s.digitText ≠ [] := natText_ne_nil _
  have hvalue : natOfDigits s.digitText = s.digits := natOfDigits_natText _
  have hread := Binary64.ofDecimal_of_nearestDecimal hpos hs negative
  have hmagnitude : s.magnitude = s.exponent + s.digitText.length - 1 := rfl
  have hlength := List.length_pos_iff.2 hne
  rw [FloatNotation.scientificText, if_neg (by omega)]
  split
  · -- one digit before the point, and an exponent
    obtain ⟨d, fraction, hds⟩ := List.exists_cons_of_ne_nil hne
    rw [hds] at hmem hvalue hmagnitude ⊢
    have hexponent : s.magnitude - fraction.length = s.exponent := by
      rw [List.length_cons] at hmagnitude
      omega
    have h := magnitude?_scientific (hmem d List.mem_cons_self)
      (fun c hc => hmem c (List.mem_cons_of_mem d hc)) s.magnitude hrest negative
    rw [hvalue, hexponent, hread, ← List.append_assoc, ← List.append_assoc] at h
    exact h
  next hnear =>
  rw [Bool.or_eq_true, not_or, decide_eq_true_eq, decide_eq_true_eq] at hnear
  have hlowest : -4 ≤ s.magnitude := Int.not_lt.1 hnear.1
  have hhighest : s.magnitude ≤ 15 := Int.not_lt.1 hnear.2
  have hlongest : longestWhole = 4300 := rfl
  split
  · -- zeros between the point and the digits
    next hsmall =>
    have hexponent : -((s.magnitude.natAbs - 1 + s.digitText.length : Nat) : Int) = s.exponent := by
      omega
    rw [magnitude?_zeros_digits _ hmem hne hrest, hvalue, hexponent, hread]
  next hlarge =>
  dsimp only
  split
  · -- all digits before the point
    next hfew =>
    have hwhole : IsWholePart s.digitText := ⟨hmem, hne, fun h => absurd h hlead, by omega⟩
    have hexponent : (-1 : Int) + (s.magnitude.natAbs + 1 - s.digitText.length + 1 : Nat) =
        s.exponent := by omega
    have hshifted := Binary64.NearestDecimal.shift.2 (hexponent ▸ hs)
    have hpoint : FloatNotation.storedJson.pointZero = true := rfl
    rw [if_pos hpoint, magnitude?_digits_zeros _ hwhole hlead (by omega) hrest, hvalue,
      Binary64.ofDecimal_of_nearestDecimal hpos hshifted]
  · -- digits on both sides of the point
    next hmany =>
    have hexponent : -((s.digitText.length - (s.magnitude.natAbs + 1) : Nat) : Int) =
        s.exponent := by omega
    rw [magnitude?_parted hmem hlead (by omega) (Nat.lt_of_not_le hmany) (by omega) hrest, hvalue,
      hexponent, hread]

theorem magnitude?_text (rank : Fin Binary64.finiteCount) {rest : List Char}
    (hrest : EndsNumber rest) (negative : Bool) :
    magnitude? negative (FloatNotation.storedJson.scientificText
        (if rank.val = 0 then ⟨0, 0⟩ else Binary64.shortest rank) ++ rest) =
      some (.float (.finite negative rank), rest) := by
  by_cases hzero : rank.val = 0
  · have hrank : rank = ⟨0, by decide⟩ := Fin.ext hzero
    rw [if_pos hzero, hrank]
    exact magnitude?_pointed (isWholePart_singleton (d := '0') (by decide))
      (List.forall_mem_singleton.2 rfl) (List.cons_ne_nil '0' []) hrest negative
  · have hpos := Nat.pos_of_ne_zero hzero
    rw [if_neg hzero]
    exact magnitude?_scientificText hpos (Binary64.nearestDecimal_shortest hpos) hrest negative

/-! ## Signs -/

theorem exists_digit_of_magnitude? {negative : Bool} {cs : List Char} {r : Value × List Char}
    (h : magnitude? negative cs = some r) : ∃ c after, cs = c :: after ∧ isDigit c = true := by
  cases cs with
  | nil => exact absurd h nofun
  | cons c after =>
    refine ⟨c, after, rfl, ?_⟩
    by_contra hc
    have hspan : (c :: after).takeWhile isDigit = [] := List.takeWhile_cons_of_neg hc
    rw [magnitude?, span, hspan] at h
    exact absurd h nofun

theorem scalar?_of_magnitude? {cs : List Char} {r : Value × List Char}
    (h : magnitude? false cs = some r) : scalar? cs = some r := by
  obtain ⟨c, after, rfl, hc⟩ := exists_digit_of_magnitude? h
  have hquote : c ≠ '"' := by
    rintro rfl
    exact absurd hc (by decide)
  have hminus : c ≠ '-' := by
    rintro rfl
    exact absurd hc (by decide)
  rw [scalar?, if_neg hquote, if_neg hminus, if_pos hc, h]

theorem scalar?_minus {cs : List Char} {r : Value × List Char}
    (h : magnitude? true cs = some r) : scalar? ('-' :: cs) = some r := by
  obtain ⟨c, after, rfl, hc⟩ := exists_digit_of_magnitude? h
  have hletter : c ≠ 'I' := by
    rintro rfl
    exact absurd hc (by decide)
  have hword : word? "Infinity" (.float (.infinite true)) (c :: after) = none := by
    simp [word?, dropStart?, hletter]
  rw [scalar?, if_neg (by decide), if_pos rfl, hword, Option.none_or, h]

theorem scalar?_intText {n : Int} (hn : (natText n.natAbs).length ≤ longestWhole)
    {rest : List Char} (hrest : EndsNumber rest) :
    scalar? (intText n ++ rest) = some (.int n, rest) := by
  have h := fun negative => magnitude?_natText hn hrest negative
  by_cases hneg : n < 0
  · have hsigned : Reading.signed true n.natAbs = n := by
      rw [Reading.signed, if_pos rfl]
      omega
    rw [intText, if_pos hneg, List.cons_append, scalar?_minus (h true), hsigned]
  · have hsigned : Reading.signed false n.natAbs = n := by
      rw [Reading.signed, if_neg (by decide)]
      omega
    rw [intText, if_neg hneg, scalar?_of_magnitude? (h false), hsigned]

/-- A binary number is read, also one that is infinite or none. -/
theorem scalar?_floatText (x : Binary64) {rest : List Char} (hrest : EndsNumber rest) :
    scalar? (FloatNotation.storedJson.text Binary64.shortest x ++ rest) =
      some (.float x, rest) := by
  cases x with
  | nan => rfl
  | infinite negative => cases negative <;> rfl
  | finite negative rank =>
    have h := magnitude?_text rank hrest negative
    cases negative with
    | true => exact scalar?_minus h
    | false => exact scalar?_of_magnitude? h

end Json
end CrossCheck
