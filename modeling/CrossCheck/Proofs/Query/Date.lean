import CrossCheck.Proofs.Calendar.Written
import CrossCheck.Proofs.Query.Literal
import Mathlib.Data.List.Chain

/-!
Bare dates in queries.  A date is typed where it stands between characters that do not cling to
it, outside complete literals, and nothing else is touched: a query stays as it is exactly if no
such date stands in it.
-/

namespace CrossCheck
namespace Query

open Text WrittenTime

/-! ## Where a date stands -/

theorem bareTime?_sound {cs rest : List Char} {t : WrittenTime}
    (h : bareTime? cs = some (t, rest)) :
    t.IsFormed ∧ cs = t.chars ++ rest ∧ rest.head?.any clings = false := by
  obtain ⟨hform, heq⟩ := readings_sound (List.mem_of_find?_eq_some h)
  have hrest := List.find?_some h
  exact ⟨hform, heq, by simpa using hrest⟩

theorem isDigit_of_clings {c : Char} (h : clings c = false) : isDigit c = false := by
  refine Bool.eq_false_iff.2 fun hdigit => ?_
  rw [clings, isWord_of_isDigit hdigit, Bool.or_true] at h
  cases h

theorem bareTime?_ne_none {t : WrittenTime} {rest : List Char} (h : t.IsFormed)
    (hrest : rest.head?.any clings = false) : bareTime? (t.chars ++ rest) ≠ none := by
  intro hnone
  have hdigit : ∀ c ∈ rest.head?, isDigit c = false := by
    intro c hc
    rw [hc] at hrest
    exact isDigit_of_clings hrest
  have hmem := List.find?_eq_none.1 hnone (t, rest) (readings_complete h hdigit)
  dsimp only at hmem
  rw [hrest] at hmem
  exact hmem rfl

theorem bareTime?_chars {t : WrittenTime} (h : t.IsFormed) :
    bareTime? t.chars = some (t, []) := by
  obtain ⟨more, hmore⟩ := readings_chars h
  rw [bareTime?, hmore]
  rfl

/-- No date stands in a text whose left neighbour is `before`: wherever the characters of one
come, another character clings to them. -/
def TimelessAfter (before : Option Char) (cs : List Char) : Prop :=
  ∀ (left : List Char) (t : WrittenTime) (rest : List Char), t.IsFormed →
    cs = left ++ (t.chars ++ rest) →
    (left.getLast?.or before).any clings = true ∨ rest.head?.any clings = true

def Timeless (cs : List Char) : Prop := TimelessAfter none cs

theorem getLast?_cons_or (c : Char) (cs : List Char) (before : Option Char) :
    (c :: cs).getLast?.or before = cs.getLast?.or (some c) := by
  cases cs <;> rfl

theorem timelessAfter_cons {before : Option Char} {c : Char} {cs : List Char} :
    TimelessAfter before (c :: cs) ↔
      (before.any clings = true ∨ bareTime? (c :: cs) = none) ∧ TimelessAfter (some c) cs := by
  constructor
  · intro h
    refine ⟨?_, fun left t rest hform heq => ?_⟩
    · cases hbare : bareTime? (c :: cs) with
      | none => exact .inr rfl
      | some found =>
        obtain ⟨t, rest⟩ := found
        obtain ⟨hform, heq, hrest⟩ := bareTime?_sound hbare
        rcases h [] t rest hform heq with hbefore | hcling
        · exact .inl hbefore
        · exact absurd (hrest.symm.trans hcling) Bool.false_ne_true
    · rw [← getLast?_cons_or c left before]
      exact h (c :: left) t rest hform (congrArg (c :: ·) heq)
  · rintro ⟨hhere, hlater⟩ left t rest hform heq
    cases left with
    | nil =>
      rcases hhere with hbefore | hnone
      · exact .inl hbefore
      · rw [heq] at hnone
        cases hrest : rest.head?.any clings with
        | true => exact .inr rfl
        | false => exact absurd hnone (bareTime?_ne_none hform hrest)
    | cons d left =>
      obtain ⟨rfl, hrest⟩ := List.cons.inj heq
      rw [getLast?_cons_or]
      exact hlater left t rest hform hrest

/-! ## Typing a plain piece -/

theorem typedFrom_skip (before : Option Char) {n : Nat} {cs : List Char} (h : cs.length ≤ n) :
    typedFrom before n cs = [] := by
  induction cs generalizing before n with
  | nil => rfl
  | cons c cs ih =>
    cases n with
    | zero => cases h
    | succ n => exact ih (some c) (Nat.le_of_succ_le_succ h)

theorem typedFrom_of_none {before : Option Char} {c : Char} {cs : List Char}
    (h : before.any clings = true ∨ bareTime? (c :: cs) = none) :
    typedFrom before 0 (c :: cs) = c :: typedFrom (some c) 0 cs := by
  rw [typedFrom]
  split
  · next hbare =>
    rcases h with h | h
    · rw [if_pos h] at hbare
      cases hbare
    · rw [h, ite_self] at hbare
      cases hbare
  · rfl

theorem typedFrom_of_some {before : Option Char} {c : Char} {cs rest : List Char}
    {t : WrittenTime} (hbefore : before.any clings = false)
    (h : bareTime? (c :: cs) = some (t, rest)) :
    typedFrom before 0 (c :: cs) =
      typedLiteral t ++ typedFrom (some c) (cs.length - rest.length) cs := by
  rw [typedFrom, if_neg (by rw [hbefore]; exact Bool.false_ne_true), h]

theorem length_dayForm {day : List Char} (h : DayForm day) : day.length = 10 := by
  cases h with
  | intro hyear hmonth hday => simp [hyear.1, hmonth.1, hday.1]

theorem length_chars_ge {t : WrittenTime} (h : t.IsFormed) : 10 ≤ t.chars.length := by
  rw [chars, List.length_append, length_dayForm h.day]
  exact Nat.le_add_right 10 _

theorem length_zoneForm_le {zone : List Char} (h : ZoneForm zone) : zone.length ≤ 6 := by
  cases h with
  | utc => decide
  | colon _ hhour hminute => simp [hhour.1, hminute.1]
  | plain _ hhour hminute => simp [hhour.1, hminute.1]

theorem typedLiteral_eq (t : WrittenTime) :
    typedLiteral t = "CAST('".toList ++ t.day ++
      t.clock.elim "' AS DATE)".toList fun clock => ' ' :: clock ++ "' AS TIMESTAMP)".toList := by
  obtain ⟨day, clock, zone⟩ := t
  cases clock <;> rfl

/-- A typed literal is longer than what it stands for. -/
theorem length_chars_lt {t : WrittenTime} (h : t.IsFormed) :
    t.chars.length < (typedLiteral t).length := by
  obtain ⟨day, clock, zone⟩ := t
  have hzone : (zone.getD []).length ≤ 6 := by
    cases zone with
    | none => exact Nat.zero_le 6
    | some zone => exact length_zoneForm_le (h.zone zone rfl)
  have hopening : "CAST('".toList.length = 6 := by decide
  have hdate : "' AS DATE)".toList.length = 10 := by decide
  have hstamp : "' AS TIMESTAMP)".toList.length = 15 := by decide
  cases clock with
  | none =>
    rw [typedLiteral_eq]
    simp only [chars, Option.elim_none, List.length_append, List.length_nil]
    omega
  | some clock =>
    rw [typedLiteral_eq]
    simp only [chars, Option.elim_some, List.length_append, List.length_cons]
    omega

theorem length_le_typedFrom (before : Option Char) (n : Nat) (cs : List Char) :
    cs.length ≤ (typedFrom before n cs).length + n := by
  induction cs generalizing before n with
  | nil => exact Nat.zero_le _
  | cons c cs ih =>
    cases n with
    | succ n =>
      have := ih (some c) n
      rw [typedFrom, List.length_cons]
      omega
    | zero =>
      by_cases hnone : before.any clings = true ∨ bareTime? (c :: cs) = none
      · have := ih (some c) 0
        rw [typedFrom_of_none hnone, List.length_cons, List.length_cons]
        omega
      · rw [not_or, Bool.not_eq_true, ← ne_eq, Option.ne_none_iff_exists'] at hnone
        obtain ⟨hbefore, ⟨t, rest⟩, hbare⟩ := hnone
        obtain ⟨hform, heq, -⟩ := bareTime?_sound hbare
        have hlength := congrArg List.length heq
        have hlonger := length_chars_lt hform
        have := ih (some c) (cs.length - rest.length)
        rw [typedFrom_of_some hbefore hbare, List.length_append]
        rw [List.length_cons, List.length_append] at hlength
        rw [List.length_cons]
        omega

/-- Typing leaves a piece as it is exactly if no date stands in it. -/
theorem typedFrom_eq_self_iff {before : Option Char} {cs : List Char} :
    typedFrom before 0 cs = cs ↔ TimelessAfter before cs := by
  induction cs generalizing before with
  | nil =>
    refine iff_of_true rfl fun left t rest hform heq => ?_
    have hlength := congrArg List.length heq
    have hten := length_chars_ge hform
    rw [List.length_append, List.length_append, List.length_nil] at hlength
    omega
  | cons c cs ih =>
    rw [timelessAfter_cons]
    by_cases hnone : before.any clings = true ∨ bareTime? (c :: cs) = none
    · rw [typedFrom_of_none hnone, List.cons_inj_right, ih]
      exact (and_iff_right hnone).symm
    · -- A date is typed here, so the text grows, whatever becomes of the rest.
      refine iff_of_false (fun heq => ?_) fun h => hnone h.1
      rw [not_or, Bool.not_eq_true, ← ne_eq, Option.ne_none_iff_exists'] at hnone
      obtain ⟨hbefore, ⟨t, rest⟩, hbare⟩ := hnone
      obtain ⟨hform, hchars, -⟩ := bareTime?_sound hbare
      have hlength := congrArg List.length hchars
      have hten := length_chars_ge hform
      have hlonger := length_chars_lt hform
      have hrest := length_le_typedFrom (some c) (cs.length - rest.length) cs
      have hsame := congrArg List.length heq
      rw [typedFrom_of_some hbefore hbare, List.length_append] at hsame
      rw [List.length_cons, List.length_append] at hlength
      rw [List.length_cons] at hsame
      omega

/-! ## Typing a query -/

theorem flatMap_consPlain (c : Char) (ps : List Piece) :
    (consPlain c ps).flatMap Piece.chars = c :: ps.flatMap Piece.chars := by
  cases ps with
  | nil => rfl
  | cons p ps =>
    obtain ⟨quoted, chars⟩ := p
    cases quoted <;> rfl

/-- Splitting a query loses nothing. -/
theorem flatMap_pieces (cs : List Char) : (pieces cs).flatMap Piece.chars = cs := by
  fun_induction pieces cs with
  | case1 => rfl
  | case2 cs body rest hbody ih =>
    rw [List.flatMap_cons, ih, List.cons_append, literalBody?_append hbody]
  | case3 cs _ ih => rw [flatMap_consPlain, ih]
  | case4 c cs _ ih => rw [flatMap_consPlain, ih]

/-- A query without quotes is one piece. -/
theorem typeDatesChars_of_not_mem {cs : List Char} (h : '\'' ∉ cs) :
    typeDatesChars cs = typedFrom none 0 cs := by
  have hpieces : cs = [] ∨ pieces cs = [⟨false, cs⟩] := by
    induction cs with
    | nil => exact .inl rfl
    | cons c cs ih =>
      rw [List.mem_cons, not_or] at h
      rw [pieces_plain (Ne.symm h.1)]
      rcases ih h.2 with rfl | hone
      · rw [pieces]
        exact .inr rfl
      · rw [hone]
        exact .inr rfl
  rcases hpieces with rfl | hone
  · rw [typeDatesChars, pieces]
    rfl
  · rw [typeDatesChars, hone, List.flatMap_cons, List.flatMap_nil, List.append_nil]
    rfl

/-- What typing makes of a piece. -/
def Piece.typed (p : Piece) : List Char :=
  if p.quoted then p.chars else typedFrom none 0 p.chars

theorem Piece.length_le_typed (p : Piece) : p.chars.length ≤ p.typed.length := by
  rw [Piece.typed]
  split
  · exact Nat.le_refl _
  · exact length_le_typedFrom none 0 p.chars

theorem Piece.typed_eq_chars_iff {p : Piece} :
    p.typed = p.chars ↔ (p.quoted = false → Timeless p.chars) := by
  rw [Piece.typed]
  cases p.quoted with
  | true => exact iff_of_true rfl nofun
  | false => exact typedFrom_eq_self_iff.trans ⟨fun h _ => h, fun h => h rfl⟩

theorem length_le_flatMap_typed (ps : List Piece) :
    (ps.flatMap Piece.chars).length ≤ (ps.flatMap Piece.typed).length := by
  induction ps with
  | nil => exact Nat.le_refl 0
  | cons p ps ih =>
    have := p.length_le_typed
    rw [List.flatMap_cons, List.flatMap_cons, List.length_append, List.length_append]
    omega

/-- No piece can make up for what another has gained. -/
theorem flatMap_typed_eq_iff (ps : List Piece) :
    ps.flatMap Piece.typed = ps.flatMap Piece.chars ↔ ∀ p ∈ ps, p.typed = p.chars := by
  induction ps with
  | nil => simp
  | cons p ps ih =>
    rw [List.flatMap_cons, List.flatMap_cons, List.forall_mem_cons, ← ih]
    constructor
    · intro h
      have hlength := congrArg List.length h
      have hhead := p.length_le_typed
      have htail := length_le_flatMap_typed ps
      rw [List.length_append, List.length_append] at hlength
      exact List.append_inj h (by omega)
    · rintro ⟨hhead, htail⟩
      rw [hhead, htail]

/-- A query stays as it is exactly if no bare date stands outside its literals. -/
theorem typeDatesChars_eq_self_iff {cs : List Char} :
    typeDatesChars cs = cs ↔ ∀ p ∈ pieces cs, p.quoted = false → Timeless p.chars := by
  have htyped : typeDatesChars cs = (pieces cs).flatMap Piece.typed := rfl
  have hchars := flatMap_typed_eq_iff (pieces cs)
  rw [flatMap_pieces] at hchars
  rw [htyped, hchars]
  exact forall₂_congr fun p _ => Piece.typed_eq_chars_iff

/-! ## Texts without dates -/

/-- A day begins with digits and a dash. -/
theorem dash_of_dayForm {day : List Char} (h : DayForm day) :
    ∃ front d back, day = front ++ d :: '-' :: back ∧ (front ++ [d]).all isDigit = true := by
  cases h with
  | @intro year month day hyear hmonth hday =>
    have hne : year ≠ [] := by
      rintro rfl
      cases hyear.1
    refine ⟨year.dropLast, year.getLast hne, month ++ '-' :: day, ?_, ?_⟩
    · rw [List.append_cons year.dropLast, List.dropLast_concat_getLast hne, List.append_assoc]
      rfl
    · rw [List.dropLast_concat_getLast hne]
      exact hyear.2

/-- No dash follows a digit, as it does after the year of a date. -/
def Undated (cs : List Char) : Prop := cs.IsChain fun c d => isDigit c = true → d ≠ '-'

theorem undated_of_not_mem {cs : List Char} (h : '-' ∉ cs) : Undated cs := by
  rw [Undated, List.isChain_iff_getElem]
  intro i hi _ hdash
  exact h (hdash ▸ List.getElem_mem hi)

theorem Undated.append {xs ys : List Char} (hx : Undated xs) (hy : Undated ys)
    (h : (∀ c ∈ xs.getLast?, isDigit c = false) ∨ ∀ d ∈ ys.head?, d ≠ '-') :
    Undated (xs ++ ys) := by
  refine List.IsChain.append hx hy fun c hc d hd hdigit => ?_
  rcases h with h | h
  · exact absurd (hdigit.symm.trans (h c hc)) nofun
  · exact h d hd

theorem Undated.timeless {cs : List Char} (h : Undated cs) : Timeless cs := by
  intro left t rest hform heq
  obtain ⟨front, d, back, hday, hdigits⟩ := dash_of_dayForm hform.day
  have hinfix : [d, '-'] <:+: cs := by
    refine ⟨left ++ front, back ++ (t.clock.elim [] ('T' :: ·) ++ t.zone.getD []) ++ rest, ?_⟩
    rw [heq, chars, hday]
    simp
  have hpair : [d, '-'].IsChain fun c d => isDigit c = true → d ≠ '-' := List.IsChain.infix h hinfix
  rw [List.all_append, Bool.and_eq_true_iff] at hdigits
  exact absurd rfl (List.isChain_pair.1 hpair (by simpa using hdigits.2))

theorem Undated.typeDatesChars {cs : List Char} (h : Undated cs) : typeDatesChars cs = cs := by
  refine typeDatesChars_eq_self_iff.2 fun p hp _ => Undated.timeless ?_
  have hinfix := List.infix_of_mem_flatten (List.mem_map_of_mem (f := Piece.chars) hp)
  rw [← List.flatMap_def, flatMap_pieces] at hinfix
  exact List.IsChain.infix h hinfix

/-! ## A date behind an opening -/

/-- A date that stands behind the opening of a comparison begins there and no sooner. -/
theorem bareTime?_eq_none_of_opening {opening : List Char} (hne : opening ≠ [])
    (hdash : '-' ∉ opening) (hlast : ∀ c ∈ opening.getLast?, isDigit c = false)
    (cs : List Char) :
    bareTime? (opening ++ cs) = none := by
  cases hbare : bareTime? (opening ++ cs) with
  | none => rfl
  | some found =>
    obtain ⟨t, rest⟩ := found
    obtain ⟨hform, heq, -⟩ := bareTime?_sound hbare
    obtain ⟨front, d, back, hday, hdigits⟩ := dash_of_dayForm hform.day
    have hsplit : opening ++ cs = (front ++ [d]) ++ '-' :: (back ++
        (t.clock.elim [] ('T' :: ·) ++ t.zone.getD []) ++ rest) := by
      rw [heq, chars, hday]
      simp
    -- Either the opening reaches the dash, or it ends within the digits before it.
    have hends : ∃ more, front ++ [d] = opening ++ more := by
      rcases List.append_eq_append_iff.1 hsplit with ⟨more, hmore, -⟩ | ⟨more, hmore, hmore'⟩
      · exact ⟨more, hmore⟩
      · cases more with
        | nil => exact ⟨[], by rw [List.append_nil, hmore, List.append_nil]⟩
        | cons c more =>
          obtain ⟨rfl, -⟩ := List.cons.inj hmore'
          rw [hmore] at hdash
          exact absurd (List.mem_append_right _ List.mem_cons_self) hdash
    obtain ⟨more, hmore⟩ := hends
    rw [hmore, List.all_append, Bool.and_eq_true_iff] at hdigits
    have hdigit := List.all_eq_true.1 hdigits.1 (opening.getLast hne) (List.getLast_mem hne)
    have hnot := hlast _ (List.getLast?_eq_some_getLast hne)
    exact absurd (hnot.symm.trans hdigit) Bool.false_ne_true

theorem typedFrom_opening {before : Option Char} {opening cs : List Char} (hdash : '-' ∉ opening)
    (hlast : ∀ c ∈ opening.getLast?, isDigit c = false) :
    typedFrom before 0 (opening ++ cs) =
      opening ++ typedFrom (opening.getLast?.or before) 0 cs := by
  induction opening generalizing before with
  | nil => rfl
  | cons c opening ih =>
    have hnone := bareTime?_eq_none_of_opening (List.cons_ne_nil c opening) hdash hlast cs
    have hlater : ∀ d ∈ opening.getLast?, isDigit d = false := fun d hd =>
      hlast d (List.mem_getLast?_cons hd)
    rw [List.cons_append] at hnone ⊢
    rw [typedFrom_of_none (.inr hnone), List.cons_append,
      ih (fun hmem => hdash (List.mem_cons_of_mem c hmem)) hlater, getLast?_cons_or]

theorem quote_not_mem_chars {t : WrittenTime} (h : t.IsFormed) : '\'' ∉ t.chars :=
  not_mem_of_all (by decide) (all_isTimeChar_chars h)

/-- A whole time behind an opening is replaced by its typed literal. -/
theorem typeDatesChars_opening {opening : List Char} {t : WrittenTime} (h : t.IsFormed)
    (hdash : '-' ∉ opening) (hquote : '\'' ∉ opening)
    (hlast : ∀ c ∈ opening.getLast?, clings c = false) :
    typeDatesChars (opening ++ t.chars) = opening ++ typedLiteral t := by
  have hdigit : ∀ c ∈ opening.getLast?, isDigit c = false := fun c hc =>
    isDigit_of_clings (hlast c hc)
  have hbefore : (opening.getLast?.or none).any clings = false := by
    rw [Option.or_none]
    cases hl : opening.getLast? with
    | none => rfl
    | some c => exact hlast c hl
  rw [typeDatesChars_of_not_mem fun hmem =>
    (List.mem_append.1 hmem).elim hquote (quote_not_mem_chars h), typedFrom_opening hdash hdigit]
  have hbare := bareTime?_chars h
  have hten := length_chars_ge h
  cases hchars : t.chars with
  | nil =>
    rw [hchars] at hten
    cases hten
  | cons c cs =>
    rw [hchars] at hbare
    rw [typedFrom_of_some hbefore hbare, List.length_nil, Nat.sub_zero,
      typedFrom_skip _ (Nat.le_refl _), List.append_nil]

end Query
end CrossCheck
