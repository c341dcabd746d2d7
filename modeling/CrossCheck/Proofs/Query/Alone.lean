import CrossCheck.Proofs.Calendar.Longest
import CrossCheck.Proofs.Query.Date

/-!
A time with a zone that stands alone in a query.  What is typed is the longest time that no
character clings to, and no time runs from the text before into one that stands alone: it would
have to hold the whole day of that one, and with it a second `T`.  So the rewriting works on the
text before, the time and the text after as if each were by itself.
-/

namespace CrossCheck

open Text Query

namespace WrittenTime

/-! ## Ends and marks of a time -/

theorem clings_of_isDigit {c : Char} (h : isDigit c = true) : clings c = true := by
  rw [clings, isWord_of_isDigit h, Bool.or_true]

theorem clings_last_digits {ds : List Char} (hne : ds ≠ []) (h : ds.all isDigit = true)
    (xs : List Char) : ∀ c ∈ (xs ++ ds).getLast?, clings c = true := by
  intro c hc
  rw [List.getLast?_append_of_ne_nil _ hne] at hc
  exact clings_of_isDigit (List.all_eq_true.1 h c (List.mem_of_getLast? hc))

theorem clings_last_digits_after {ds : List Char} (hne : ds ≠ []) (h : ds.all isDigit = true)
    (xs : List Char) (mark : Char) : ∀ c ∈ (xs ++ mark :: ds).getLast?, clings c = true := by
  rw [List.append_cons]
  exact clings_last_digits hne h _

theorem IsDigits.ne_nil {n : Nat} {ds : List Char} (h : IsDigits (n + 1) ds) : ds ≠ [] := by
  rintro rfl
  cases h.1

theorem DayForm.clings_last {day : List Char} (h : DayForm day) :
    ∀ c ∈ day.getLast?, clings c = true := by
  cases h with
  | intro hyear hmonth hday => exact clings_last_digits_after hday.ne_nil hday.2 _ _

theorem ClockForm.clings_last {clock : List Char} (h : ClockForm clock) :
    ∀ c ∈ ('T' :: clock).getLast?, clings c = true := by
  cases h with
  | minutes _ hminute => exact clings_last_digits_after hminute.ne_nil hminute.2 ('T' :: _) _
  | seconds _ _ hsecond => exact clings_last_digits_after hsecond.ne_nil hsecond.2 ('T' :: _) _
  | fraction _ _ _ hne hplaces => exact clings_last_digits_after hne hplaces ('T' :: _) _

theorem ZoneForm.clings_last {zone : List Char} (h : ZoneForm zone) :
    ∀ c ∈ zone.getLast?, clings c = true := by
  cases h with
  | utc =>
    intro c hc
    obtain rfl : 'Z' = c := Option.some.inj hc
    decide +kernel
  | colon _ _ hminute => exact clings_last_digits_after hminute.ne_nil hminute.2 _ _
  | plain _ _ hminute => exact clings_last_digits hminute.ne_nil hminute.2 _

/-- The last character of a time clings to whatever follows it. -/
theorem clings_last {t : WrittenTime} (h : t.IsFormed) :
    ∀ c ∈ t.chars.getLast?, clings c = true := by
  intro c hc
  rw [chars, ← List.append_assoc, List.getLast?_append, List.getLast?_append,
    Option.mem_def, Option.or_eq_some_iff] at hc
  rcases hc with hc | ⟨-, hc⟩
  · cases hzone : t.zone with
    | none =>
      rw [hzone] at hc
      cases hc
    | some zone =>
      rw [hzone] at hc
      exact (h.zone zone hzone).clings_last c hc
  · rcases Option.or_eq_some_iff.1 hc with hc | ⟨-, hc⟩
    · cases hclock : t.clock with
      | none =>
        rw [hclock] at hc
        cases hc
      | some clock =>
        rw [hclock] at hc
        exact (h.clock clock hclock).clings_last c hc
    · exact h.day.clings_last c hc

theorem T_not_mem_day {day : List Char} (h : DayForm day) : 'T' ∉ day := by
  have hT : isDigit 'T' = false := by decide
  cases h with
  | intro hyear hmonth hday =>
    simp [not_mem_of_all hT hyear.2, not_mem_of_all hT hmonth.2, not_mem_of_all hT hday.2]

theorem T_not_mem_clock {clock : List Char} (h : ClockForm clock) : 'T' ∉ clock := by
  have hT : isDigit 'T' = false := by decide
  cases h with
  | minutes hhour hminute => simp [not_mem_of_all hT hhour.2, not_mem_of_all hT hminute.2]
  | seconds hhour hminute hsecond =>
    simp [not_mem_of_all hT hhour.2, not_mem_of_all hT hminute.2, not_mem_of_all hT hsecond.2]
  | fraction hhour hminute hsecond _ hplaces =>
    simp [not_mem_of_all hT hhour.2, not_mem_of_all hT hminute.2, not_mem_of_all hT hsecond.2,
      not_mem_of_all hT hplaces]

theorem T_not_mem_zone {zone : List Char} (h : ZoneForm zone) : 'T' ∉ zone := by
  have hT : isDigit 'T' = false := by decide
  have hsign {sign : Char} (h : IsSign sign) : 'T' ≠ sign := by rcases h with rfl | rfl <;> decide
  cases h with
  | utc => decide
  | colon h hhour hminute =>
    simp [hsign h, not_mem_of_all hT hhour.2, not_mem_of_all hT hminute.2]
  | plain h hhour hminute =>
    simp [hsign h, not_mem_of_all hT hhour.2, not_mem_of_all hT hminute.2]

/-- The only `T` of a time stands right behind its day. -/
theorem eq_ten_of_T {t : WrittenTime} (h : t.IsFormed) {i : Nat} (hi : t.chars[i]? = some 'T') :
    i = 10 := by
  have hday := length_dayForm h.day
  have hzone : 'T' ∉ t.zone.getD [] := by
    cases hz : t.zone with
    | none => exact List.not_mem_nil
    | some zone => exact T_not_mem_zone (h.zone zone hz)
  rw [chars] at hi
  rcases Nat.lt_or_ge i 10 with hlt | hge
  · rw [List.getElem?_append_left (by omega)] at hi
    exact absurd (List.mem_of_getElem? hi) (T_not_mem_day h.day)
  · rw [List.getElem?_append_right (by omega), hday] at hi
    cases hclock : t.clock with
    | none =>
      rw [hclock] at hi
      exact absurd (List.mem_of_getElem? hi) hzone
    | some clock =>
      rw [hclock, Option.elim_some, List.cons_append] at hi
      cases hn : i - 10 with
      | zero => omega
      | succ n =>
        rw [hn, List.getElem?_cons_succ] at hi
        rcases List.mem_append.1 (List.mem_of_getElem? hi) with hmem | hmem
        · exact absurd hmem (T_not_mem_clock (h.clock clock hclock))
        · exact absurd hmem hzone

theorem DayForm.all_clings {day : List Char} (h : DayForm day) : day.all clings = true := by
  have hdigits {ds : List Char} (h : ds.all isDigit = true) : ds.all clings = true :=
    all_of_all (fun _ => clings_of_isDigit) h
  have hdash : clings '-' = true := rfl
  cases h with
  | intro hyear hmonth hday =>
    simp only [List.all_append, List.all_cons, hdigits hyear.2, hdigits hmonth.2, hdigits hday.2,
      hdash, Bool.and_true]

theorem IsZoned.exists_chars {t : WrittenTime} (h : t.IsZoned) :
    ∃ more, t.chars = t.day ++ 'T' :: more := by
  obtain ⟨clock, hclock⟩ := Option.isSome_iff_exists.1 h.clock_isSome
  exact ⟨clock ++ t.zone.getD [], by rw [chars, hclock]; rfl⟩

/-- The eleven characters that a time with a zone begins with all cling. -/
theorem IsZoned.clings_getElem? {t : WrittenTime} (h : t.IsZoned) (rest : List Char) {i : Nat}
    (hi : i ≤ 10) : ∃ c, (t.chars ++ rest)[i]? = some c ∧ clings c = true := by
  obtain ⟨more, hmore⟩ := h.exists_chars
  have hsplit : t.chars ++ rest = (t.day ++ ['T']) ++ (more ++ rest) := by simp [hmore]
  have hlength : (t.day ++ ['T']).length = 11 := by
    rw [List.length_append, length_dayForm h.day]
    rfl
  have hall : (t.day ++ ['T']).all clings = true := by
    rw [List.all_append, h.day.all_clings]
    decide +kernel
  have hlt : i < (t.day ++ ['T']).length := by omega
  refine ⟨(t.day ++ ['T'])[i], ?_, List.all_eq_true.1 hall _ (List.getElem_mem hlt)⟩
  rw [hsplit, List.getElem?_append_left hlt, List.getElem?_eq_getElem hlt]

theorem IsZoned.T_getElem? {t : WrittenTime} (h : t.IsZoned) (rest : List Char) :
    (t.chars ++ rest)[10]? = some 'T' := by
  obtain ⟨more, hmore⟩ := h.exists_chars
  have hday := length_dayForm h.day
  rw [hmore, List.append_assoc, List.getElem?_append_right (by omega), hday]
  rfl

end WrittenTime

namespace Query

open WrittenTime

/-! ## Which time is typed -/

/-- The time that is typed is the longest of those that no character clings to. -/
theorem bareTime?_eq_some_iff {cs rest : List Char} {t : WrittenTime} :
    bareTime? cs = some (t, rest) ↔
      t.IsFormed ∧ cs = t.chars ++ rest ∧ rest.head?.any clings = false ∧
        ∀ (u : WrittenTime) (left : List Char), u.IsFormed → cs = u.chars ++ left →
          left.head?.any clings = false → rest.length ≤ left.length := by
  have hmem {u : WrittenTime} {left : List Char} (hu : u.IsFormed) (heq : cs = u.chars ++ left)
      (hleft : left.head?.any clings = false) : (u, left) ∈ readings cs := by
    rw [heq]
    refine readings_complete hu fun c hc => isDigit_of_clings ?_
    rw [Option.mem_def] at hc
    rw [hc] at hleft
    exact hleft
  -- Readings come longest first, so none after the first that fits is longer.
  have hlongest {t : WrittenTime} {rest : List Char} (h : bareTime? cs = some (t, rest))
      {u : WrittenTime} {left : List Char} (hu : (u, left) ∈ readings cs)
      (hleft : left.head?.any clings = false) : rest.length ≤ left.length := by
    obtain ⟨-, before, after, hreadings, hbefore⟩ := List.find?_eq_some_iff_append.1 h
    have hpairwise := readings_pairwise cs
    rw [hreadings, List.pairwise_append, List.pairwise_cons] at hpairwise
    rw [hreadings, List.mem_append, List.mem_cons] at hu
    rcases hu with hu | heq | hu
    · have hnot := hbefore _ hu
      simp [hleft] at hnot
    · rw [(Prod.mk.inj heq).2]
    · exact Nat.le_of_lt (hpairwise.2.1.1 _ hu)
  constructor
  · intro h
    obtain ⟨hform, heq, hrest⟩ := bareTime?_sound h
    exact ⟨hform, heq, hrest, fun u left hu huleft hleft =>
      hlongest h (hmem hu huleft hleft) hleft⟩
  · rintro ⟨hform, heq, hrest, hleast⟩
    cases hbare : bareTime? cs with
    | none =>
      rw [heq] at hbare
      exact absurd hbare (bareTime?_ne_none hform hrest)
    | some found =>
      obtain ⟨u, left⟩ := found
      obtain ⟨hu, huleft, hleft⟩ := bareTime?_sound hbare
      have hle := hlongest hbare (hmem hform heq hrest) hrest
      have hge := hleast u left hu huleft hleft
      rw [readings_inj (hmem hu huleft hleft) (hmem hform heq hrest) (Nat.le_antisymm hle hge)]

section
variable {t : WrittenTime} {xs rest : List Char}

theorem bareTime?_zoned (ht : t.IsZoned) (hrest : rest.head?.any clings = false) :
    bareTime? (t.chars ++ rest) = some (t, rest) := by
  obtain ⟨more, hmore⟩ := readings_zoned ht rest
  rw [bareTime?, hmore, List.find?_cons_of_pos]
  simp [hrest]

/-- A time that begins before one that stands alone also ends before it. -/
theorem split_of_append (ht : t.IsZoned) {u : WrittenTime} (hu : u.IsFormed) {left : List Char}
    (hne : xs ≠ []) (heq : xs ++ (t.chars ++ rest) = u.chars ++ left)
    (hleft : left.head?.any clings = false) :
    ∃ mid, xs = u.chars ++ mid ∧ left = mid ++ (t.chars ++ rest) ∧
      mid.head?.any clings = false := by
  rcases List.append_eq_append_iff.1 heq with ⟨more, hmore, hsplit⟩ | ⟨mid, hmid, hsplit⟩
  · rcases Nat.lt_or_ge 10 more.length with hlong | hshort
    · have hT := ht.T_getElem? rest
      rw [hsplit, List.getElem?_append_left hlong] at hT
      have hmoved : u.chars[xs.length + 10]? = some 'T' := by
        rw [hmore, List.getElem?_append_right (Nat.le_add_right _ _), Nat.add_sub_cancel_left, hT]
      have hten := eq_ten_of_T hu hmoved
      exact absurd (List.length_eq_zero_iff.1 (by omega)) hne
    · obtain ⟨c, hc, hclings⟩ := ht.clings_getElem? rest hshort
      rw [hsplit, List.getElem?_append_right (Nat.le_refl _), Nat.sub_self,
        ← List.head?_eq_getElem?] at hc
      rw [hc, Option.any_some, hclings] at hleft
      cases hleft
  · refine ⟨mid, hmid, hsplit, ?_⟩
    cases mid with
    | nil => rfl
    | cons c mid =>
      rw [hsplit] at hleft
      exact hleft

/-- Before a time that stands alone, other times are found as if the text ended there. -/
theorem bareTime?_append (ht : t.IsZoned) (hne : xs ≠ [])
    (hlast : ∀ c ∈ xs.getLast?, clings c = false) :
    bareTime? (xs ++ (t.chars ++ rest)) =
      (bareTime? xs).map fun (u, left) => (u, left ++ (t.chars ++ rest)) := by
  cases hbare : bareTime? xs with
  | none =>
    rw [Option.map_none]
    cases hmore : bareTime? (xs ++ (t.chars ++ rest)) with
    | none => rfl
    | some found =>
      obtain ⟨u, left⟩ := found
      obtain ⟨hu, heq, hleft⟩ := bareTime?_sound hmore
      obtain ⟨mid, rfl, -, hmid⟩ := split_of_append ht hu hne heq hleft
      exact absurd hbare (bareTime?_ne_none hu hmid)
  | some found =>
    obtain ⟨u, mid⟩ := found
    obtain ⟨hu, heq, hmid, hleast⟩ := bareTime?_eq_some_iff.1 hbare
    rw [Option.map_some, bareTime?_eq_some_iff]
    refine ⟨hu, by rw [heq, List.append_assoc], ?_, fun v left hv hvleft hleft => ?_⟩
    · cases mid with
      | cons c mid => exact hmid
      | nil =>
        -- The time would end where the text before ends, and its last character clings.
        rw [List.append_nil] at heq
        subst heq
        have hchars : u.chars ≠ [] := hne
        have hmem := List.getLast?_eq_some_getLast hchars
        exact absurd ((hlast _ hmem).symm.trans (clings_last hu _ hmem)) Bool.false_ne_true
    · obtain ⟨mid', hmid', rfl, hclear⟩ := split_of_append ht hv hne hvleft hleft
      have hle := hleast v mid' hv hmid' hclear
      simp only [List.length_append]
      omega

/-! ## Typing it -/

theorem typedFrom_skip_append (before : Option Char) (taken rest : List Char) :
    typedFrom before taken.length (taken ++ rest) =
      typedFrom (taken.getLast?.or before) 0 rest := by
  induction taken generalizing before with
  | nil => rfl
  | cons c taken ih => rw [getLast?_cons_or, List.length_cons, List.cons_append, typedFrom, ih]

/-- What stands before a text that no time begins with does not matter to it. -/
theorem typedFrom_congr (before before' : Option Char) (hrest : rest.head?.any clings = false) :
    typedFrom before 0 rest = typedFrom before' 0 rest := by
  cases rest with
  | nil => rfl
  | cons c rest =>
    have hc : clings c = false := hrest
    have hnone : bareTime? (c :: rest) = none := by
      refine bareTime?_eq_none_of_opening (List.cons_ne_nil c []) ?_ ?_ rest
      · rw [List.mem_singleton]
        rintro rfl
        cases hc
      · rintro d hd
        obtain rfl : c = d := Option.some.inj hd
        exact isDigit_of_clings hc
    rw [typedFrom_of_none (.inr hnone), typedFrom_of_none (.inr hnone)]

theorem typedFrom_zoned (ht : t.IsZoned) {before : Option Char}
    (hbefore : before.any clings = false) (hrest : rest.head?.any clings = false) :
    typedFrom before 0 (t.chars ++ rest) = typedLiteral t ++ typedFrom none 0 rest := by
  have hbare := bareTime?_zoned ht hrest
  cases hchars : t.chars with
  | nil =>
    have hten := length_chars_ge ht.toIsFormed
    rw [hchars] at hten
    cases hten
  | cons c taken =>
    rw [hchars, List.cons_append] at hbare
    rw [List.cons_append, typedFrom_of_some hbefore hbare, List.length_append,
      Nat.add_sub_cancel_right, typedFrom_skip_append, typedFrom_congr _ none hrest]

/-- A time with a zone that stands alone in a piece divides it into three parts that are typed
independently. -/
theorem typedFrom_alone (ht : t.IsZoned) (hrest : rest.head?.any clings = false)
    {before : Option Char} {n : Nat} (hn : n ≤ xs.length)
    (hlast : (xs.getLast?.or before).any clings = false) :
    typedFrom before n (xs ++ (t.chars ++ rest)) =
      typedFrom before n xs ++ (typedLiteral t ++ typedFrom none 0 rest) := by
  induction xs generalizing before n with
  | nil =>
    obtain rfl := Nat.le_zero.1 hn
    exact typedFrom_zoned ht hlast hrest
  | cons c xs ih =>
    rw [getLast?_cons_or] at hlast
    rw [List.cons_append]
    cases n with
    | succ n =>
      rw [typedFrom, typedFrom, ih (Nat.le_of_succ_le_succ hn) hlast]
    | zero =>
      have hend : ∀ d ∈ (c :: xs).getLast?, clings d = false := by
        intro d hd
        rw [← getLast?_cons_or c xs none, hd, Option.some_or] at hlast
        exact hlast
      have hsame : bareTime? (c :: (xs ++ (t.chars ++ rest))) =
          (bareTime? (c :: xs)).map fun (u, left) => (u, left ++ (t.chars ++ rest)) :=
        bareTime?_append ht (List.cons_ne_nil c xs) hend
      cases hbefore : before.any clings with
      | true =>
        rw [typedFrom_of_none (.inl hbefore), typedFrom_of_none (.inl hbefore),
          ih (Nat.zero_le _) hlast, List.cons_append]
      | false =>
        cases hbare : bareTime? (c :: xs) with
        | none =>
          rw [hbare] at hsame
          rw [typedFrom_of_none (.inr hsame), typedFrom_of_none (.inr hbare),
            ih (Nat.zero_le _) hlast, List.cons_append]
        | some found =>
          obtain ⟨u, left⟩ := found
          rw [hbare] at hsame
          have hskip : (xs ++ (t.chars ++ rest)).length - (left ++ (t.chars ++ rest)).length =
              xs.length - left.length := by
            simp only [List.length_append]
            omega
          rw [typedFrom_of_some hbefore hsame, typedFrom_of_some hbefore hbare, hskip,
            ih (Nat.sub_le _ _) hlast, List.append_assoc]

end

/-! ## Outside quotes -/

/-- The plain piece at the start of a text, and the pieces after it. -/
def leading : List Piece → List Char × List Piece
  | ⟨false, cs⟩ :: ps => (cs, ps)
  | ps => ([], ps)

theorem leading_consPlain (c : Char) (ps : List Piece) :
    leading (consPlain c ps) = (c :: (leading ps).1, (leading ps).2) := by
  cases ps with
  | nil => rfl
  | cons p ps =>
    obtain ⟨quoted, cs⟩ := p
    cases quoted <;> rfl

theorem leading_pieces_append {cs : List Char} (h : '\'' ∉ cs) (ds : List Char) :
    leading (pieces (cs ++ ds)) = (cs ++ (leading (pieces ds)).1, (leading (pieces ds)).2) := by
  induction cs with
  | nil => rfl
  | cons c cs ih =>
    rw [List.mem_cons, not_or] at h
    rw [List.cons_append, pieces_plain (Ne.symm h.1), leading_consPlain, ih h.2]
    rfl

theorem typeDatesChars_eq_leading (cs : List Char) :
    typeDatesChars cs = typedFrom none 0 (leading (pieces cs)).1 ++
      (leading (pieces cs)).2.flatMap Piece.typed := by
  rw [show typeDatesChars cs = (pieces cs).flatMap Piece.typed from rfl]
  cases pieces cs with
  | nil => rfl
  | cons p ps =>
    obtain ⟨quoted, chars⟩ := p
    cases quoted <;> rfl

theorem leading_append (cs : List Char) :
    (leading (pieces cs)).1 ++ (leading (pieces cs)).2.flatMap Piece.chars = cs := by
  have hall := flatMap_pieces cs
  cases hpieces : pieces cs with
  | nil =>
    rw [hpieces] at hall
    exact hall
  | cons p ps =>
    rw [hpieces] at hall
    obtain ⟨quoted, chars⟩ := p
    cases quoted <;> exact hall

/-- Behind the pieces that it ends, a closed text ends with plain characters, which the next piece
goes on from. -/
theorem IsClosed.exists_ending {cs : List Char} (h : IsClosed cs) :
    ∃ (ps : List Piece) (ending : List Char), '\'' ∉ ending ∧
      ∀ ds, pieces (cs ++ ds) = ps ++ pieces (ending ++ ds) := by
  induction h using IsClosed.induction with
  | nil => exact ⟨[], [], List.not_mem_nil, fun _ => rfl⟩
  | literal cs body rest hbody _ ih =>
    obtain ⟨ps, ending, hending, heq⟩ := ih
    refine ⟨⟨true, '\'' :: body⟩ :: ps, ending, hending, fun ds => ?_⟩
    rw [List.cons_append, pieces_literal (literalBody?_append_right hbody ds), heq,
      List.cons_append]
  | plain c cs hquote _ ih =>
    obtain ⟨ps, ending, hending, heq⟩ := ih
    cases ps with
    | nil =>
      refine ⟨[], c :: ending, ?_, fun ds => ?_⟩
      · rw [List.mem_cons, not_or]
        exact ⟨Ne.symm hquote, hending⟩
      · rw [List.cons_append, pieces_plain hquote, heq, List.nil_append, List.nil_append,
          List.cons_append, pieces_plain hquote]
    | cons p ps =>
      refine ⟨consPlain c (p :: ps), ending, hending, fun ds => ?_⟩
      rw [List.cons_append, pieces_plain hquote, heq]
      obtain ⟨quoted, chars⟩ := p
      cases quoted <;> rfl

/-- The places of a query at which a text stands alone, outside quotes: every quote before it
belongs to a complete literal, and no character clings to it. -/
structure StandsAlone (before after : List Char) : Prop where
  closed : IsClosed before
  before : ∀ c ∈ before.getLast?, clings c = false
  after : ∀ c ∈ after.head?, clings c = false

/-- A time with a zone that stands alone becomes its typed literal, and the texts around it become
what they become by themselves. -/
theorem typeDatesChars_alone {t : WrittenTime} (ht : t.IsZoned) {before after : List Char}
    (h : StandsAlone before after) :
    typeDatesChars (before ++ (t.chars ++ after)) =
      typeDatesChars before ++ (typedLiteral t ++ typeDatesChars after) := by
  obtain ⟨ps, ending, hquote, hpieces⟩ := h.closed.exists_ending
  have htyped (ds : List Char) : typeDatesChars (before ++ ds) =
      ps.flatMap Piece.typed ++ typeDatesChars (ending ++ ds) := by
    rw [show typeDatesChars (before ++ ds) = (pieces (before ++ ds)).flatMap Piece.typed from rfl,
      hpieces, List.flatMap_append]
    rfl
  have hbefore := htyped []
  rw [List.append_nil, List.append_nil, typeDatesChars_of_not_mem hquote] at hbefore
  have hending : (ending.getLast?.or none).any clings = false := by
    have hchars := congrArg (List.flatMap Piece.chars) (hpieces [])
    rw [List.flatMap_append, flatMap_pieces, flatMap_pieces, List.append_nil, List.append_nil]
      at hchars
    rw [Option.or_none]
    cases hlast : ending.getLast? with
    | none => rfl
    | some c =>
      refine h.before c ?_
      rw [hchars, List.getLast?_append, hlast]
      rfl
  have hafter : (leading (pieces after)).1.head?.any clings = false := by
    cases hhead : (leading (pieces after)).1.head? with
    | none => rfl
    | some c =>
      refine h.after c ?_
      rw [← leading_append after, List.head?_append, hhead]
      rfl
  have hplain : '\'' ∉ ending ++ t.chars := fun hmem =>
    (List.mem_append.1 hmem).elim hquote (quote_not_mem_chars ht.toIsFormed)
  rw [htyped, hbefore, typeDatesChars_eq_leading (ending ++ (t.chars ++ after)),
    typeDatesChars_eq_leading after, ← List.append_assoc ending, leading_pieces_append hplain]
  dsimp only
  rw [List.append_assoc ending, typedFrom_alone ht hafter (Nat.zero_le _) hending]
  simp only [List.append_assoc]

end Query
end CrossCheck
