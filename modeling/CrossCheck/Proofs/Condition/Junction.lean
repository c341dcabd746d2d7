import CrossCheck.Proofs.Condition.Literal
import CrossCheck.Proofs.Condition.Written
import CrossCheck.Proofs.Query.Literal

/-!
Comparisons that are joined by `and` or `or`.  Two of them are never taken for one, whatever their
values are and also where the second is negated.  A second comparison in parentheses is not
recognised: such a text is taken for one comparison unless something else in it makes two.
-/

namespace CrossCheck

namespace Text

theorem foldLetter_eq_toLower {c : Char} (h : c.toLower.toNat < 0x80) :
    foldLetter c = c.toLower := by
  rw [foldLetter]
  split
  · next hc =>
    rw [hc] at h
    exact absurd h (by decide)
  split
  · next hc =>
    rw [hc] at h
    exact absurd h (by decide)
  split
  · next hc =>
    simp only [Bool.or_eq_true, decide_eq_true_eq] at hc
    rcases hc with rfl | rfl <;> exact absurd h (by decide)
  · rfl

end Text

namespace Condition

open Text

/-! ## Words between comparisons -/

/-- The letters of a word, large or small. -/
def IsWordOf (word : String) (cs : List Char) : Prop := cs.map Char.toLower = word.toList

instance (word : String) (cs : List Char) : Decidable (IsWordOf word cs) :=
  inferInstanceAs (Decidable (cs.map Char.toLower = word.toList))

def IsGap (cs : List Char) : Prop := cs ≠ [] ∧ cs.all isBlank = true

instance (cs : List Char) : Decidable (IsGap cs) :=
  inferInstanceAs (Decidable (cs ≠ [] ∧ cs.all isBlank = true))

/-- `and` or `or` among blanks -/
inductive Connects : List Char → Prop where
  | intro {left word right : List Char} (hleft : IsGap left)
      (hword : IsWordOf "and" word ∨ IsWordOf "or" word) (hright : IsGap right) :
      Connects (left ++ (word ++ right))

/-- `not` before blanks, or nothing -/
inductive Negates : List Char → Prop where
  | nothing : Negates []
  | intro {word gap : List Char} (hword : IsWordOf "not" word) (hgap : IsGap gap) :
      Negates (word ++ gap)

theorem map_foldLetter_of_isWordOf {word : String} {cs : List Char}
    (hascii : word.toList.all (fun c => c.toNat < 0x80) = true) (h : IsWordOf word cs) :
    cs.map foldLetter = word.toList := by
  rw [← h] at hascii ⊢
  refine List.map_congr_left fun c hc => foldLetter_eq_toLower ?_
  exact of_decide_eq_true (List.all_eq_true.1 hascii c.toLower (List.mem_map_of_mem hc))

theorem afterWord?_append {word : String} {cs gap rest : List Char}
    (hword : cs.map foldLetter = word.toList) (hgap : IsGap gap)
    (hrest : ∀ c ∈ rest.head?, isBlank c = false) :
    afterWord? word (cs ++ (gap ++ rest)) = some rest := by
  obtain ⟨hne, hblank⟩ := hgap
  cases gap with
  | nil => exact absurd rfl hne
  | cons c gap =>
    obtain ⟨hc, hblank⟩ := Bool.and_eq_true_iff.1 hblank
    rw [afterWord?, dropKeyword?_eq_some_iff.2 ⟨cs, hword, rfl⟩]
    dsimp only [List.cons_append]
    rw [if_pos hc, dropWhile_append hblank hrest]

/-! ## Where a comparison begins -/

theorem isNameStart_foldLetter {c : Char} (h : isNameStart c = true) :
    isNameStart (foldLetter c) = true := by
  have hnot := eq_false_of_inRanges (p := fun c => !isNameStart (foldLetter c)) (by decide)
    (inRanges_of_isNameStart h)
  simpa using hnot

theorem startsWithOperator_append {op : List Char} (h : op ∈ operators.map String.toList)
    (rest : List Char) : startsWithOperator (op ++ rest) = true := by
  obtain ⟨name, hname, rfl⟩ := List.mem_map.1 h
  refine List.any_eq_true.2 ⟨name, hname, ?_⟩
  rw [dropStart?_eq_some_iff.2 rfl]
  rfl

namespace Written

variable (w : Written)

theorem startsComparison_opening (rest : List Char) :
    startsComparison (w.opening ++ rest) = true := by
  obtain ⟨c, more, -, hc, hmore, hopening⟩ := w.exists_field rest
  rw [hopening, startsComparison, isNameStart_foldLetter hc,
    dropWhile_append hmore (w.isNamePart_before rest),
    span_append w.blank_before (w.isBlank_operator rest), Bool.true_and]
  dsimp only
  rw [startsWithOperator_append w.known_operator, Bool.true_or]

theorem startsJoined_opening {negation : List Char} (h : Negates negation) (rest : List Char) :
    startsJoined (negation ++ (w.opening ++ rest)) = true := by
  rw [startsJoined]
  cases h with
  | nothing => rw [List.nil_append, w.startsComparison_opening, Bool.or_true]
  | intro hword hgap =>
    have hfold := map_foldLetter_of_isWordOf (by decide) hword
    rw [List.append_assoc, afterWord?_append hfold hgap (w.isBlank_head rest), Option.any_some,
      w.startsComparison_opening, Bool.true_or]

end Written

/-! ## Junctions -/

theorem isCompound_append (before : List Char) {cs : List Char} (h : startsJunction cs = true) :
    isCompound (before ++ cs) = true := by
  induction before with
  | nil =>
    cases cs with
    | nil => cases h
    | cons c cs => rw [List.nil_append, isCompound, h, Bool.true_or]
  | cons c before ih => rw [List.cons_append, isCompound, ih, Bool.or_true]

theorem isBlank_head_of_negates {negation rest : List Char} (h : Negates negation)
    (hrest : ∀ c ∈ rest.head?, isBlank c = false) :
    ∀ c ∈ (negation ++ rest).head?, isBlank c = false := by
  intro c hc
  cases h with
  | nothing => exact hrest c hc
  | @intro word gap hword hgap =>
    obtain ⟨d, more, rfl, hd, -⟩ := List.map_eq_cons_iff.1 hword
    obtain rfl : d = c := Option.some.inj hc
    refine Bool.eq_false_iff.2 fun hblank => ?_
    have hnot := eq_false_of_inRanges (p := fun c => c.toLower = 'n') (by decide) hblank
    exact absurd hd (of_decide_eq_false hnot)

/-- A connective and the opening of a further comparison make a text compound, whatever stands
before and after them. -/
theorem isCompound_of_connects {connective negation : List Char} (h : Connects connective)
    (h' : Negates negation) (b : Written) (before rest : List Char) :
    isCompound (before ++ (connective ++ (negation ++ (b.opening ++ rest)))) = true := by
  cases h with
  | @intro left word right hleft hword hright =>
    obtain ⟨hne, hall⟩ := hleft
    have hblank := List.all_eq_true.1 hall _ (List.getLast_mem hne)
    have hhead := isBlank_head_of_negates h' (b.isBlank_head rest)
    have hjoined := b.startsJoined_opening h' rest
    -- The junction begins at the last blank before the connective.
    have hjunction : startsJunction (left.getLast hne ::
        (word ++ (right ++ (negation ++ (b.opening ++ rest))))) = true := by
      rw [startsJunction, hblank, Bool.true_and, Bool.or_eq_true]
      rcases hword with hand | hor
      · have hfold := map_foldLetter_of_isWordOf (by decide) hand
        exact .inl (by rw [afterWord?_append hfold hright hhead, Option.any_some, hjoined])
      · have hfold := map_foldLetter_of_isWordOf (by decide) hor
        exact .inr (by rw [afterWord?_append hfold hright hhead, Option.any_some, hjoined])
    have hwhole := isCompound_append (before ++ left.dropLast) hjunction
    rw [List.append_cons, List.append_assoc before, List.dropLast_concat_getLast] at hwhole
    simpa only [List.append_assoc] using hwhole

theorem normalize_of_isCompound {condition : String}
    (h : isCompound (trim condition.toList) = true) : normalize condition = strip condition := by
  rw [normalize, normalizeTrimmed, if_pos h, strip]

/-! ## One comparison in the end -/

theorem Written.trim_parenthesis (w : Written) (cs : List Char) :
    trim (w.opening ++ (cs ++ [')'])) = w.opening ++ (cs ++ [')']) := by
  have hlast : ∃ c ∈ [')'], isBlank c = false := ⟨')', List.mem_cons_self, by decide⟩
  have hrest : ∃ c ∈ cs ++ [')'], isBlank c = false :=
    ⟨')', List.mem_append_right _ List.mem_cons_self, by decide⟩
  rw [w.trim_opening hrest, trimRight_append _ hlast]
  rfl

theorem splitOperator?_isSome {op rest : List Char} (hop : op ∈ operators.map String.toList)
    (hrest : ∃ c ∈ rest, isBlank c = false) : (Simple.splitOperator? (op ++ rest)).isSome := by
  obtain ⟨name, hname, rfl⟩ := List.mem_map.1 hop
  refine List.findSome?_isSome_iff.2 ⟨name, hname, ?_⟩
  have hne : (rest.dropWhile isBlank).isEmpty = false := by
    rw [List.isEmpty_eq_false_iff, Ne, List.dropWhile_eq_nil_iff]
    obtain ⟨c, hmem, hc⟩ := hrest
    exact fun hall => absurd ((hall c hmem).symm.trans hc) nofun
  rw [dropStart?_eq_some_iff.2 rfl]
  dsimp only
  rw [hne]
  rfl

/-- A comparison that ends with a parenthesis gets quotes unless it is compound. -/
theorem exists_isBare_of_parenthesis (w : Written) {cs : List Char}
    (h : isCompound (w.opening ++ (cs ++ [')'])) = false) :
    ∃ c, IsBare (String.ofList (w.opening ++ (cs ++ [')']))) c := by
  have htrim := w.trim_parenthesis cs
  have hafter : ∃ c ∈ w.after ++ (cs ++ [')']), isBlank c = false :=
    ⟨')', by simp, by decide⟩
  obtain ⟨⟨op, value⟩, hsplit⟩ :=
    Option.isSome_iff_exists.1 (splitOperator?_isSome w.known_operator hafter)
  have hread : Simple.read? (w.opening ++ (cs ++ [')'])) = some ⟨w.field, op, trim value⟩ := by
    rw [read?_opening, hsplit]
    rfl
  refine ⟨⟨w.field, op, trim value⟩, ?_, ?_, ?_⟩
  · rw [String.toList_ofList, htrim, h]
  · rw [String.toList_ofList, htrim, hread]
  · obtain ⟨w', hchars, -, -, hvalue, hne, -⟩ := exists_written_of_read? htrim hread
    refine Literal.isLiteral_eq_false_of_parenthesis ?_
    rw [← hvalue, ← List.getLast?_append_of_ne_nil w'.opening hne]
    change w'.chars.getLast? = some ')'
    rw [hchars, ← List.append_assoc, List.getLast?_concat]

theorem getLast?_normalize {condition : String} {c : Simple} (h : IsBare condition c) :
    (normalize condition).toList.getLast? = some '\'' := by
  rw [normalize_of_isBare h, String.toList_append, Literal.ofText, String.toList_ofList,
    Literal.quote, ← List.append_assoc, List.getLast?_concat]

/-! ## Joined comparisons -/

/-- Two comparisons, the second perhaps negated. -/
def joined (a b : Written) (connective negation : List Char) : List Char :=
  a.chars ++ (connective ++ (negation ++ b.chars))

/-- A comparison, a connective, and anything that ends with a parenthesis. -/
def enclosed (a : Written) (connective inside : List Char) : List Char :=
  a.chars ++ (connective ++ (inside ++ [')']))

/-- Comparisons that are joined by `and` or `or` stay as they are written, apart from the blanks
around them, also where the second is negated.  Where the second stands in parentheses, the text
is kept only if something else in it is a junction. -/
theorem normalize_joined (a b : Written) {connective negation : List Char}
    (hconnects : Connects connective) (hnegates : Negates negation) :
    ((∃ c ∈ b.value, isBlank c = false) →
      normalize (String.ofList (joined a b connective negation)) =
        strip (String.ofList (joined a b connective negation))) ∧
    ∀ inside : List Char,
      normalize (String.ofList (enclosed a connective inside)) =
        strip (String.ofList (enclosed a connective inside)) ↔
      isCompound (enclosed a connective inside) = true := by
  constructor
  · intro hvalue
    apply normalize_of_isCompound
    have hjoined : joined a b connective negation =
        a.opening ++ ((a.value ++ (connective ++ (negation ++ b.opening))) ++ b.value) := by
      simp only [joined, Written.chars, List.append_assoc]
    have hrest : ∃ c ∈ (a.value ++ (connective ++ (negation ++ b.opening))) ++ b.value,
        isBlank c = false := by
      obtain ⟨c, hmem, hc⟩ := hvalue
      exact ⟨c, List.mem_append_right _ hmem, hc⟩
    rw [String.toList_ofList, hjoined, a.trim_opening hrest, trimRight_append _ hvalue]
    have hcompound := isCompound_of_connects hconnects hnegates b a.chars (trimRight b.value)
    simpa only [Written.chars, List.append_assoc] using hcompound
  · intro inside
    have henclosed : enclosed a connective inside =
        a.opening ++ ((a.value ++ (connective ++ inside)) ++ [')']) := by
      simp only [enclosed, Written.chars, List.append_assoc]
    have htrim : trim (enclosed a connective inside) = enclosed a connective inside := by
      rw [henclosed, a.trim_parenthesis]
    constructor
    · intro hsame
      -- A text that got quotes ends with a quote, this one with a parenthesis.
      by_contra hnot
      rw [Bool.not_eq_true, henclosed] at hnot
      obtain ⟨c, hbare⟩ := exists_isBare_of_parenthesis a hnot
      have hlast := getLast?_normalize hbare
      rw [← henclosed, hsame, strip, String.toList_ofList, String.toList_ofList, htrim,
        henclosed, ← List.append_assoc, List.getLast?_concat] at hlast
      cases hlast
    · intro hcompound
      exact normalize_of_isCompound (by rw [String.toList_ofList, htrim, hcompound])

def stageWon : Written :=
  .spaced "Stage".toList ['='] "Closed Won".toList (by decide +kernel) known_equal

def amountPositive : Written :=
  .spaced "Amount".toList ['>'] "0 ".toList (by decide +kernel) known_greater

theorem normalize_joined_negated :
    Connects "\tAnD\n".toList ∧ Negates "nOt  ".toList ∧
      normalize "Stage = Closed Won\tAnD\nnOt  Amount > 0 " =
        "Stage = Closed Won\tAnD\nnOt  Amount > 0" := by
  have hconnects : Connects "\tAnD\n".toList :=
    @Connects.intro ['\t'] "AnD".toList ['\n'] (by decide) (.inl (by decide)) (by decide)
  have hnegates : Negates "nOt  ".toList :=
    @Negates.intro "nOt".toList [' ', ' '] (by decide) (by decide)
  have hkept := (normalize_joined stageWon amountPositive hconnects hnegates).1
    ⟨'0', by decide, by decide⟩
  refine ⟨hconnects, hnegates, hkept.trans ?_⟩
  decide

/-- A second comparison in parentheses becomes a part of the first one's value. -/
theorem normalize_enclosed :
    Connects " AND ".toList ∧ stageWon.chars = "Stage = Closed Won".toList ∧
      amountPositive.chars = "Amount > 0 ".toList ∧
      normalize "Stage = Closed Won AND (Amount > 0 )" =
        "Stage = 'Closed Won AND (Amount > 0 )'" ∧
      strip "Stage = Closed Won AND (Amount > 0 )" = "Stage = Closed Won AND (Amount > 0 )" := by
  refine ⟨?_, by decide, by decide, by decide +kernel, by decide⟩
  exact @Connects.intro [' '] "AND".toList [' '] (by decide) (.inl (by decide)) (by decide)

end Condition
end CrossCheck
