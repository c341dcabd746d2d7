import CrossCheck.Condition.Literal
import CrossCheck.Proofs.Calendar.Written
import CrossCheck.Proofs.Text.Run

/-!
What the literals of conditions are made of: numbers of a sign, a mantissa and an exponent,
keywords of their letters.  A text that ends with a parenthesis is none of them.
-/

namespace CrossCheck
namespace Literal

open Text

/-! ## Keywords -/

/-- Every word that stands for a value, and the words before the count of a span. -/
def words : List String := ["true", "false", "null"] ++ dateKeywords ++ spanWords

/-- Whether keywords and their counts are written without a character. -/
def isForeign (c : Char) : Bool :=
  foldLetter c = c && upperChar c = [c] && !isDigit c && c ≠ ':' &&
    words.all fun word => !word.toList.contains c

section
variable {c : Char} (hc : isForeign c = true)
include hc

theorem not_mem_word {word : String} (hword : word ∈ words) : c ∉ word.toList := by
  simp only [isForeign, Bool.and_eq_true, List.all_eq_true] at hc
  have := hc.2 word hword
  simpa using this

theorem not_mem_of_map_foldLetter {cs : List Char} (word : String) (hword : word ∈ words)
    (h : cs.map foldLetter = word.toList) : c ∉ cs := by
  intro hmem
  have hfold : foldLetter c = c := by
    simp only [isForeign, Bool.and_eq_true, decide_eq_true_eq] at hc
    exact hc.1.1.1.1
  have hletter := List.mem_map_of_mem (f := foldLetter) hmem
  rw [hfold, h] at hletter
  exact not_mem_word hc hword hletter

theorem not_mem_of_isBoolOrNull {cs : List Char} (h : isBoolOrNull cs = true) : c ∉ cs := by
  simp only [isBoolOrNull, Bool.or_eq_true, isKeyword_eq_true_iff] at h
  rcases h with (h | h) | h
  · exact not_mem_of_map_foldLetter hc "true" (by decide) h
  · exact not_mem_of_map_foldLetter hc "false" (by decide) h
  · exact not_mem_of_map_foldLetter hc "null" (by decide) h

theorem not_mem_of_isDateKeyword {cs : List Char} (h : isDateKeyword cs = true) : c ∉ cs := by
  intro hmem
  have hupper : upperChar c = [c] := by
    simp only [isForeign, Bool.and_eq_true, decide_eq_true_eq] at hc
    exact hc.1.1.1.2
  have hword : String.ofList (upperChars cs) ∈ words :=
    List.mem_append_left _ (List.mem_append_right _ (List.elem_iff.1 h))
  refine not_mem_word hc hword ?_
  rw [String.toList_ofList, upperChars, List.mem_flatMap]
  exact ⟨c, hmem, by rw [hupper]; exact List.mem_cons_self⟩

theorem not_mem_of_isCountedSpan {cs : List Char} (h : isCountedSpan cs = true) : c ∉ cs := by
  have hplain : isDigit c = false ∧ c ≠ ':' := by
    simp only [isForeign, Bool.and_eq_true, decide_eq_true_eq, Bool.not_eq_true'] at hc
    exact ⟨hc.1.1.2, hc.1.2⟩
  obtain ⟨word, hword, hspan⟩ := List.any_eq_true.1 h
  split at hspan
  · next count hdrop =>
    obtain ⟨start, hstart, rfl⟩ := dropKeyword?_eq_some_iff.1 hdrop
    have hdigits := List.all_eq_true.1 (Bool.and_eq_true_iff.1 hspan).2
    intro hmem
    rcases List.mem_append.1 hmem with hmem | hmem
    · exact not_mem_of_map_foldLetter hc word (List.mem_append_right _ hword) hstart hmem
    rcases List.mem_cons.1 hmem with heq | hmem
    · exact hplain.2 heq
    · exact absurd ((hdigits c hmem).symm.trans hplain.1) nofun
  · cases hspan

end

/-! ## Numbers -/

/-- At most one sign. -/
def IsSigning (cs : List Char) : Prop := cs = [] ∨ cs = ['+'] ∨ cs = ['-']

theorem exists_sign (cs : List Char) : ∃ sign, IsSigning sign ∧ cs = sign ++ dropSign cs := by
  unfold dropSign
  split
  · exact ⟨['+'], .inr (.inl rfl), rfl⟩
  · exact ⟨['-'], .inr (.inr rfl), rfl⟩
  · exact ⟨[], .inl rfl, rfl⟩

def isMantissa (c : Char) : Bool := isDigit c || c = '.'

theorem all_isMantissa_of_digits {cs : List Char} (h : cs.all isDigit = true) :
    cs.all isMantissa = true :=
  all_of_all (fun c hc => by rw [isMantissa, hc, Bool.true_or]) h

theorem dropMantissa?_sound {cs rest : List Char} (h : dropMantissa? cs = some rest) :
    ∃ mantissa, mantissa.all isMantissa = true ∧ cs = mantissa ++ rest := by
  have hwhole := all_isMantissa_of_digits (List.all_takeWhile (p := isDigit) (l := cs))
  have hcs := List.takeWhile_append_dropWhile (p := isDigit) (l := cs)
  rw [dropMantissa?] at h
  dsimp only [span] at h
  split at h
  · next after hafter =>
    rw [Option.ite_none_left_eq_some] at h
    obtain ⟨-, heq⟩ := h
    refine ⟨cs.takeWhile isDigit ++ '.' :: after.takeWhile isDigit, ?_, ?_⟩
    · rw [List.all_append, List.all_cons, hwhole, all_isMantissa_of_digits List.all_takeWhile]
      decide
    · rw [← Option.some.inj heq, List.append_assoc, List.cons_append,
        List.takeWhile_append_dropWhile, ← hafter, hcs]
  · rw [Option.ite_none_left_eq_some] at h
    exact ⟨cs.takeWhile isDigit, hwhole, by rw [← Option.some.inj h.2, hcs]⟩

/-- What stands behind the mantissa: nothing, or a mark, at most one sign, and digits. -/
inductive ExponentForm : List Char → Prop where
  | none : ExponentForm []
  | some {e : Char} {sign digits : List Char} (he : e = 'e' ∨ e = 'E') (hsign : IsSigning sign)
      (hdigits : digits.all isDigit = true) : ExponentForm (e :: (sign ++ digits))

theorem exponentForm_of_isExponent {cs : List Char} (h : isExponent cs = true) :
    ExponentForm cs := by
  cases cs with
  | nil => exact .none
  | cons e rest =>
    simp only [isExponent, Bool.and_eq_true, Bool.or_eq_true, decide_eq_true_eq] at h
    obtain ⟨sign, hsign, hrest⟩ := exists_sign rest
    rw [hrest]
    exact .some h.1.1 hsign h.2

theorem isNumber_sound {cs : List Char} (h : isNumber cs = true) :
    ∃ sign mantissa exponent, IsSigning sign ∧ mantissa.all isMantissa = true ∧
      ExponentForm exponent ∧ cs = sign ++ (mantissa ++ exponent) := by
  obtain ⟨rest, hrest, hexponent⟩ := (Option.any_eq_true _ _).1 h
  obtain ⟨sign, hsign, hcs⟩ := exists_sign cs
  obtain ⟨mantissa, hmantissa, hdrop⟩ := dropMantissa?_sound hrest
  exact ⟨sign, mantissa, rest, hsign, hmantissa, exponentForm_of_isExponent hexponent,
    hdrop ▸ hcs⟩

def isNumberChar (c : Char) : Bool := isMantissa c || ['+', '-', 'e', 'E'].contains c

theorem all_isNumberChar_of_mantissa {cs : List Char} (h : cs.all isMantissa = true) :
    cs.all isNumberChar = true :=
  all_of_all (fun c hc => by rw [isNumberChar, hc, Bool.true_or]) h

theorem all_isNumberChar_of_signing {cs : List Char} (h : IsSigning cs) :
    cs.all isNumberChar = true := by
  rcases h with rfl | rfl | rfl <;> decide

theorem all_isNumberChar {cs : List Char} (h : isNumber cs = true) :
    cs.all isNumberChar = true := by
  obtain ⟨sign, mantissa, exponent, hsign, hmantissa, hexponent, rfl⟩ := isNumber_sound h
  have htail : exponent.all isNumberChar = true := by
    cases hexponent with
    | none => rfl
    | @some e _ _ he hsign hdigits =>
      have hmark : isNumberChar e = true := by rcases he with rfl | rfl <;> decide
      rw [List.all_cons, hmark, List.all_append, all_isNumberChar_of_signing hsign,
        all_isNumberChar_of_mantissa (all_isMantissa_of_digits hdigits)]
      rfl
  rw [List.all_append, List.all_append, all_isNumberChar_of_signing hsign,
    all_isNumberChar_of_mantissa hmantissa, htail]
  rfl

/-! ## All literals -/

/-- A literal is quoted, a number, a time, or made of the characters of keywords. -/
theorem isLiteral_cases {cs : List Char} (h : isLiteral cs = true) :
    isQuoted cs = true ∨ isNumber cs = true ∨
      (WrittenTime.isDay cs = true ∨ WrittenTime.isMoment cs = true) ∨
        ∀ c, isForeign c = true → c ∉ cs := by
  simp only [isLiteral, Bool.or_eq_true] at h
  rcases h with (((((h | h) | h) | h) | h) | h) | h
  · exact .inl h
  · exact .inr (.inl h)
  · exact .inr (.inr (.inr fun c hc => not_mem_of_isBoolOrNull hc h))
  · exact .inr (.inr (.inl (.inl h)))
  · exact .inr (.inr (.inl (.inr h)))
  · exact .inr (.inr (.inr fun c hc => not_mem_of_isDateKeyword hc h))
  · exact .inr (.inr (.inr fun c hc => not_mem_of_isCountedSpan hc h))

theorem isLiteral_of_isDate {t : WrittenTime} (h : t.IsDate) : isLiteral t.chars = true := by
  have htime := WrittenTime.isDay_or_isMoment_iff.2 ⟨t, h, rfl⟩
  simp only [isLiteral, Bool.or_eq_true]
  rcases htime with hday | hmoment
  · exact .inl (.inl (.inl (.inr hday)))
  · exact .inl (.inl (.inr hmoment))

theorem getLast?_of_isQuoted {cs : List Char} (h : isQuoted cs = true) :
    cs.getLast? = some '\'' ∨ cs.getLast? = some '"' := by
  unfold isQuoted at h
  split at h
  · simp only [Bool.and_eq_true, Bool.or_eq_true, decide_eq_true_eq] at h
    obtain ⟨rfl | rfl, hlast⟩ := h
    · exact .inl hlast
    · exact .inr hlast
  · cases h

/-- No literal ends with a parenthesis. -/
theorem isLiteral_eq_false_of_parenthesis {cs : List Char} (h : cs.getLast? = some ')') :
    isLiteral cs = false := by
  refine Bool.eq_false_iff.2 fun hliteral => ?_
  have hmem : ')' ∈ cs := List.mem_of_getLast? h
  rcases isLiteral_cases hliteral with hquoted | hnumber | (hday | hmoment) | hword
  · rcases getLast?_of_isQuoted hquoted with hlast | hlast <;> rw [h] at hlast <;> cases hlast
  · exact not_mem_of_all (by decide) (all_isNumberChar hnumber) hmem
  · have hform := WrittenTime.isDay_eq_true_iff.1 hday
    exact not_mem_of_all (by decide) hform.all_isTimeChar hmem
  · obtain ⟨t, hform, -, rfl⟩ := WrittenTime.isMoment_eq_true_iff.1 hmoment
    exact not_mem_of_all (by decide) (WrittenTime.all_isTimeChar_chars hform) hmem
  · exact hword ')' (by decide +kernel) hmem

end Literal
end CrossCheck
