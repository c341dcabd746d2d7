import CrossCheck.Proofs.Condition.Written
import CrossCheck.Proofs.Query.Literal

/-!
Normal conditions.  Normalizing a condition either only trims it, or quotes the value of a single
comparison: the field and the operator stay, the literal stands for the value, and what comes out
is normal.
-/

namespace CrossCheck

namespace Literal

/-! ## The inside of a literal -/

/-- What may stand between two marks: any character that is neither the mark nor a backslash, and
any character at all behind a backslash. -/
inductive Fits (mark : Char) : List Char → Prop where
  | nil : Fits mark []
  | plain {c : Char} {cs : List Char} (hmark : c ≠ mark) (hbackslash : c ≠ '\\')
      (h : Fits mark cs) : Fits mark (c :: cs)
  | escaped {c : Char} {cs : List Char} (h : Fits mark cs) : Fits mark ('\\' :: c :: cs)

/-- A backslash gives way to the character behind it. -/
def unescape : List Char → List Char
  | '\\' :: c :: cs => c :: unescape cs
  | c :: cs => c :: unescape cs
  | [] => []

/-- The characters that stand behind a backslash. -/
def escapedChars : List Char → List Char
  | '\\' :: c :: cs => c :: escapedChars cs
  | _ :: cs => escapedChars cs
  | [] => []

theorem unescape_plain {c : Char} (hc : c ≠ '\\') (cs : List Char) :
    unescape (c :: cs) = c :: unescape cs := by
  rw [unescape]
  exact fun d after hd _ => hc hd

theorem escapedChars_plain {c : Char} (hc : c ≠ '\\') (cs : List Char) :
    escapedChars (c :: cs) = escapedChars cs := by
  rw [escapedChars]
  exact fun d after hd _ => hc hd

/-- Escaping loses nothing. -/
theorem unescape_escape (value : List Char) : unescape (escape value) = value := by
  induction value with
  | nil => rfl
  | cons c value ih =>
    by_cases hc : c = '\'' ∨ c = '\\'
    · rw [Query.escape_cons_marked hc, unescape, ih]
    · obtain ⟨hquote, hbackslash⟩ := not_or.1 hc
      rw [Query.escape_cons_plain hquote hbackslash, unescape_plain hbackslash, ih]

theorem fits_of_not_mem {mark : Char} {cs : List Char} (hmark : mark ∉ cs)
    (hbackslash : '\\' ∉ cs) : Fits mark cs := by
  induction cs with
  | nil => exact .nil
  | cons c cs ih =>
    rw [List.mem_cons, not_or] at hmark hbackslash
    exact .plain (Ne.symm hmark.1) (Ne.symm hbackslash.1) (ih hmark.2 hbackslash.2)

theorem fits_escape (value : List Char) : Fits '\'' (escape value) := by
  induction value with
  | nil => exact .nil
  | cons c value ih =>
    by_cases hc : c = '\'' ∨ c = '\\'
    · rw [Query.escape_cons_marked hc]
      exact .escaped ih
    · obtain ⟨hquote, hbackslash⟩ := not_or.1 hc
      rw [Query.escape_cons_plain hquote hbackslash]
      exact .plain hquote hbackslash ih

theorem isQuoted_of_marks {mark : Char} (h : mark = '\'' ∨ mark = '"') (body : List Char) :
    isQuoted (mark :: (body ++ [mark])) = true := by
  have hmark : (mark = '\'' || mark = '"') = true := by
    rcases h with rfl | rfl <;> rfl
  have hlast : (mark :: (body ++ [mark])).getLast? = some mark := by
    rw [← List.cons_append, List.getLast?_concat]
  cases hrest : body ++ [mark] with
  | nil => exact absurd hrest (List.append_ne_nil_of_right_ne_nil body (List.cons_ne_nil mark []))
  | cons c rest =>
    rw [hrest] at hlast
    rw [isQuoted, hmark, hlast, Bool.true_and, decide_eq_true_iff]

theorem isLiteral_of_isQuoted {cs : List Char} (h : isQuoted cs = true) : isLiteral cs = true := by
  simp only [isLiteral, h, Bool.true_or]

end Literal

namespace Condition

open Text

/-! ## A quoted value -/

/-- A comparison with the literal of its value. -/
def quotedWritten (c : Simple) (hname : isName c.field = true)
    (hknown : c.operator ∈ operators.map String.toList) : Written :=
  .spaced c.field c.operator (Literal.quote c.value) hname hknown

theorem trim_marks {mark : Char} (h : mark = '\'' ∨ mark = '"') (body : List Char) :
    trim (mark :: (body ++ [mark])) = mark :: (body ++ [mark]) := by
  have hmark : isBlank mark = false := by rcases h with rfl | rfl <;> decide
  refine trim_eq_self (fun c hc => ?_) fun c hc => ?_
  · exact Option.some.inj hc ▸ hmark
  · rw [← List.cons_append, List.getLast?_concat] at hc
    exact Option.some.inj hc ▸ hmark

theorem head_marks {mark : Char} (h : mark = '\'' ∨ mark = '"') (cs : List Char) :
    ∀ c ∈ (mark :: cs).head?, c ≠ '=' ∧ c ≠ '>' := by
  intro c hc
  obtain rfl : mark = c := Option.some.inj hc
  rcases h with rfl | rfl <;> decide

/-- What a comparison with a bare value becomes. -/
structure IsNormalized (condition : String) (c : Simple) : Prop where
  text : (normalize condition).toList =
    c.field ++ ' ' :: c.operator ++ ' ' :: Literal.quote c.value
  read : Simple.read? (normalize condition).toList =
    some { c with value := Literal.quote c.value }
  trimmed : trim (normalize condition).toList = (normalize condition).toList

/-- A comparison that gets quotes is written with its literal behind the same opening. -/
theorem exists_quotedWritten {condition : String} {c : Simple} (h : IsBare condition c) :
    ∃ w : Written, w.opening = c.opening.toList ∧ w.field = c.field ∧ w.operator = c.operator ∧
      w.value = Literal.quote c.value := by
  obtain ⟨w, -, hfield, hoperator, -, -, -⟩ :=
    exists_written_of_read? (trim_trim condition.toList) h.read
  refine ⟨quotedWritten c (hfield ▸ w.isName_field) (hoperator ▸ w.known_operator), ?_, rfl, rfl,
    rfl⟩
  rw [Simple.opening, String.toList_ofList]
  simp only [quotedWritten, Written.spaced, Written.opening, List.append_assoc, List.cons_append,
    List.nil_append]

theorem isNormalized_of_isBare {condition : String} {c : Simple} (h : IsBare condition c) :
    IsNormalized condition c := by
  obtain ⟨w, hopening, hfield, hoperator, hvalue⟩ := exists_quotedWritten h
  have hchars : (normalize condition).toList = w.chars := by
    rw [normalize_of_isBare h, String.toList_append, Literal.ofText, String.toList_ofList,
      String.toList_ofList, Written.chars, hopening, hvalue]
  have hlong : ∀ c ∈ w.value.head?, c ≠ '=' ∧ c ≠ '>' := hvalue ▸ head_marks (.inl rfl) _
  have hne : w.value ≠ [] := hvalue ▸ List.cons_ne_nil _ _
  have htrim : trim w.value = w.value := by
    rw [hvalue]
    exact trim_marks (.inl rfl) (Literal.escape c.value)
  refine ⟨?_, ?_, ?_⟩
  · rw [hchars, Written.chars, hopening, hvalue, Simple.opening, String.toList_ofList]
    simp only [List.append_assoc, List.cons_append, List.nil_append]
  · rw [hchars, read?_written w hlong htrim hne, hfield, hoperator, hvalue]
  · have hmark : ∃ d ∈ w.value, isBlank d = false := by
      rw [hvalue]
      exact ⟨'\'', List.mem_cons_self, by decide⟩
    have hright : trimRight w.value = w.value := by
      rw [hvalue] at htrim ⊢
      exact htrim
    rw [hchars, Written.chars, w.trim_opening hmark, hright]

/-! ## Normal conditions -/

theorem normalizeTrimmed_of_not_bare {cs : List Char}
    (h : ∀ c, isCompound cs = false → Simple.read? cs = some c → Literal.isLiteral c.value = true) :
    normalizeTrimmed cs = cs := by
  rw [normalizeTrimmed]
  split
  · rfl
  · next hcompound =>
    split
    · rfl
    · next c hread => rw [if_pos (h c (by simpa using hcompound) hread)]

theorem normalize_of_not_isBare {condition : String} (h : ∀ c, ¬ IsBare condition c) :
    normalize condition = strip condition := by
  rw [normalize, normalizeTrimmed_of_not_bare, strip]
  intro c hsingle hread
  by_contra hliteral
  exact h c ⟨hsingle, hread, by simpa using hliteral⟩

/-- Normalizing twice is normalizing once.  A condition is only trimmed, or it is a single
comparison with a bare value: then its field, its operator and the literal of its value are
written with single blanks, and they are read back as just these, the literal standing for the
value. -/
theorem normalize_idempotent (condition : String) :
    normalize (normalize condition) = normalize condition ∧
      ((normalize condition = strip condition ∧ ∀ c, ¬ IsBare condition c) ∨
        ∃ c, IsBare condition c ∧
          (normalize condition).toList =
            c.field ++ ' ' :: c.operator ++ ' ' :: Literal.quote c.value ∧
          Simple.read? (normalize condition).toList =
            some { c with value := Literal.quote c.value } ∧
          ∃ body, Literal.quote c.value = '\'' :: body ++ ['\''] ∧ Literal.Fits '\'' body ∧
            Literal.unescape body = c.value) := by
  by_cases hbare : ∃ c, IsBare condition c
  · obtain ⟨c, hbare⟩ := hbare
    have hnormal := isNormalized_of_isBare hbare
    refine ⟨?_, .inr ⟨c, hbare, hnormal.text, hnormal.read, Literal.escape c.value, rfl,
      Literal.fits_escape c.value, Literal.unescape_escape c.value⟩⟩
    rw [normalize, hnormal.trimmed, normalizeTrimmed_of_not_bare, String.ofList_toList]
    intro d _ hread
    obtain rfl := Option.some.inj (hnormal.read.symm.trans hread)
    exact Literal.isLiteral_of_isQuoted
      (Literal.isQuoted_of_marks (.inl rfl) (Literal.escape c.value))
  · have hnone : ∀ c, ¬ IsBare condition c := fun c hc => hbare ⟨c, hc⟩
    have hstrip := normalize_of_not_isBare hnone
    refine ⟨?_, .inl ⟨hstrip, hnone⟩⟩
    rw [hstrip, normalize_of_not_isBare, strip_eq_self_iff, strip, String.toList_ofList, trim_trim]
    intro c hc
    refine hnone c ⟨?_, ?_, hc.bare⟩
    · have hsingle := hc.single
      rwa [strip, String.toList_ofList, trim_trim] at hsingle
    · have hread := hc.read
      rwa [strip, String.toList_ofList, trim_trim] at hread

end Condition
end CrossCheck
