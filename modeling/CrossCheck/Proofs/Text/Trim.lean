import CrossCheck.Proofs.Text
import Mathlib.Data.List.DropRight

/-!
Trimmed texts: those that neither begin nor end with a blank.  Trimming gives one of them, and
leaves them as they are.  Pieces between separators hold no separator.
-/

namespace CrossCheck.Text

/-! ## Trimming -/

theorem trimRight_prefix (cs : List Char) : trimRight cs <+: cs :=
  List.rdropWhile_prefix isBlank cs

theorem isBlank_head_trim {cs : List Char} {c : Char} (h : (trim cs).head? = some c) :
    isBlank c = false := by
  obtain ⟨rest, hrest⟩ := trimRight_prefix (trimLeft cs)
  have hhead : (cs.dropWhile isBlank).head? = some c := by
    have hleft : (trim cs ++ rest).head? = some c := by rw [List.head?_append, h, Option.some_or]
    rw [← hleft]
    exact congrArg List.head? hrest.symm
  have hnot := List.head?_dropWhile_not isBlank cs
  rw [hhead] at hnot
  simpa using hnot

theorem isBlank_last_trim {cs : List Char} {c : Char} (h : (trim cs).getLast? = some c) :
    isBlank c = false := by
  rw [trim, trimRight, List.getLast?_reverse] at h
  have hnot := List.head?_dropWhile_not isBlank (trimLeft cs).reverse
  rw [h] at hnot
  simpa using hnot

theorem dropWhile_eq_self {cs : List Char} (h : ∀ c, cs.head? = some c → isBlank c = false) :
    cs.dropWhile isBlank = cs := by
  cases cs with
  | nil => rfl
  | cons c cs => rw [List.dropWhile_cons_of_neg (by rw [h c rfl]; exact Bool.false_ne_true)]

theorem trim_eq_self {cs : List Char} (hhead : ∀ c, cs.head? = some c → isBlank c = false)
    (hlast : ∀ c, cs.getLast? = some c → isBlank c = false) : trim cs = cs := by
  have hleft : trimLeft cs = cs := dropWhile_eq_self hhead
  have hright : cs.reverse.dropWhile isBlank = cs.reverse := by
    refine dropWhile_eq_self fun c hc => hlast c ?_
    rw [← List.head?_reverse]
    exact hc
  rw [trim, hleft, trimRight, hright, List.reverse_reverse]

/-- Trimming leaves nothing to trim. -/
theorem trim_trim (cs : List Char) : trim (trim cs) = trim cs :=
  trim_eq_self (fun _ => isBlank_head_trim) (fun _ => isBlank_last_trim)

/-- Trimmed texts make a trimmed text, unless one of them is nothing. -/
theorem trim_append {xs ys : List Char} (hx : trim xs = xs) (hy : trim ys = ys) (hxne : xs ≠ [])
    (hyne : ys ≠ []) : trim (xs ++ ys) = xs ++ ys := by
  refine trim_eq_self (fun c hc => ?_) (fun c hc => ?_)
  · rw [List.head?_append_of_ne_nil _ hxne, ← hx] at hc
    exact isBlank_head_trim hc
  · rw [List.getLast?_append_of_ne_nil _ hyne, ← hy] at hc
    exact isBlank_last_trim hc

theorem strip_eq_self_iff {s : String} : strip s = s ↔ trim s.toList = s.toList := by
  rw [strip, ← String.toList_inj, String.toList_ofList]

/-! ## Splitting -/

theorem splitOn_of_not_mem {sep : Char} {cs : List Char} (h : sep ∉ cs) :
    splitOn sep cs = [cs] := by
  induction cs with
  | nil => rfl
  | cons c cs ih =>
    have hc : c ≠ sep := fun hc => h (hc ▸ List.mem_cons_self)
    have hrest : sep ∉ cs := fun hmem => h (List.mem_cons_of_mem c hmem)
    rw [splitOn, if_neg hc, ih hrest]

theorem not_mem_of_mem_splitOn {sep : Char} {cs piece : List Char} (h : piece ∈ splitOn sep cs) :
    sep ∉ piece := by
  induction cs generalizing piece with
  | nil =>
    rw [List.mem_singleton.1 h]
    exact List.not_mem_nil
  | cons c cs ih =>
    rw [splitOn] at h
    split at h
    · rcases List.mem_cons.1 h with rfl | h
      · exact List.not_mem_nil
      · exact ih h
    · next hc =>
      cases hpieces : splitOn sep cs with
      | nil => exact absurd hpieces (splitOn_ne_nil sep cs)
      | cons first pieces =>
        rw [hpieces] at h ih
        rcases List.mem_cons.1 h with rfl | h
        · intro hmem
          rcases List.mem_cons.1 hmem with heq | hmem
          · exact hc heq.symm
          · exact ih List.mem_cons_self hmem
        · exact ih (List.mem_cons_of_mem first h)

end CrossCheck.Text
