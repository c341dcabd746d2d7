import CrossCheck.Named
import CrossCheck.Text.Basic

/-!
Texts that refer to variables.  A name between braces after a dollar sign stands for the value of a
variable; a text after `:-` inside the braces stands in where there is no such variable.
-/

namespace CrossCheck

open Text

structure Reference where
  name : String
  /-- What stands in for a variable that there is not. -/
  other : Option (List Char)
deriving DecidableEq

namespace Reference

/-- A reference after its opening brace, and what follows the closing one. -/
def read? (cs : List Char) : Option (Reference × List Char) :=
  let name := String.ofList (cs.takeWhile fun c => c ≠ '\x7d' && c ≠ ':')
  match cs.dropWhile fun c => c ≠ '\x7d' && c ≠ ':' with
  | '\x7d' :: rest => some (⟨name, none⟩, rest)
  | ':' :: '-' :: more =>
    match more.dropWhile (· ≠ '\x7d') with
    | _ :: rest => some (⟨name, some (more.takeWhile (· ≠ '\x7d'))⟩, rest)
    | [] => none
  | _ => none

theorem read?_length {cs rest : List Char} {r : Reference} (h : read? cs = some (r, rest)) :
    rest.length < cs.length := by
  have outer := (List.dropWhile_suffix (l := cs)
    fun c => decide (c ≠ '\x7d') && decide (c ≠ ':')).length_le
  unfold read? at h
  split at h
  · next heq =>
    simp only [Option.some.injEq, Prod.mk.injEq] at h
    rw [heq] at outer
    simp only [List.length_cons] at outer
    rw [← h.2]
    omega
  · next more heq =>
    have inner := (List.dropWhile_suffix (l := more) fun c => decide (c ≠ '\x7d')).length_le
    rw [heq] at outer
    split at h
    · next heq' =>
      simp only [Option.some.injEq, Prod.mk.injEq] at h
      rw [heq'] at inner
      simp only [List.length_cons] at inner outer
      rw [← h.2]
      omega
    · simp at h
  · simp at h

/-- The value of a reference.  A variable may be there without a value. -/
def value (vars : Named (Option String)) (r : Reference) : List Char :=
  match vars.get? r.name with
  | some v => (v.getD "").toList
  | none => r.other.getD []

/-- The characters and references that a text is made of. -/
def parts (cs : List Char) : List (Char ⊕ Reference) :=
  match cs with
  | [] => []
  | c :: rest =>
    if c = '$' && rest.head? = some '\x7b' then
      match _h : read? (rest.drop 1) with
      | some (r, after) => .inr r :: parts after
      | none => .inl c :: parts rest
    else .inl c :: parts rest
termination_by cs.length
decreasing_by
  · have := read?_length _h
    simp only [List.length_drop, List.length_cons] at *
    omega
  all_goals simp

/-- A text with values in place of its references. -/
def expand (vars : Named (Option String)) (s : String) : String :=
  String.ofList ((parts s.toList).flatMap fun
    | .inl c => [c]
    | .inr r => r.value vars)

/-- The variables that a text refers to. -/
def names (s : String) : List String :=
  (parts s.toList).filterMap fun
    | .inl _ => none
    | .inr r => some r.name

end Reference
end CrossCheck
