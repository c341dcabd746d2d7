import CrossCheck.Text.Basic

/-!
Texts joined with a separator: what stands in the whole stands in one of the texts or separates
them, and splitting the whole splits each of the texts.
-/

namespace CrossCheck.Text

theorem joinWith_cons_cons (sep cs ds : List Char) (css : List (List Char)) :
    joinWith sep (cs :: ds :: css) = cs ++ sep ++ joinWith sep (ds :: css) := rfl

theorem mem_of_mem_joinWith {sep : List Char} {css : List (List Char)} {c : Char}
    (h : c ∈ joinWith sep css) : c ∈ sep ∨ ∃ cs ∈ css, c ∈ cs := by
  fun_induction joinWith sep css with
  | case1 => exact absurd h List.not_mem_nil
  | case2 cs => exact .inr ⟨cs, List.mem_singleton_self cs, h⟩
  | case3 cs rest _ ih =>
    rcases List.mem_append.1 h with h | h
    · rcases List.mem_append.1 h with h | h
      · exact .inr ⟨cs, List.mem_cons_self, h⟩
      · exact .inl h
    · rcases ih h with h | ⟨ds, hds, h⟩
      · exact .inl h
      · exact .inr ⟨ds, List.mem_cons_of_mem cs hds, h⟩

theorem joinWith_eq_intercalate (sep : List Char) (css : List (List Char)) :
    joinWith sep css = sep.intercalate css := by
  fun_induction joinWith sep css with
  | case1 => rfl
  | case2 cs => simp
  | case3 cs rest hne ih =>
    obtain ⟨ds, css, rfl⟩ := List.exists_cons_of_ne_nil hne
    rw [ih, List.intercalate_cons_cons, List.append_assoc]

/-- A separator parts what stands before it from what stands behind it. -/
theorem splitOn_append (sep : Char) (before after : List Char) :
    splitOn sep (before ++ sep :: after) = splitOn sep before ++ splitOn sep after := by
  induction before with
  | nil => simp [splitOn]
  | cons c before ih =>
    rw [List.cons_append, splitOn, splitOn, ih]
    split
    · rfl
    · obtain ⟨piece, pieces, hpieces⟩ := List.exists_cons_of_ne_nil (splitOn_ne_nil sep before)
      rw [hpieces]
      rfl

theorem splitOn_joinWith (sep : Char) {css : List (List Char)} (h : css ≠ []) :
    splitOn sep (joinWith [sep] css) = css.flatMap (splitOn sep) := by
  fun_induction joinWith [sep] css with
  | case1 => exact absurd rfl h
  | case2 cs => rw [List.flatMap_singleton]
  | case3 cs rest hne ih =>
    rw [List.append_assoc, List.singleton_append, splitOn_append, ih hne, List.flatMap_cons]

end CrossCheck.Text
