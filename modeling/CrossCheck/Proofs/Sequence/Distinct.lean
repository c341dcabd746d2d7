import Mathlib.Data.List.Induction

/-!
Lists without their repeats.  Every member stays where it occurs first, so a list that grows at
its end only grows by what is new.
-/

namespace CrossCheck.Sequence

variable {α β : Type} [BEq α] [LawfulBEq α] [BEq β] [LawfulBEq β]

theorem eraseDups_concat_of_mem {xs : List α} {x : α} (h : x ∈ xs) :
    (xs ++ [x]).eraseDups = xs.eraseDups := by
  rw [List.eraseDups_append]
  simp [List.removeAll, h]

theorem eraseDups_concat_of_not_mem {xs : List α} {x : α} (h : x ∉ xs) :
    (xs ++ [x]).eraseDups = xs.eraseDups ++ [x] := by
  rw [List.eraseDups_append]
  simp [List.removeAll, h, List.eraseDups_cons]

theorem nodup_eraseDups (xs : List α) : xs.eraseDups.Nodup := by
  induction xs using List.reverseRecOn with
  | nil => exact List.nodup_nil
  | append_singleton xs x ih =>
    by_cases hx : x ∈ xs
    · rw [eraseDups_concat_of_mem hx]
      exact ih
    · rw [eraseDups_concat_of_not_mem hx]
      refine List.nodup_append.2 ⟨ih, List.pairwise_singleton _ _, fun y hy z hz heq => ?_⟩
      rw [heq, List.mem_singleton.1 hz] at hy
      exact hx (List.mem_eraseDups.1 hy)

theorem eraseDups_filter (p : α → Bool) (xs : List α) :
    (xs.filter p).eraseDups = xs.eraseDups.filter p := by
  induction xs using List.reverseRecOn with
  | nil => rfl
  | append_singleton xs x ih =>
    cases hx : p x with
    | false =>
      have hlast : (xs ++ [x]).filter p = xs.filter p := by simp [hx]
      rw [hlast, ih]
      by_cases h : x ∈ xs
      · rw [eraseDups_concat_of_mem h]
      · simp [eraseDups_concat_of_not_mem h, hx]
    | true =>
      have hlast : (xs ++ [x]).filter p = xs.filter p ++ [x] := by simp [hx]
      rw [hlast]
      by_cases h : x ∈ xs
      · rw [eraseDups_concat_of_mem h, eraseDups_concat_of_mem (List.mem_filter.2 ⟨h, hx⟩), ih]
      · have hfilter : x ∉ xs.filter p := fun hmem => h (List.mem_filter.1 hmem).1
        rw [eraseDups_concat_of_not_mem h, eraseDups_concat_of_not_mem hfilter, ih]
        simp [hx]

/-- Members that have names of their own can be told apart by them. -/
theorem eraseDups_map {f : α → β} {xs : List α}
    (h : ∀ x ∈ xs, ∀ y ∈ xs, f x = f y → x = y) :
    (xs.map f).eraseDups = xs.eraseDups.map f := by
  induction xs using List.reverseRecOn with
  | nil => rfl
  | append_singleton xs x ih =>
    have hxs := ih fun y hy z hz => h y (List.mem_append_left _ hy) z (List.mem_append_left _ hz)
    have hmem : f x ∈ xs.map f ↔ x ∈ xs := by
      refine ⟨fun hfx => ?_, List.mem_map_of_mem⟩
      obtain ⟨y, hy, heq⟩ := List.mem_map.1 hfx
      rwa [← h y (List.mem_append_left _ hy) x (by simp) heq]
    rw [List.map_append, List.map_singleton]
    by_cases hx : x ∈ xs
    · rw [eraseDups_concat_of_mem (hmem.2 hx), eraseDups_concat_of_mem hx, hxs]
    · rw [eraseDups_concat_of_not_mem (mt hmem.1 hx), eraseDups_concat_of_not_mem hx, hxs,
        List.map_append, List.map_singleton]

end CrossCheck.Sequence
