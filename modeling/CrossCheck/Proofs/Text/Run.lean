import CrossCheck.Text.Basic
import CrossCheck.Text.Case
import CrossCheck.Text.Word
import Mathlib.Data.List.TakeWhile

/-!
Runs of characters of one kind, and leading texts: where a run ends, and which texts begin with a
given one, letter for letter or in any case.
-/

namespace CrossCheck.Text

/-- What holds of no code point of the intervals holds of no character in them. -/
theorem eq_false_of_inRanges {p : Char → Bool} {ranges : List (Nat × Nat)}
    (h : ∀ r ∈ ranges, ∀ n ∈ List.range' r.1 (r.2 + 1 - r.1), p (Char.ofNat n) = false)
    {c : Char} (hc : inRanges ranges c = true) : p c = false := by
  obtain ⟨r, hr, hlow, hhigh⟩ := inRanges_eq_true_iff.1 hc
  have hn : c.toNat ∈ List.range' r.1 (r.2 + 1 - r.1) := by
    rw [List.mem_range'_1]
    omega
  have hp := h r hr c.toNat hn
  rwa [Char.ofNat_toNat] at hp

theorem all_of_all {p q : Char → Bool} {cs : List Char} (hpq : ∀ c, p c = true → q c = true)
    (h : cs.all p = true) : cs.all q = true :=
  List.all_eq_true.2 fun c hc => hpq c (List.all_eq_true.1 h c hc)

theorem not_mem_of_all {p : Char → Bool} {c : Char} (hc : p c = false) {cs : List Char}
    (h : cs.all p = true) : c ∉ cs := fun hmem =>
  absurd ((List.all_eq_true.1 h c hmem).symm.trans hc) nofun

theorem isWord_of_isBlank {c : Char} (h : isBlank c = true) : isWord c = false :=
  eq_false_of_inRanges (p := isWord) (by decide +kernel) h

theorem dropStart?_eq_some_iff {start cs rest : List Char} :
    dropStart? start cs = some rest ↔ cs = start ++ rest := by
  induction start generalizing cs with
  | nil => rw [dropStart?, Option.some_inj, List.nil_append]
  | cons s start ih =>
    cases cs with
    | nil => simp [dropStart?]
    | cons c cs =>
      rw [dropStart?]
      split
      · next hc => rw [ih, hc, List.cons_append, List.cons_inj_right]
      · next hc => simp [hc]

/-- The texts that begin with a keyword. -/
theorem dropKeyword?_eq_some_iff {word cs rest : List Char} :
    dropKeyword? word cs = some rest ↔
      ∃ start, start.map foldLetter = word ∧ cs = start ++ rest := by
  induction word generalizing cs with
  | nil =>
    simp only [dropKeyword?, Option.some_inj, List.map_eq_nil_iff, exists_eq_left,
      List.nil_append]
  | cons w word ih =>
    cases cs with
    | nil =>
      refine iff_of_false nofun ?_
      rintro ⟨start, hstart, heq⟩
      rw [(List.append_eq_nil_iff.1 heq.symm).1] at hstart
      cases hstart
    | cons c cs =>
      rw [dropKeyword?]
      split
      · next hc =>
        rw [ih]
        constructor
        · rintro ⟨start, hstart, rfl⟩
          exact ⟨c :: start, by rw [List.map_cons, hc, hstart], rfl⟩
        · rintro ⟨start, hstart, heq⟩
          obtain ⟨d, more, rfl, hd, hmore⟩ := List.map_eq_cons_iff.1 hstart
          exact ⟨more, hmore, (List.cons.inj heq).2⟩
      · next hc =>
        refine iff_of_false nofun ?_
        rintro ⟨start, hstart, heq⟩
        obtain ⟨d, more, rfl, hd, -⟩ := List.map_eq_cons_iff.1 hstart
        rw [(List.cons.inj heq).1] at hc
        exact hc hd

theorem isKeyword_eq_true_iff {word : String} {cs : List Char} :
    isKeyword word cs = true ↔ cs.map foldLetter = word.toList := by
  rw [isKeyword, decide_eq_true_iff, dropKeyword?_eq_some_iff]
  constructor
  · rintro ⟨start, hstart, rfl⟩
    rw [List.append_nil, hstart]
  · exact fun h => ⟨cs, h, (List.append_nil cs).symm⟩

/-- A run of one kind ends where a character of another kind comes. -/
theorem span_append {p : Char → Bool} {cs rest : List Char} (hcs : cs.all p = true)
    (hrest : ∀ c ∈ rest.head?, p c = false) : span p (cs ++ rest) = (cs, rest) := by
  have hall : ∀ c ∈ cs, p c = true := List.all_eq_true.1 hcs
  have htake : rest.takeWhile p = [] ∧ rest.dropWhile p = rest := by
    cases rest with
    | nil => exact ⟨rfl, rfl⟩
    | cons c rest => simp [hrest c rfl]
  rw [span, List.takeWhile_append_of_pos hall, List.dropWhile_append_of_pos hall, htake.1, htake.2,
    List.append_nil]

theorem dropWhile_append {p : Char → Bool} {cs rest : List Char} (hcs : cs.all p = true)
    (hrest : ∀ c ∈ rest.head?, p c = false) : (cs ++ rest).dropWhile p = rest :=
  congrArg Prod.snd (span_append hcs hrest)

theorem trimRight_append (xs : List Char) {ys : List Char} (h : ∃ c ∈ ys, isBlank c = false) :
    trimRight (xs ++ ys) = xs ++ trimRight ys := by
  have hne : ys.reverse.dropWhile isBlank ≠ [] := by
    rw [Ne, List.dropWhile_eq_nil_iff]
    obtain ⟨c, hmem, hc⟩ := h
    exact fun hall => absurd ((hall c (List.mem_reverse.2 hmem)).symm.trans hc) nofun
  rw [trimRight, trimRight, List.reverse_append, List.dropWhile_append,
    List.isEmpty_eq_false_iff.2 hne, if_neg Bool.false_ne_true, List.reverse_append,
    List.reverse_reverse]

end CrossCheck.Text
