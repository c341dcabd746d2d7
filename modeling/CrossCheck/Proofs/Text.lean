import CrossCheck.Text.Basic
import CrossCheck.Text.Case

/-!
How cutting and letter case treat single characters: a text is cut at its first separator, a change
of case leads into the runs of its table and nowhere else, and no other character has a colon for
its small form.
-/

namespace CrossCheck.Text

theorem cut_append {sep : Char} {before : List Char} (h : sep ∉ before) (after : List Char) :
    cut sep (before ++ sep :: after) = (before, some after) := by
  induction before with
  | nil => rw [List.nil_append, cut, if_pos rfl]
  | cons c before ih =>
    have hc : c ≠ sep := fun hc => h (hc ▸ List.mem_cons_self)
    have hrest : sep ∉ before := fun hmem => h (List.mem_cons_of_mem c hmem)
    rw [List.cons_append, cut, if_neg hc, ih hrest]

theorem cut_of_not_mem {sep : Char} {cs : List Char} (h : sep ∉ cs) : cut sep cs = (cs, none) := by
  induction cs with
  | nil => rfl
  | cons c cs ih =>
    have hc : c ≠ sep := fun hc => h (hc ▸ List.mem_cons_self)
    have hrest : sep ∉ cs := fun hmem => h (List.mem_cons_of_mem c hmem)
    rw [cut, if_neg hc, ih hrest]

/-- A text either holds no separator or is cut at its first one. -/
theorem cut_cases (sep : Char) (cs : List Char) :
    sep ∉ cs ∨ ∃ before after, sep ∉ before ∧ cs = before ++ sep :: after := by
  by_cases h : sep ∈ cs
  · obtain ⟨before, after, hcs, hbefore⟩ := List.eq_append_cons_of_mem h
    exact .inr ⟨before, after, hbefore, hcs⟩
  · exact .inl h

/-- Texts that agree up to their first separators agree before and after them. -/
theorem append_sep_inj {sep : Char} {xs ys as bs : List Char} (hx : sep ∉ xs) (hy : sep ∉ ys)
    (h : xs ++ sep :: as = ys ++ sep :: bs) : xs = ys ∧ as = bs := by
  have hcut := congrArg (cut sep) h
  rw [cut_append hx, cut_append hy] at hcut
  simpa using hcut

/-! ## Letter case -/

theorem toNat_ofNat (n : Nat) : (Char.ofNat n).toNat = n ∨ (Char.ofNat n).toNat = 0 := by
  by_cases h : n.isValidChar
  · rw [Char.ofNat, dif_pos h]
    exact .inl rfl
  · rw [Char.ofNat, dif_neg h]
    exact .inr rfl

/-- A character of the tables gives way to one that a run leads to, and every other one stays. -/
theorem mapCase_cases (runs : List CaseRun) (c : Char) :
    mapCase runs c = c ∨ ∃ r ∈ runs, r.first ≤ c.toNat ∧ c.toNat ≤ r.last ∧
      ((mapCase runs c).toNat = 0 ∨ r.target ≤ (mapCase runs c).toNat ∧
        (mapCase runs c).toNat ≤ r.target + (r.last - r.first)) := by
  rw [mapCase]
  split
  · next r hr =>
    have hcovers := List.find?_some hr
    simp only [CaseRun.covers, Bool.and_eq_true, decide_eq_true_eq] at hcovers
    obtain ⟨⟨hfirst, hlast⟩, _⟩ := hcovers
    refine .inr ⟨r, List.mem_of_find?_eq_some hr, hfirst, hlast, ?_⟩
    rw [CaseRun.counterpart]
    rcases toNat_ofNat (r.target + (c.toNat - r.first)) with hcode | hcode
    · exact .inr (by omega)
    · exact .inl hcode
  · exact .inl rfl

theorem mapCase_ne {runs : List CaseRun} {c d : Char} (hd : 0 < d.toNat)
    (hruns : ∀ r ∈ runs, r.target + (r.last - r.first) < d.toNat ∨ d.toNat < r.target)
    (hc : c ≠ d) : mapCase runs c ≠ d := by
  rcases mapCase_cases runs c with h | ⟨r, hr, _, _, hcode⟩
  · rwa [h]
  · rintro rfl
    have hapart := hruns r hr
    omega

theorem toLower_cases (c : Char) :
    c.toLower = c ∨ 0x41 ≤ c.toNat ∧ c.toNat ≤ 0x5a ∧ c.toLower.toNat = c.toNat + 0x20 := by
  unfold Char.toLower
  split
  · next hcapital =>
    have hlow : 0x41 ≤ c.toNat := hcapital.1
    have hhigh : c.toNat ≤ 0x5a := hcapital.2
    refine .inr ⟨hlow, hhigh, ?_⟩
    show (c.toNat + 0x20) % 2 ^ 32 = c.toNat + 0x20
    omega
  · exact .inl rfl

theorem toUpper_cases (c : Char) :
    c.toUpper = c ∨ 0x61 ≤ c.toNat ∧ c.toNat ≤ 0x7a ∧ c.toUpper.toNat + 0x20 = c.toNat := by
  unfold Char.toUpper
  split
  · next hsmall =>
    have hlow : 0x61 ≤ c.toNat := hsmall.1
    have hhigh : c.toNat ≤ 0x7a := hsmall.2
    have hshift : ('A'.val - 'a'.val).toNat = 0xffffffe0 := by decide
    refine .inr ⟨hlow, hhigh, ?_⟩
    simp only [Char.toNat, UInt32.toNat_add, hshift] at hlow hhigh ⊢
    omega
  · exact .inl rfl

theorem toLower_ne {c d : Char} (hd : d.toNat < 0x61 ∨ 0x7a < d.toNat) (hc : c ≠ d) :
    c.toLower ≠ d := by
  rcases toLower_cases c with h | ⟨_, _, hcode⟩
  · rwa [h]
  · rintro rfl
    omega

theorem toUpper_ne {c d : Char} (hd : d.toNat < 0x41 ∨ 0x5a < d.toNat) (hc : c ≠ d) :
    c.toUpper ≠ d := by
  rcases toUpper_cases c with h | ⟨_, _, hcode⟩
  · rwa [h]
  · rintro rfl
    omega

/-! ## Colons -/

theorem mapCase_lowerRuns_ne_colon {c : Char} (hc : c ≠ ':') : mapCase lowerRuns c ≠ ':' :=
  mapCase_ne (by decide) (by decide +kernel) hc

theorem colon_mem_lowerAt {before after : List Char} {c : Char} :
    ':' ∈ lowerAt before c after ↔ c = ':' := by
  constructor
  · intro h
    apply Decidable.byContradiction
    intro hc
    rw [lowerAt] at h
    split at h
    · exact toLower_ne (by decide) hc (List.mem_singleton.1 h).symm
    split at h
    · split at h <;> exact absurd h (by decide)
    split at h
    · exact absurd h (by decide)
    · exact mapCase_lowerRuns_ne_colon hc (List.mem_singleton.1 h).symm
  · rintro rfl
    exact List.mem_singleton.2 rfl

theorem colon_mem_lowerFrom {before cs : List Char} : ':' ∈ lowerFrom before cs ↔ ':' ∈ cs := by
  induction cs generalizing before with
  | nil => rfl
  | cons c cs ih =>
    rw [lowerFrom, List.mem_append, colon_mem_lowerAt, ih, List.mem_cons, eq_comm]

/-- Lowering neither makes nor removes a colon. -/
theorem colon_mem_lower {s : String} : ':' ∈ (lower s).toList ↔ ':' ∈ s.toList := by
  rw [lower, String.toList_ofList]
  exact colon_mem_lowerFrom

theorem mem_of_mem_trim {cs : List Char} {c : Char} (h : c ∈ trim cs) : c ∈ cs := by
  rw [trim, trimRight, List.mem_reverse] at h
  have hleft := List.mem_reverse.1 ((List.dropWhile_sublist _).mem h)
  exact (List.dropWhile_sublist _).mem hleft

end CrossCheck.Text
