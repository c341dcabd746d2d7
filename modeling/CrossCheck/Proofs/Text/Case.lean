import CrossCheck.Proofs.Text.Trim

/-!
Letter case and blanks.  The small forms of a character are blank if and only if the character is,
so lowering a text leaves open neither where a trimmed text begins nor where it ends.
-/

namespace CrossCheck.Text

/-! ## Single characters -/

/-- No blank is a capital letter of the table, or the small form of one. -/
theorem disjoint_lowerRuns_blankRanges :
    ∀ r ∈ lowerRuns, ∀ b ∈ blankRanges, (r.last < b.1 ∨ b.2 < r.first) ∧
      0 < b.1 ∧ (r.target + (r.last - r.first) < b.1 ∨ b.2 < r.target) := by decide +kernel

theorem isBlank_eq_false_of {c : Char} (h : ∀ b ∈ blankRanges, c.toNat < b.1 ∨ b.2 < c.toNat) :
    isBlank c = false := by
  rw [isBlank, ← Bool.not_eq_true, inRanges_eq_true_iff]
  rintro ⟨b, hb, hlow, hhigh⟩
  have hout := h b hb
  omega

theorem isBlank_mapCase_lowerRuns (c : Char) : isBlank (mapCase lowerRuns c) = isBlank c := by
  rcases mapCase_cases lowerRuns c with h | ⟨r, hr, hfirst, hlast, hcode⟩
  · rw [h]
  · have hc : isBlank c = false := by
      refine isBlank_eq_false_of fun b hb => ?_
      have hdisjoint := (disjoint_lowerRuns_blankRanges r hr b hb).1
      omega
    have hcounterpart : isBlank (mapCase lowerRuns c) = false := by
      refine isBlank_eq_false_of fun b hb => ?_
      obtain ⟨_, hpos, hdisjoint⟩ := disjoint_lowerRuns_blankRanges r hr b hb
      omega
    rw [hcounterpart, hc]

theorem isBlank_toLower (c : Char) : isBlank c.toLower = isBlank c := by
  rcases toLower_cases c with h | ⟨hlow, hhigh, hcode⟩
  · rw [h]
  · rw [isBlank_eq_false_of_visible (c := c) (by omega) (by omega),
      isBlank_eq_false_of_visible (c := c.toLower) (by omega) (by omega)]

theorem isBlank_of_mem_lowerAt {before after : List Char} {c d : Char}
    (h : d ∈ lowerAt before c after) : isBlank d = isBlank c := by
  rw [lowerAt] at h
  split at h
  · rw [List.mem_singleton.1 h]
    exact isBlank_toLower c
  split at h
  · next hsigma =>
    subst hsigma
    split at h <;> rw [List.mem_singleton.1 h] <;> decide
  split at h
  · next hdotted =>
    subst hdotted
    rcases List.mem_cons.1 h with rfl | h
    · decide
    · rw [List.mem_singleton.1 h]
      decide
  · rw [List.mem_singleton.1 h]
    exact isBlank_mapCase_lowerRuns c

theorem lowerAt_ne_nil (before after : List Char) (c : Char) : lowerAt before c after ≠ [] := by
  rw [lowerAt]
  repeat' split
  all_goals exact List.cons_ne_nil _ _

/-! ## Texts -/

theorem head?_lowerFrom (before cs : List Char) :
    (lowerFrom before cs).head?.map isBlank = cs.head?.map isBlank := by
  cases cs with
  | nil => rfl
  | cons c rest =>
    rw [lowerFrom, List.head?_append_of_ne_nil _ (lowerAt_ne_nil before rest c)]
    cases hat : lowerAt before c rest with
    | nil => exact absurd hat (lowerAt_ne_nil before rest c)
    | cons d ds =>
      have hd : d ∈ lowerAt before c rest := by
        rw [hat]
        exact List.mem_cons_self
      exact congrArg some (isBlank_of_mem_lowerAt hd)

theorem getLast?_lowerFrom (before cs : List Char) :
    (lowerFrom before cs).getLast?.map isBlank = cs.getLast?.map isBlank := by
  induction cs generalizing before with
  | nil => rfl
  | cons c rest ih =>
    cases rest with
    | nil =>
      rw [lowerFrom, lowerFrom, List.append_nil,
        List.getLast?_eq_some_getLast (lowerAt_ne_nil before [] c)]
      exact congrArg some (isBlank_of_mem_lowerAt (List.getLast_mem _))
    | cons d rest =>
      have hne : lowerFrom (c :: before) (d :: rest) ≠ [] := by
        rw [lowerFrom]
        exact List.append_ne_nil_of_left_ne_nil (lowerAt_ne_nil _ _ d) _
      rw [lowerFrom, List.getLast?_append_of_ne_nil _ hne, ih, List.getLast?_cons_cons]

theorem trim_eq_self_iff {cs : List Char} :
    trim cs = cs ↔ cs.head?.map isBlank ≠ some true ∧ cs.getLast?.map isBlank ≠ some true := by
  constructor
  · intro h
    rw [← h]
    constructor
    · intro hhead
      obtain ⟨c, hc, hblank⟩ := Option.map_eq_some_iff.1 hhead
      exact absurd hblank (by rw [isBlank_head_trim hc]; exact Bool.false_ne_true)
    · intro hlast
      obtain ⟨c, hc, hblank⟩ := Option.map_eq_some_iff.1 hlast
      exact absurd hblank (by rw [isBlank_last_trim hc]; exact Bool.false_ne_true)
  · rintro ⟨hhead, hlast⟩
    refine trim_eq_self (fun c hc => ?_) (fun c hc => ?_)
    · rw [hc] at hhead
      simpa using hhead
    · rw [hc] at hlast
      simpa using hlast

/-- Lowering neither adds a blank at an end nor takes one away. -/
theorem trim_lowerChars_iff {cs : List Char} :
    trim (lowerChars cs) = lowerChars cs ↔ trim cs = cs := by
  rw [trim_eq_self_iff, trim_eq_self_iff, lowerChars, head?_lowerFrom, getLast?_lowerFrom]

/-- A text that is lowered to what a trimmed text is lowered to is itself trimmed. -/
theorem strip_eq_self_of_lower_eq {s t : String} (h : lower s = lower (strip t)) :
    strip s = s := by
  have hchars : lowerChars s.toList = lowerChars (trim t.toList) := by
    have hlists := congrArg String.toList h
    rwa [lower, lower, strip, String.toList_ofList, String.toList_ofList,
      String.toList_ofList] at hlists
  rw [strip_eq_self_iff, ← trim_lowerChars_iff, hchars, trim_lowerChars_iff]
  exact trim_trim t.toList

end CrossCheck.Text
