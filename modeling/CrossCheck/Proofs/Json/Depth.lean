import CrossCheck.Proofs.Json.RoundTrip

/-!
The other side of the round trip: what is nested more deeply than the reader allows is written all
the same, and then refused.
-/

namespace CrossCheck
namespace Json

open Text

/-! ## Refusals -/

theorem value?_list_refused {fuel depth : Nat} {cs : List Char}
    (hopen : ∀ after, skipBlanks cs ≠ ']' :: after)
    (h : ∀ d, depth = d + 1 → items? fuel d cs = none) :
    value? (fuel + 1) depth ('[' :: cs) = none := by
  cases depth with
  | zero =>
    simp only [value?, skipBlanks_cons (show isBlank '[' = false by decide)]
    exact if_pos trivial
  | succ d =>
    rw [value?_list hopen, h d rfl]
    rfl

theorem value?_record_refused {fuel depth : Nat} {cs : List Char}
    (hopen : ∀ after, skipBlanks cs ≠ '\x7d' :: after)
    (h : ∀ d, depth = d + 1 → members? fuel d cs = none) :
    value? (fuel + 1) depth ('\x7b' :: cs) = none := by
  cases depth with
  | zero =>
    simp only [value?, skipBlanks_cons (show isBlank '\x7b' = false by decide)]
    exact if_pos trivial
  | succ d =>
    rw [value?_record hopen, h d rfl]
    rfl

theorem items?_first_refused {fuel depth : Nat} {cs : List Char}
    (h : value? fuel depth cs = none) : items? (fuel + 1) depth cs = none := by
  rw [items?, h]
  rfl

theorem members?_first_refused {fuel depth : Nat} {body after : List Char} {name : String}
    (hname : text? body = some (name, ':' :: ' ' :: after))
    (h : value? fuel depth after = none) : members? (fuel + 1) depth ('"' :: body) = none := by
  rw [← value?_blank] at h
  simp only [members?, skipBlanks_cons (show isBlank '"' = false by decide), hname,
    skipBlanks_cons (show isBlank ':' = false by decide), h, Option.bind_eq_bind,
    Option.bind_some, Option.bind_none]

/-! ## What is nested too deeply -/

variable {plain : Char → Bool}

/-- Whatever begins a value, it closes no list. -/
theorem skipBlanks_line_ne (hplain : ∀ c, plain c = true → 0x20 ≤ c.toNat) {v : Value}
    (hv : IsJson v) (hfits : isWritableWith isReadable v = true) {rest : List Char}
    (hrest : EndsNumber rest) (after : List Char) :
    skipBlanks (line plain v ++ rest) ≠ ']' :: after :=
  skipBlanks_ne_of_value? (value?_line hplain v hv hfits (Nat.le_refl _) (Nat.le_refl _) hrest) after

theorem skipBlanks_lines_ne (hplain : ∀ c, plain c = true → 0x20 ≤ c.toNat) {v : Value}
    (vs : List Value) (hv : IsJson v) (hfits : isWritableWith isReadable v = true)
    (rest after : List Char) :
    skipBlanks (joinWith [',', ' '] (lines plain (v :: vs)) ++ ']' :: rest) ≠ ']' :: after := by
  cases vs with
  | nil => exact skipBlanks_line_ne hplain hv hfits (endsNumber_cons (by decide) rest) after
  | cons w vs =>
    rw [joinWith_lines, List.append_assoc, List.append_assoc]
    exact skipBlanks_line_ne hplain hv hfits (endsNumber_cons (by decide) _) after

/-- What begins a member closes no record. -/
theorem skipBlanks_memberLines_ne (m : String × Value) (ms : List (String × Value))
    (rest after : List Char) :
    skipBlanks (joinWith [',', ' '] (memberLines plain (m :: ms)) ++ rest) ≠ '\x7d' :: after := by
  obtain ⟨cs, hcs⟩ : ∃ cs, joinWith [',', ' '] (memberLines plain (m :: ms)) ++ rest =
      '"' :: cs := by
    cases ms with
    | nil => exact ⟨_, rfl⟩
    | cons n ms => exact ⟨_, rfl⟩
  rw [hcs, skipBlanks_cons (by decide)]
  exact fun h => absurd (List.cons.inj h).1 (by decide)

mutual

theorem value?_line_deep (hplain : ∀ c, plain c = true → 0x20 ≤ c.toNat) (v : Value)
    (hv : IsJson v) (hfits : isWritableWith isReadable v = true) {fuel depth : Nat}
    (hfuel : (line plain v).length ≤ fuel) (hdeep : depth < nesting v) (rest : List Char) :
    value? fuel depth (line plain v ++ rest) = none := by
  obtain ⟨fuel, rfl⟩ := exists_fuel hv hfuel
  match v with
  | .list [] => exact absurd hdeep (Nat.not_lt_zero _)
  | .list (v :: vs) =>
    have hfits := Bool.and_eq_true_iff.1 hfits
    rw [line, List.cons_append, List.cons_append, List.append_assoc]
    refine value?_list_refused (skipBlanks_lines_ne hplain vs hv.1 hfits.1 rest) ?_
    rintro d rfl
    exact items?_lines_deep hplain v vs hv.1 hv.2 hfits.1 hfits.2 (length_lines_lt hfuel) hdeep rest
  | .record [] => exact absurd hdeep (Nat.not_lt_zero _)
  | .record ((name, v) :: ms) =>
    have hfits := Bool.and_eq_true_iff.1 hfits
    rw [line, List.cons_append, List.cons_append, List.append_assoc]
    refine value?_record_refused (skipBlanks_memberLines_ne (name, v) ms _) ?_
    rintro d rfl
    exact members?_lines_deep hplain name v ms hv.2.1 hv.2.2.1 hv.2.2.2 hfits.1 hfits.2
      (length_memberLines_lt hfuel) hdeep rest
termination_by fuel

theorem items?_lines_deep (hplain : ∀ c, plain c = true → 0x20 ≤ c.toNat) (v : Value)
    (vs : List Value) (hv : IsJson v) (hvs : AreJson vs)
    (hfits : isWritableWith isReadable v = true) (hallfit : areWritable isReadable vs = true)
    {fuel depth : Nat} (hfuel : (joinWith [',', ' '] (lines plain (v :: vs))).length < fuel)
    (hdeep : depth + 1 < nestingAll (v :: vs)) (rest : List Char) :
    items? fuel depth (joinWith [',', ' '] (lines plain (v :: vs)) ++ ']' :: rest) = none := by
  obtain ⟨fuel, rfl⟩ : ∃ f, fuel = f + 1 := ⟨fuel - 1, by omega⟩
  rw [nestingAll, lt_max_iff] at hdeep
  match vs with
  | [] =>
    have hfirst : depth < nesting v := by
      rcases hdeep with hfirst | hrest
      · omega
      · exact absurd hrest (Nat.not_lt_zero _)
    refine items?_first_refused ?_
    exact value?_line_deep hplain v hv hfits (Nat.le_of_lt_succ hfuel) hfirst _
  | w :: vs =>
    have hallfit := Bool.and_eq_true_iff.1 hallfit
    have hlen := length_line_le hfuel
    rw [joinWith_lines, List.append_assoc, List.append_assoc, List.cons_append, List.cons_append,
      List.nil_append]
    by_cases hfirst : depth < nesting v
    · exact items?_first_refused (value?_line_deep hplain v hv hfits hlen.1 hfirst _)
    · have hmore := items?_lines_deep hplain w vs hvs.1 hvs.2 hallfit.1 hallfit.2 hlen.2
        (hdeep.resolve_left fun h => hfirst (Nat.lt_of_succ_lt_succ h)) rest
      rw [items?_more (value?_line hplain v hv hfits hlen.1 (Nat.le_of_not_lt hfirst)
        (endsNumber_cons (by decide) _)), hmore]
      rfl
termination_by fuel

theorem members?_lines_deep (hplain : ∀ c, plain c = true → 0x20 ≤ c.toNat) (name : String)
    (v : Value) (ms : List (String × Value)) (hname : IsUnhalved name) (hv : IsJson v)
    (hms : MembersAreJson ms) (hfits : isWritableWith isReadable v = true)
    (hallfit : membersAreWritable isReadable ms = true) {fuel depth : Nat}
    (hfuel : (joinWith [',', ' '] (memberLines plain ((name, v) :: ms))).length < fuel)
    (hdeep : depth + 1 < nestingMembers ((name, v) :: ms)) (rest : List Char) :
    members? fuel depth (joinWith [',', ' '] (memberLines plain ((name, v) :: ms)) ++ '\x7d' :: rest) =
      none := by
  obtain ⟨fuel, rfl⟩ : ∃ f, fuel = f + 1 := ⟨fuel - 1, by omega⟩
  rw [nestingMembers, lt_max_iff] at hdeep
  match ms with
  | [] =>
    have hfirst : depth < nesting v := by
      rcases hdeep with hfirst | hrest
      · omega
      · exact absurd hrest (Nat.not_lt_zero _)
    obtain ⟨body, hbody, hread⟩ := text?_textWith hplain hname
      (':' :: ' ' :: (line plain v ++ '\x7d' :: rest))
    have hrefused := members?_first_refused hread
      (value?_line_deep hplain v hv hfits (length_member_le hfuel) hfirst _)
    rw [← hbody] at hrefused
    rw [joinWith_memberLine, List.append_assoc]
    exact hrefused
  | (other, w) :: ms =>
    have hallfit := Bool.and_eq_true_iff.1 hallfit
    have hlen := length_members_le hfuel
    obtain ⟨body, hbody, hread⟩ := text?_textWith hplain hname
      (':' :: ' ' :: (line plain v ++ ',' :: ' ' ::
        (joinWith [',', ' '] (memberLines plain ((other, w) :: ms)) ++ '\x7d' :: rest)))
    rw [joinWith_memberLines, List.append_assoc, List.append_assoc, List.append_assoc]
    have hrefused : members? (fuel + 1) depth ('"' :: body) = none := by
      by_cases hfirst : depth < nesting v
      · exact members?_first_refused hread (value?_line_deep hplain v hv hfits hlen.1 hfirst _)
      · have hmore := members?_lines_deep hplain other w ms hms.1 hms.2.1 hms.2.2 hallfit.1
          hallfit.2 hlen.2 (hdeep.resolve_left fun h => hfirst (Nat.lt_of_succ_lt_succ h)) rest
        rw [members?_more hread (value?_line hplain v hv hfits hlen.1 (Nat.le_of_not_lt hfirst)
          (endsNumber_cons (by decide) _)), hmore]
        rfl
    rw [← hbody] at hrefused
    exact hrefused
termination_by fuel

end

/-- What is stored is read back whole or, where it is nested too deeply, not at all. -/
theorem read?_writeLine_eq {v : Value} (hv : IsJson v) (hstorable : isStorable v = true)
    (depth : Nat) :
    read? depth (writeLine v) = if nesting v ≤ depth then some v else none := by
  split
  · next hdepth => exact read?_writeLine hv hstorable hdepth
  · next hdeep =>
    have hrefused := value?_line_deep le_toNat_of_isPlainAscii v hv hstorable
      (Nat.le_succ (line isPlainAscii v).length) (Nat.lt_of_not_le hdeep) []
    rw [List.append_nil] at hrefused
    rw [read?, writeLine, String.toList_ofList, readChars?, hrefused]

end Json
end CrossCheck
