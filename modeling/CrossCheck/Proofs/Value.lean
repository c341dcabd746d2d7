import CrossCheck.Proofs.Json.Number
import CrossCheck.Proofs.Text.Join
import CrossCheck.Value

/-!
Values in writing.  Only a text on its own can put a carriage return into an export: whatever else
is shown is made of digits, signs and words, and inside lists and records texts have theirs
written out.
-/

namespace CrossCheck

open Json

theorem return_not_mem_natText (n : Nat) : '\r' ∉ natText n :=
  fun h => absurd (isDigit_of_mem_natText h) (by decide)

theorem return_not_mem_intText (n : Int) : '\r' ∉ intText n := by
  rw [intText]
  split <;> simp [return_not_mem_natText]

theorem return_not_mem_zeroPadded (width n : Nat) : '\r' ∉ zeroPadded width n := by
  simp [zeroPadded, return_not_mem_natText]

theorem return_not_mem_joinWith {sep : List Char} (hsep : '\r' ∉ sep) {css : List (List Char)}
    (h : ∀ cs ∈ css, '\r' ∉ cs) : '\r' ∉ Text.joinWith sep css := by
  intro hmem
  rcases Text.mem_of_mem_joinWith hmem with hmem | ⟨cs, hcs, hmem⟩
  · exact hsep hmem
  · exact h cs hcs hmem

theorem return_not_mem_commaSeparated {css : List (List Char)} (h : ∀ cs ∈ css, '\r' ∉ cs) :
    '\r' ∉ Text.joinWith [',', ' '] css := return_not_mem_joinWith (by decide) h

theorem return_not_mem_take {cs : List Char} (h : '\r' ∉ cs) (n : Nat) : '\r' ∉ cs.take n :=
  fun hmem => h (List.mem_of_mem_take hmem)

theorem return_not_mem_drop {cs : List Char} (h : '\r' ∉ cs) (n : Nat) : '\r' ∉ cs.drop n :=
  fun hmem => h (List.mem_of_mem_drop hmem)

/-! ## Numbers -/

theorem return_not_mem_exponentText (style : FloatNotation) (e : Int) :
    '\r' ∉ style.exponentText e := by
  simp only [FloatNotation.exponentText]
  split
  · simp [return_not_mem_natText]
  · split <;> simp [return_not_mem_natText]

theorem return_not_mem_digitText (s : Scientific) : '\r' ∉ s.digitText := return_not_mem_natText _

theorem return_not_mem_scientificText (style : FloatNotation) (s : Scientific) :
    '\r' ∉ style.scientificText s := by
  have hdigits := return_not_mem_digitText s
  have hexponent := return_not_mem_exponentText style s.magnitude
  rw [FloatNotation.scientificText]
  dsimp only
  split
  · split <;> simp
  · split
    · split
      · simp
      · next d rest hds =>
        rw [hds] at hdigits
        obtain ⟨hd, hrest⟩ := not_or.1 (fun h => hdigits (List.mem_cons.2 h))
        split <;> simp_all
    · split
      · simp [hdigits]
      · split
        · split <;> simp [hdigits]
        · simp [return_not_mem_take hdigits, return_not_mem_drop hdigits]

theorem return_not_mem_binary64 (x : Binary64) : '\r' ∉ x.text.toList := by
  rw [Binary64.text, String.toList_ofList]
  cases x with
  | nan => decide
  | infinite s => cases s <;> decide
  | finite s rank => cases s <;> simp [FloatNotation.text, return_not_mem_scientificText]

theorem return_not_mem_finiteText (coefficient : Nat) (exponent : Int) :
    '\r' ∉ Decimal.finiteText coefficient exponent := by
  have hdigits := return_not_mem_natText coefficient
  simp only [Decimal.finiteText]
  split
  · split
    · simp [hdigits]
    · split
      · exact hdigits
      · simp [return_not_mem_take hdigits, return_not_mem_drop hdigits]
  · have htail : '\r' ∉ (natText coefficient).tail := fun h => hdigits (List.mem_of_mem_tail h)
    split <;> split <;> simp [return_not_mem_take hdigits, htail, return_not_mem_natText]

theorem return_not_mem_decimal (d : Decimal) : '\r' ∉ d.text.toList := by
  have hsign (s : Bool) : '\r' ∉ Decimal.signText s := by cases s <;> decide
  cases d with
  | finite s c e =>
    rw [Decimal.text, String.toList_ofList, List.mem_append, not_or]
    exact ⟨hsign s, return_not_mem_finiteText c e⟩
  | infinite s =>
    rw [Decimal.text, String.toList_append, String.toList_ofList, List.mem_append, not_or]
    exact ⟨hsign s, by decide⟩
  | nan s signaling payload =>
    rw [Decimal.text, String.toList_ofList]
    cases signaling <;> by_cases hp : payload = 0 <;> simp [hsign s, hp, return_not_mem_natText]

/-! ## Dates and times -/

theorem return_not_mem_date (d : Date) : '\r' ∉ d.iso := by
  simp [Date.iso, return_not_mem_zeroPadded]

theorem return_not_mem_time (t : TimeOfDay) : '\r' ∉ t.iso := by
  simp only [TimeOfDay.iso]
  split <;> simp [return_not_mem_zeroPadded]

theorem return_not_mem_zoneText (minutes : Int) : '\r' ∉ Timestamp.zoneText minutes := by
  simp only [Timestamp.zoneText]
  split <;> simp [return_not_mem_zeroPadded]

theorem return_not_mem_timestamp {separator : Char} (hseparator : separator ≠ '\r')
    (t : Timestamp) : '\r' ∉ t.write separator := by
  rw [Timestamp.write]
  cases t.zoneMinutes with
  | none => simp [return_not_mem_date, return_not_mem_time, hseparator.symm]
  | some minutes =>
    simp [return_not_mem_date, return_not_mem_time, return_not_mem_zoneText, hseparator.symm]

/-! ## Values inside others -/

theorem return_not_mem_hexDigits (width n : Nat) : '\r' ∉ Text.hexDigits width n := by
  have hdigit : ∀ k < 16, Nat.digitChar k ≠ '\r' := by decide
  induction width generalizing n with
  | zero => exact List.not_mem_nil
  | succ width ih =>
    rw [Text.hexDigits, List.mem_append, List.mem_singleton, not_or]
    exact ⟨ih _, (hdigit _ (Nat.mod_lt n (by decide))).symm⟩

theorem return_not_mem_escapeCode (n : Nat) : '\r' ∉ Text.escapeCode n := by
  rw [Text.escapeCode]
  split
  · simp [return_not_mem_hexDigits]
  · split <;> simp [return_not_mem_hexDigits]

theorem return_not_mem_escapeUnseen {quote : Char} (hquote : quote ≠ '\r') (c : Char) :
    '\r' ∉ Text.escapeUnseen quote c := by
  by_cases hc : c = '\r'
  · rw [hc, Text.escapeUnseen]
    simp [hquote.symm]
  · have hmem : '\r' ∉ [c] := fun h => hc (List.mem_singleton.1 h).symm
    rw [Text.escapeUnseen, if_neg hc]
    split
    · simp [Ne.symm hc]
    · split
      · decide
      · split
        · decide
        · split
          · exact return_not_mem_escapeCode _
          · exact hmem

theorem chooseQuote_ne_return (cs : List Char) : Text.chooseQuote cs ≠ '\r' := by
  rw [Text.chooseQuote]
  split <;> decide

theorem return_not_mem_quoted (cs : List Char) : '\r' ∉ Text.quoted cs := by
  have hquote := chooseQuote_ne_return cs
  simp [Text.quoted, hquote.symm, return_not_mem_escapeUnseen hquote]

theorem return_not_mem_quotedBytes (bs : List UInt8) : '\r' ∉ Text.quotedBytes bs := by
  have hquote := chooseQuote_ne_return (bs.map fun b => Char.ofNat b.toNat)
  have hbyte (c : Char) : '\r' ∉ (if 0x7f ≤ c.toNat then Text.escapeCode c.toNat
      else Text.escapeUnseen (Text.chooseQuote (bs.map fun b => Char.ofNat b.toNat)) c) := by
    split
    · exact return_not_mem_escapeCode _
    · exact return_not_mem_escapeUnseen hquote c
  simp [Text.quotedBytes, hquote.symm, hbyte]

namespace Value

theorem return_not_mem_named {name : String} (hname : '\r' ∉ name.toList)
    {parts : List (List Char)} (h : ∀ cs ∈ parts, '\r' ∉ cs) : '\r' ∉ named name parts := by
  have hjoined := return_not_mem_commaSeparated h
  simp [named, hname, hjoined]

theorem return_not_mem_dateParts (d : Date) : ∀ cs ∈ dateParts d, '\r' ∉ cs := by
  simp [dateParts, return_not_mem_natText]

theorem return_not_mem_timeParts (t : TimeOfDay) : ∀ cs ∈ timeParts t, '\r' ∉ cs := by
  simp only [timeParts]
  split <;> split <;> simp [return_not_mem_natText]

theorem return_not_mem_zoneParts (minutes : Int) : '\r' ∉ zoneParts minutes := by
  rw [zoneParts]
  split
  · decide +kernel
  · have hseconds : '\r' ∉ "seconds=".toList ++ natText ((minutes * 60) % 86400).toNat := by
      simp [return_not_mem_natText]
    have hdelta : '\r' ∉ named "datetime.timedelta"
        ((if minutes < 0 then ["days=-1".toList] else []) ++
          ["seconds=".toList ++ natText ((minutes * 60) % 86400).toNat]) := by
      refine return_not_mem_named (by decide +kernel) (List.forall_mem_append.2 ⟨?_, ?_⟩)
      · split <;> simp
      · exact List.forall_mem_singleton.2 hseconds
    rw [List.mem_append, not_or]
    exact ⟨by decide, return_not_mem_named (by decide +kernel) (List.forall_mem_singleton.2 hdelta)⟩

mutual

theorem return_not_mem_shown : (v : Value) → '\r' ∉ v.shown
  | null => by decide
  | bool b => by cases b <;> decide
  | int n => return_not_mem_intText n
  | float x => return_not_mem_binary64 x
  | decimal d => by
    refine return_not_mem_named (by decide) fun cs hcs => ?_
    rw [List.mem_singleton.1 hcs]
    exact return_not_mem_quoted _
  | text s => return_not_mem_quoted _
  | date d => return_not_mem_named (by decide +kernel) (return_not_mem_dateParts d)
  | time t => return_not_mem_named (by decide +kernel) (return_not_mem_timeParts t)
  | timestamp t => by
    have hzone : ∀ cs ∈ (t.zoneMinutes.map zoneParts).toList, '\r' ∉ cs := by
      cases t.zoneMinutes with
      | none => exact nofun
      | some minutes => exact List.forall_mem_singleton.2 (return_not_mem_zoneParts minutes)
    refine return_not_mem_named (by decide +kernel) ?_
    exact List.forall_mem_append.2 ⟨List.forall_mem_append.2
      ⟨return_not_mem_dateParts t.date, return_not_mem_timeParts t.time⟩, hzone⟩
  | bytes bs => return_not_mem_quotedBytes bs
  | list vs => by
    have h := return_not_mem_commaSeparated (return_not_mem_shownAll vs)
    simp [shown, h]
  | record ms => by
    have h := return_not_mem_commaSeparated (return_not_mem_shownMembers ms)
    simp [shown, h]

theorem return_not_mem_shownAll : (vs : List Value) → ∀ cs ∈ shownAll vs, '\r' ∉ cs
  | [] => nofun
  | v :: vs => List.forall_mem_cons.2 ⟨return_not_mem_shown v, return_not_mem_shownAll vs⟩

theorem return_not_mem_shownMembers : (ms : List (String × Value)) →
    ∀ cs ∈ shownMembers ms, '\r' ∉ cs
  | [] => nofun
  | (name, v) :: ms => by
    have hv := return_not_mem_shown v
    refine List.forall_mem_cons.2 ⟨?_, return_not_mem_shownMembers ms⟩
    simp [return_not_mem_quoted, hv]

end

/-- A value that is no text holds no carriage return in writing. -/
theorem return_not_mem_display {v : Value} (h : ∀ s, v = .text s → '\r' ∉ s.toList) :
    '\r' ∉ v.display.toList := by
  have hshown (w : Value) : '\r' ∉ (String.ofList w.shown).toList := by
    rw [String.toList_ofList]
    exact return_not_mem_shown w
  cases v with
  | text s => exact h s rfl
  | decimal d => exact return_not_mem_decimal d
  | date d =>
    rw [display, String.toList_ofList]
    exact return_not_mem_date d
  | time t =>
    rw [display, String.toList_ofList]
    exact return_not_mem_time t
  | timestamp t =>
    rw [display, String.toList_ofList]
    exact return_not_mem_timestamp (by decide) t
  | _ => exact hshown _

end Value
end CrossCheck
