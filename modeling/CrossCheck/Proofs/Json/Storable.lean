import CrossCheck.Proofs.Json.Number
import CrossCheck.Proofs.Named
import Mathlib.Data.List.Induction

/-!
What was read can be stored again.  Whole numbers that are too long are refused on both ways, and
a file never yields bytes.
-/

namespace CrossCheck
namespace Json

open Text

/-! ## Whole numbers -/

theorem natOfDigits_lt {ds : List Char} (hds : ∀ c ∈ ds, isDigit c = true) :
    natOfDigits ds < 10 ^ ds.length := by
  induction ds using List.reverseRecOn with
  | nil => decide
  | append_singleton ds c ih =>
    have hc : isDigit c = true := hds c (List.mem_append_right _ List.mem_cons_self)
    have hvalue : digitValue c < 10 := by
      rw [isDigit, Bool.and_eq_true, decide_eq_true_eq, decide_eq_true_eq] at hc
      have hle : c.toNat ≤ '9'.toNat := hc.2
      have hnine : '9'.toNat = 0x39 := rfl
      rw [digitValue]
      omega
    have hrest := ih fun d hd => hds d (List.mem_append_left _ hd)
    have hvalues : natOfDigits (ds ++ [c]) = natOfDigits ds * 10 + digitValue c := by
      rw [natOfDigits, List.foldl_append]
      rfl
    rw [hvalues, List.length_append, List.length_singleton, Nat.pow_succ]
    omega

/-- Nothing is longer when it is written again. -/
theorem length_natText_natOfDigits_le {ds : List Char} (hds : ∀ c ∈ ds, isDigit c = true)
    (hne : ds ≠ []) : (natText (natOfDigits ds)).length ≤ ds.length :=
  (Nat.length_toDigits_le_iff (by decide) (List.length_pos_iff.2 hne)).2 (natOfDigits_lt hds)

theorem isStorable_of_magnitude? {negative : Bool} {cs rest : List Char} {v : Value}
    (h : magnitude? negative cs = some (v, rest)) : isStorable v = true := by
  rw [magnitude?] at h
  dsimp only [span] at h
  have hdigits : ∀ c ∈ cs.takeWhile isDigit, isDigit c = true :=
    fun c hc => List.mem_takeWhile_imp hc
  generalize cs.takeWhile isDigit = whole at h hdigits
  split at h
  · cases h
  next hempty =>
  rw [Bool.or_eq_true, not_or, List.isEmpty_iff] at hempty
  rw [Option.bind_eq_bind, Option.pure_def] at h
  split at h
  · cases h
  next hlong =>
  obtain ⟨⟨fraction, afterFraction⟩, -, h⟩ := Option.bind_eq_some_iff.1 h
  obtain ⟨⟨exponent, rest'⟩, -, h⟩ := Option.bind_eq_some_iff.1 h
  dsimp only at h
  split at h
  · cases h
    have hlength := length_natText_natOfDigits_le hdigits hempty.1
    have hfits : isReadable (Reading.signed negative (natOfDigits whole)) = true := by
      rw [isReadable, Reading.natAbs_signed, decide_eq_true_eq]
      omega
    exact hfits
  · cases h
    rfl

theorem isStorable_of_word? {word : String} {v w : Value} {cs rest : List Char}
    (hv : isStorable v = true) (h : word? word v cs = some (w, rest)) : isStorable w = true := by
  obtain ⟨_, _, heq⟩ := Option.map_eq_some_iff.1 h
  cases heq
  exact hv

theorem isStorable_of_scalar? {cs rest : List Char} {v : Value}
    (h : scalar? cs = some (v, rest)) : isStorable v = true := by
  cases cs with
  | nil => exact absurd h nofun
  | cons c cs =>
    rw [scalar?] at h
    split at h
    · obtain ⟨_, _, heq⟩ := Option.map_eq_some_iff.1 h
      cases heq
      rfl
    split at h
    · rcases Option.or_eq_some_iff.1 h with h | ⟨-, h⟩
      · exact isStorable_of_word? rfl h
      · exact isStorable_of_magnitude? h
    split at h
    · exact isStorable_of_magnitude? h
    rcases Option.or_eq_some_iff.1 h with h | ⟨-, h⟩
    · exact isStorable_of_word? rfl h
    rcases Option.or_eq_some_iff.1 h with h | ⟨-, h⟩
    · exact isStorable_of_word? rfl h
    rcases Option.or_eq_some_iff.1 h with h | ⟨-, h⟩
    · exact isStorable_of_word? rfl h
    rcases Option.or_eq_some_iff.1 h with h | ⟨-, h⟩
    · exact isStorable_of_word? rfl h
    · exact isStorable_of_word? rfl h

/-! ## Lists and records -/

theorem membersAreWritable_iff {fits : Int → Bool} {ms : List (String × Value)} :
    membersAreWritable fits ms = true ↔ ∀ m ∈ ms, isWritableWith fits m.2 = true := by
  induction ms with
  | nil => simp [membersAreWritable]
  | cons m ms ih => rw [membersAreWritable, Bool.and_eq_true, ih, List.forall_mem_cons]

theorem membersAreWritable_ofList {fits : Int → Bool} {ms : List (String × Value)}
    (h : membersAreWritable fits ms = true) : membersAreWritable fits (Named.ofList ms) = true :=
  membersAreWritable_iff.2 fun m hm => membersAreWritable_iff.1 h m (Named.mem_of_mem_ofList hm)

/-- What the readers of values, items and members have read so far. -/
structure ReadsStorable (fuel : Nat) : Prop where
  value : ∀ depth cs v rest, value? fuel depth cs = some (v, rest) → isStorable v = true
  items : ∀ depth cs vs rest, items? fuel depth cs = some (vs, rest) →
    areWritable isReadable vs = true
  members : ∀ depth cs ms rest, members? fuel depth cs = some (ms, rest) →
    membersAreWritable isReadable ms = true

theorem readsStorable_zero : ReadsStorable 0 where
  value _ _ _ _ h := absurd (value?.eq_def 0 .. ▸ h) nofun
  items _ _ _ _ h := absurd (items?.eq_def 0 .. ▸ h) nofun
  members _ _ _ _ h := absurd (members?.eq_def 0 .. ▸ h) nofun

namespace ReadsStorable

variable {fuel : Nat}

theorem value_succ (h : ReadsStorable fuel) {depth : Nat} {cs rest : List Char} {v : Value}
    (hread : value? (fuel + 1) depth cs = some (v, rest)) : isStorable v = true := by
  rw [value?] at hread
  split at hread
  · split at hread
    · cases hread
      rfl
    · split at hread
      · exact absurd hread nofun
      · obtain ⟨r, hr, heq⟩ := Option.map_eq_some_iff.1 hread
        cases heq
        exact h.items _ _ _ _ hr
  · split at hread
    · cases hread
      rfl
    · split at hread
      · exact absurd hread nofun
      · obtain ⟨r, hr, heq⟩ := Option.map_eq_some_iff.1 hread
        cases heq
        exact membersAreWritable_ofList (h.members _ _ _ _ hr)
  · exact isStorable_of_scalar? hread

theorem items_succ (h : ReadsStorable fuel) {depth : Nat} {cs rest : List Char} {vs : List Value}
    (hread : items? (fuel + 1) depth cs = some (vs, rest)) : areWritable isReadable vs = true := by
  rw [items?, Option.bind_eq_bind] at hread
  obtain ⟨⟨v, after⟩, hv, hread⟩ := Option.bind_eq_some_iff.1 hread
  have hfirst := h.value _ _ _ _ hv
  dsimp only at hread
  split at hread
  · obtain ⟨⟨vs', after'⟩, hvs, hread⟩ := Option.bind_eq_some_iff.1 hread
    cases hread
    rw [areWritable, Bool.and_eq_true]
    exact ⟨hfirst, h.items _ _ _ _ hvs⟩
  · cases hread
    rw [areWritable, Bool.and_eq_true]
    exact ⟨hfirst, rfl⟩
  · exact absurd hread nofun

theorem members_succ (h : ReadsStorable fuel) {depth : Nat} {cs rest : List Char}
    {ms : List (String × Value)} (hread : members? (fuel + 1) depth cs = some (ms, rest)) :
    membersAreWritable isReadable ms = true := by
  rw [members?] at hread
  split at hread
  · rw [Option.bind_eq_bind] at hread
    obtain ⟨⟨name, after⟩, -, hread⟩ := Option.bind_eq_some_iff.1 hread
    dsimp only at hread
    split at hread
    · obtain ⟨⟨v, after⟩, hv, hread⟩ := Option.bind_eq_some_iff.1 hread
      have hfirst := h.value _ _ _ _ hv
      dsimp only at hread
      split at hread
      · obtain ⟨⟨ms', after'⟩, hms, hread⟩ := Option.bind_eq_some_iff.1 hread
        cases hread
        rw [membersAreWritable, Bool.and_eq_true]
        exact ⟨hfirst, h.members _ _ _ _ hms⟩
      · cases hread
        rw [membersAreWritable, Bool.and_eq_true]
        exact ⟨hfirst, rfl⟩
      · exact absurd hread nofun
    · exact absurd hread nofun
  · exact absurd hread nofun

end ReadsStorable

theorem readsStorable (fuel : Nat) : ReadsStorable fuel := by
  induction fuel with
  | zero => exact readsStorable_zero
  | succ fuel ih =>
    exact ⟨fun _ _ _ _ => ih.value_succ, fun _ _ _ _ => ih.items_succ,
      fun _ _ _ _ => ih.members_succ⟩

theorem isStorable_of_read? {depth : Nat} {text : String} {v : Value}
    (h : read? depth text = some v) : isStorable v = true := by
  rw [read?, readChars?] at h
  split at h
  · next hvalue =>
    split at h
    · cases h
      exact (readsStorable _).value _ _ _ _ hvalue
    · exact absurd h nofun
  · exact absurd h nofun

end Json

end CrossCheck
