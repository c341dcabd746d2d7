import CrossCheck.Json.Reader
import CrossCheck.Json.Writer
import CrossCheck.Proofs.Text

/-!
A text reads back from its JSON form.  Only a half of a character does not: its number is written
as it is, and the reader takes one unit only together with the other.
-/

namespace CrossCheck
namespace Json

open Text

/-! ## Numbers of characters -/

theorem hexValue?_hexDigit (n : Nat) : hexValue? (hexDigit n) = some (n % 16) := by
  have hdigits : ∀ k < 16, hexValue? (Nat.digitChar k) = some k := by decide
  exact hdigits _ (Nat.mod_lt n (by decide))

theorem hexUnit_eq (n : Nat) :
    hexUnit n = [hexDigit (n / 16 / 16 / 16), hexDigit (n / 16 / 16), hexDigit (n / 16),
      hexDigit n] := rfl

theorem hexUnit?_hexUnit {n : Nat} (hn : n < 0x10000) :
    hexUnit? (hexDigit (n / 16 / 16 / 16)) (hexDigit (n / 16 / 16)) (hexDigit (n / 16))
      (hexDigit n) = some n := by
  have hsum : ((n / 16 / 16 / 16 % 16 * 16 + n / 16 / 16 % 16) * 16 + n / 16 % 16) * 16 + n % 16 =
      n := by omega
  simp only [hexUnit?, hexValue?_hexDigit, Option.pure_def, Option.bind_eq_bind, Option.bind_some,
    hsum]

/-! ## Reading one character -/

theorem textBody?_plain {c : Char} (hquote : c ≠ '"') (hbackslash : c ≠ '\\')
    (hvisible : 0x20 ≤ c.toNat) (rest : List Char) :
    textBody? none (c :: rest) = consChar c (textBody? none rest) := by
  rw [textBody?]
  · simp [hquote, hbackslash, Nat.not_lt.2 hvisible]
  · exact fun _ _ _ _ _ h => absurd h hbackslash
  · exact fun _ _ h => absurd h hbackslash

theorem textBody?_short {e c : Char} (hu : e ≠ 'u') (he : unescape? e = some c)
    (rest : List Char) :
    textBody? none ('\\' :: e :: rest) = consChar c (textBody? none rest) := by
  rw [textBody?.eq_def]
  simp [hu, he]

theorem textBody?_unit {n : Nat} (hn : n < 0x10000) (hhigh : isHighSurrogate n = false)
    (hlow : isLowSurrogate n = false) (rest : List Char) :
    textBody? none ('\\' :: 'u' :: hexUnit n ++ rest) =
      consChar (Char.ofNat n) (textBody? none rest) := by
  rw [hexUnit_eq]
  simp only [List.cons_append, List.nil_append]
  rw [textBody?.eq_def]
  simp [hexUnit?_hexUnit hn, hhigh, hlow]

theorem textBody?_pair {high low : Nat} (hhigh : isHighSurrogate high = true)
    (hlow : isLowSurrogate low = true) (rest : List Char) :
    textBody? none ('\\' :: 'u' :: hexUnit high ++ '\\' :: 'u' :: hexUnit low ++ rest) =
      consChar (joinSurrogates high low) (textBody? none rest) := by
  have hhigh' : high < 0x10000 := by
    simp [isHighSurrogate] at hhigh
    omega
  have hlow' : low < 0x10000 := by
    simp [isLowSurrogate] at hlow
    omega
  rw [hexUnit_eq, hexUnit_eq]
  simp only [List.cons_append, List.nil_append]
  rw [textBody?.eq_def]
  simp only [hexUnit?_hexUnit hhigh', hhigh, if_true]
  rw [textBody?.eq_def]
  simp only [hexUnit?_hexUnit hlow', hlow, if_true]

/-! ## Reading back -/

theorem textBody?_numberEscape {c : Char} (hc : halfUnit? c = none) (rest : List Char) :
    textBody? none (numberEscape c ++ rest) = consChar c (textBody? none rest) := by
  have hvalid : c.toNat < 0xd800 ∨ 0xdfff < c.toNat ∧ c.toNat < 0x110000 := c.valid
  rw [numberEscape, hc]
  simp only [Option.getD_none]
  by_cases hbasic : c.toNat < 0x10000
  · rw [if_pos hbasic, textBody?_unit hbasic]
    · rw [Char.ofNat_toNat]
    · simp [isHighSurrogate]
      omega
    · simp [isLowSurrogate]
      omega
  · have hjoin : joinSurrogates (0xd800 + (c.toNat - 0x10000) / 0x400)
        (0xdc00 + (c.toNat - 0x10000) % 0x400) = c := by
      have hcode : 0x10000 + (0xd800 + (c.toNat - 0x10000) / 0x400 - 0xd800) * 0x400 +
          (0xdc00 + (c.toNat - 0x10000) % 0x400 - 0xdc00) = c.toNat := by omega
      rw [joinSurrogates, hcode, Char.ofNat_toNat]
    rw [if_neg hbasic, textBody?_pair, hjoin]
    · simp [isHighSurrogate]
      omega
    · simp [isLowSurrogate]
      omega

theorem unescape?_of_shortEscape? {c e : Char} (h : shortEscape? c = some e) :
    e ≠ 'u' ∧ unescape? e = some c := by
  rw [shortEscape?] at h
  split at h
  · next hc =>
    simp only [Option.some.injEq] at h
    subst h
    simp only [Bool.or_eq_true, decide_eq_true_eq] at hc
    rcases hc with rfl | rfl <;> decide
  repeat'
    split at h
    next hc =>
      simp only [Option.some.injEq] at h
      subst h hc
      decide
  exact absurd h nofun

variable {plain : Char → Bool}

theorem textBody?_escapeWith (hplain : ∀ c, plain c = true → 0x20 ≤ c.toNat) {c : Char}
    (hc : halfUnit? c = none) (rest : List Char) :
    textBody? none (escapeWith plain c ++ rest) = consChar c (textBody? none rest) := by
  rw [escapeWith]
  cases hshort : shortEscape? c with
  | some e =>
    obtain ⟨hu, he⟩ := unescape?_of_shortEscape? hshort
    exact textBody?_short hu he rest
  | none =>
    by_cases hp : plain c = true
    · have hmarks : c ≠ '"' ∧ c ≠ '\\' := by
        constructor <;> rintro rfl <;> exact absurd hshort (by decide)
      rw [if_pos hp]
      exact textBody?_plain hmarks.1 hmarks.2 (hplain c hp) rest
    · rw [if_neg hp]
      exact textBody?_numberEscape hc rest

/-- No character of a text is a half of one. -/
def IsUnhalved (s : String) : Prop := ∀ c ∈ s.toList, halfUnit? c = none

instance (s : String) : Decidable (IsUnhalved s) :=
  List.decidableBAll (halfUnit? · = none) s.toList

theorem textBody?_escape (hplain : ∀ c, plain c = true → 0x20 ≤ c.toNat) {cs : List Char}
    (hcs : ∀ c ∈ cs, halfUnit? c = none) (rest : List Char) :
    textBody? none (cs.flatMap (escapeWith plain) ++ '"' :: rest) = some (cs, rest) := by
  induction cs with
  | nil => rfl
  | cons c cs ih =>
    rw [List.flatMap_cons, List.append_assoc,
      textBody?_escapeWith hplain (hcs c List.mem_cons_self),
      ih fun d hd => hcs d (List.mem_cons_of_mem c hd)]
    rfl

/-- A text is read back, whatever follows it. -/
theorem text?_textWith (hplain : ∀ c, plain c = true → 0x20 ≤ c.toNat) {s : String}
    (hs : IsUnhalved s) (rest : List Char) :
    ∃ body, textWith plain s.toList ++ rest = '"' :: body ∧ text? body = some (s, rest) := by
  refine ⟨s.toList.flatMap (escapeWith plain) ++ '"' :: rest, ?_, ?_⟩
  · rw [textWith, List.cons_append, List.cons_append, List.append_assoc]
    rfl
  · rw [text?, textBody?_escape hplain hs, Option.map_some]
    simp only [String.ofList_toList]

end Json
end CrossCheck
