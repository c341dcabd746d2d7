import CrossCheck.Alias
import CrossCheck.Proofs.Text
import Mathlib.Data.List.Nodup

/-!
What allocation does to aliases: the name it gives is free, keeps the beginning of its base, and
is made of small letters, digits and underscores.  Names with beginnings that exclude each other
can be allocated from different stores without meeting.
-/

namespace CrossCheck
namespace Alias

/-! ## Numbered names -/

theorem numbered_zero (base : String) : numbered base 0 = base := rfl

theorem toList_numbered {k : Nat} (hk : k ≠ 0) (base : String) :
    (numbered base k).toList = base.toList ++ '_' :: Nat.toDigits 10 k := by
  rw [numbered, if_neg hk]
  simp [Nat.toString_eq_repr, Nat.toList_repr]

theorem prefix_numbered (base : String) (k : Nat) :
    base.toList <+: (numbered base k).toList := by
  by_cases hk : k = 0
  · subst hk
    exact List.prefix_refl base.toList
  · rw [toList_numbered hk]
    exact List.prefix_append _ _

theorem numbered_injective (base : String) {j k : Nat}
    (h : numbered base j = numbered base k) : j = k := by
  have hchars := congrArg String.toList h
  by_cases hj : j = 0 <;> by_cases hk : k = 0
  · rw [hj, hk]
  · rw [hj, numbered_zero, toList_numbered hk] at hchars
    have hlength := congrArg List.length hchars
    simp only [List.length_append, List.length_cons] at hlength
    omega
  · rw [hk, numbered_zero, toList_numbered hj] at hchars
    have hlength := congrArg List.length hchars
    simp only [List.length_append, List.length_cons] at hlength
    omega
  · rw [toList_numbered hj, toList_numbered hk] at hchars
    have hdigits := List.append_cancel_left hchars
    have hvalue := congrArg (fun cs => Nat.ofDigitChars 10 cs.tail 0) hdigits
    simpa only [List.tail_cons, Nat.ofDigitChars_ten_toDigits] using hvalue

/-- Of one more numbered names than are taken one is free. -/
theorem exists_free (taken : List String) (base : String) :
    ∃ k, k < taken.length + 1 ∧ numbered base k ∉ taken := by
  apply Decidable.byContradiction
  intro hnone
  have hnodup : ((List.range (taken.length + 1)).map (numbered base)).Nodup := by
    rw [List.Nodup, List.pairwise_map]
    exact List.nodup_range.imp fun hne h => hne (numbered_injective base h)
  have hsubset : (List.range (taken.length + 1)).map (numbered base) ⊆ taken := by
    intro name hname
    obtain ⟨k, hk, rfl⟩ := List.mem_map.1 hname
    apply Decidable.byContradiction
    intro hfree
    exact hnone ⟨k, List.mem_range.1 hk, hfree⟩
  have hlength := hnodup.length_le_of_subset hsubset
  simp only [List.length_map, List.length_range] at hlength
  omega

/-- The name given is the least numbered one that is free. -/
theorem unique_spec (taken : List String) (base : String) :
    ∃ k, unique taken base = numbered base k ∧ numbered base k ∉ taken ∧
      ∀ j, j < k → numbered base j ∈ taken := by
  rw [unique]
  split
  · next k hk =>
    rw [List.find?_range_eq_some] at hk
    obtain ⟨hfree, _, hleast⟩ := hk
    refine ⟨k, rfl, by simpa using hfree, fun j hj => ?_⟩
    simpa using hleast j hj
  · next hnone =>
    obtain ⟨k, hk, hfree⟩ := exists_free taken base
    rw [List.find?_range_eq_none] at hnone
    exact absurd (hnone k hk) (by simpa using hfree)

theorem unique_not_mem (taken : List String) (base : String) : unique taken base ∉ taken := by
  obtain ⟨k, hk, hfree, _⟩ := unique_spec taken base
  rw [hk]
  exact hfree

/-! ## Beginnings -/

/-- The name begins with one of the texts. -/
def BeginsWith (starts : List String) (name : String) : Prop :=
  ∃ start ∈ starts, start.toList <+: name.toList

theorem BeginsWith.of_prefix {starts : List String} {base name : String}
    (h : BeginsWith starts base) (hname : base.toList <+: name.toList) :
    BeginsWith starts name := by
  obtain ⟨start, hmem, hstart⟩ := h
  exact ⟨start, hmem, hstart.trans hname⟩

theorem prefix_unique (taken : List String) (base : String) :
    base.toList <+: (unique taken base).toList := by
  obtain ⟨k, hk, _⟩ := unique_spec taken base
  rw [hk]
  exact prefix_numbered base k

/-- No text of one list begins with a text of the other. -/
def Exclusive (starts others : List String) : Prop :=
  ∀ s ∈ starts, ∀ t ∈ others, ¬ s.toList <+: t.toList ∧ ¬ t.toList <+: s.toList

instance (starts others : List String) : Decidable (Exclusive starts others) :=
  inferInstanceAs (Decidable (∀ s ∈ starts, ∀ t ∈ others,
    ¬ s.toList <+: t.toList ∧ ¬ t.toList <+: s.toList))

theorem Exclusive.ne {starts others : List String} (h : Exclusive starts others)
    {a b : String} (ha : BeginsWith starts a) (hb : BeginsWith others b) : a ≠ b := by
  rintro rfl
  obtain ⟨s, hs, hsa⟩ := ha
  obtain ⟨t, ht, hta⟩ := hb
  rcases List.prefix_or_prefix_of_prefix hsa hta with hst | hts
  · exact (h s hs t ht).1 hst
  · exact (h s hs t ht).2 hts

/-! ## Characters -/

/-- Beyond the small letters come neither capitals nor letters outside ASCII. -/
theorem toNat_of_isAllowed {c : Char} (h : isAllowed c = true) :
    c.toNat < 0x80 ∧ ¬ (0x41 ≤ c.toNat ∧ c.toNat ≤ 0x5a) := by
  simp only [isAllowed, Bool.or_eq_true, Bool.and_eq_true, decide_eq_true_eq] at h
  rcases h with (⟨hlow, hhigh⟩ | ⟨hlow, hhigh⟩) | rfl
  · have h1 : 0x61 ≤ c.toNat := hlow
    have h2 : c.toNat ≤ 0x7a := hhigh
    omega
  · have h1 : 0x30 ≤ c.toNat := hlow
    have h2 : c.toNat ≤ 0x39 := hhigh
    omega
  · decide

theorem lowerAt_of_isAllowed {c : Char} (h : isAllowed c = true) (before after : List Char) :
    Text.lowerAt before c after = [c] := by
  obtain ⟨hascii, hcapital⟩ := toNat_of_isAllowed h
  have hsmall : c.toLower = c :=
    (Text.toLower_cases c).resolve_right fun hlarge => hcapital ⟨hlarge.1, hlarge.2.1⟩
  rw [Text.lowerAt, if_pos hascii, hsmall]

theorem lowerFrom_append_of_isAllowed {cs : List Char} (h : ∀ c ∈ cs, isAllowed c = true)
    (before ds : List Char) :
    Text.lowerFrom before (cs ++ ds) = cs ++ Text.lowerFrom (cs.reverse ++ before) ds := by
  induction cs generalizing before with
  | nil => rfl
  | cons c cs ih =>
    rw [List.cons_append, Text.lowerFrom, lowerAt_of_isAllowed (h c List.mem_cons_self),
      ih fun d hd => h d (List.mem_cons_of_mem c hd)]
    simp

/-- Allowed characters in front of a text stay as they are. -/
theorem prefix_sanitize {start : String} (h : ∀ c ∈ start.toList, isAllowed c = true)
    (rest : String) : start.toList <+: (sanitize (start ++ rest)).toList := by
  have hlower : Text.lowerChars (start.toList ++ rest.toList) =
      start.toList ++ Text.lowerFrom (start.toList.reverse ++ []) rest.toList :=
    lowerFrom_append_of_isAllowed h [] rest.toList
  rw [sanitize, String.toList_ofList, String.toList_append, sanitizeChars, hlower, List.map_append]
  have hkept : start.toList.map (fun c => if isAllowed c then c else '_') = start.toList := by
    have hsame : ∀ c ∈ start.toList, (if isAllowed c then c else '_') = id c :=
      fun c hc => if_pos (h c hc)
    rw [List.map_congr_left hsame, List.map_id]
  rw [hkept]
  exact List.prefix_append _ _

/-! ## The form of an alias -/

/-- A small letter, then small letters, digits and underscores. -/
def isName (name : String) : Bool :=
  match name.toList with
  | [] => false
  | c :: cs => 'a' ≤ c && c ≤ 'z' &&
      cs.all fun d => ('a' ≤ d && d ≤ 'z') || ('0' ≤ d && d ≤ '9') || d = '_'

/-- A beginning that has the form of an alias gives it to every name of allowed characters. -/
theorem isName_of_prefix {start name : String} (hstart : isName start = true)
    (hname : start.toList <+: name.toList) (h : ∀ c ∈ name.toList, isAllowed c = true) :
    isName name = true := by
  obtain ⟨rest, hrest⟩ := hname
  rw [isName] at hstart ⊢
  cases hs : start.toList with
  | nil => rw [hs] at hstart; exact absurd hstart Bool.false_ne_true
  | cons c cs =>
    rw [hs] at hstart hrest
    rw [← hrest] at h ⊢
    simp only [Bool.and_eq_true] at hstart
    simp only [List.cons_append, Bool.and_eq_true, List.all_eq_true]
    exact ⟨hstart.1, fun d hd => h d (List.mem_cons_of_mem c hd)⟩

theorem isAllowed_of_isDigit {c : Char} (h : c.isDigit = true) : isAllowed c = true := by
  simp only [Char.isDigit, Bool.and_eq_true, decide_eq_true_eq] at h
  have hdigit : '0' ≤ c ∧ c ≤ '9' := h
  simp [isAllowed, hdigit.1, hdigit.2]

theorem isAllowed_of_mem_unique {taken : List String} {base : String}
    (h : ∀ c ∈ base.toList, isAllowed c = true) :
    ∀ c ∈ (unique taken base).toList, isAllowed c = true := by
  obtain ⟨k, hk, _⟩ := unique_spec taken base
  intro c hc
  rw [hk] at hc
  by_cases hzero : k = 0
  · rw [hzero, numbered_zero] at hc
    exact h c hc
  · rw [toList_numbered hzero, List.mem_append, List.mem_cons] at hc
    rcases hc with hc | rfl | hc
    · exact h c hc
    · rfl
    · exact isAllowed_of_isDigit (Nat.isDigit_of_mem_toDigits (by omega) (by omega) hc)

theorem isAllowed_of_mem_sanitize {s : String} {c : Char} (h : c ∈ (sanitize s).toList) :
    isAllowed c = true := by
  rw [sanitize, String.toList_ofList] at h
  exact isAllowed_of_mem_sanitizeChars h

/-! ## Allocated aliases -/

/-- An alias that was allocated for a base with one of the beginnings. -/
structure Allocated (starts : List String) (name : String) : Prop where
  begins : BeginsWith starts name
  allowed : ∀ c ∈ name.toList, isAllowed c = true

theorem Allocated.isName {starts : List String} (hstarts : ∀ s ∈ starts, isName s = true)
    {name : String} (h : Allocated starts name) : isName name = true := by
  obtain ⟨start, hmem, hprefix⟩ := h.begins
  exact isName_of_prefix (hstarts start hmem) hprefix h.allowed

theorem allocated_unique {starts : List String} {base : String} (h : Allocated starts base)
    (taken : List String) : Allocated starts (unique taken base) :=
  ⟨h.begins.of_prefix (prefix_unique taken base), isAllowed_of_mem_unique h.allowed⟩

theorem allocated_sanitize {starts : List String} {start : String} (hmem : start ∈ starts)
    (h : start.toList.all isAllowed = true) (rest : String) :
    Allocated starts (sanitize (start ++ rest)) :=
  ⟨⟨start, hmem, prefix_sanitize (List.all_eq_true.1 h) rest⟩,
    fun _ hc => isAllowed_of_mem_sanitize hc⟩

/-! ## Directories -/

/-- Aliases under keys: no key and no alias stands twice, and every alias was allocated. -/
structure Directory (starts : List String) (entries : List (String × String)) : Prop where
  keys : (entries.map (·.1)).Nodup
  names : (entries.map (·.2)).Nodup
  allocated : ∀ entry ∈ entries, Allocated starts entry.2

namespace Directory

variable {starts : List String} {entries : List (String × String)}

theorem empty (starts : List String) : Directory starts [] :=
  ⟨List.nodup_nil, List.nodup_nil, fun _ h => absurd h List.not_mem_nil⟩

theorem append_unique (h : Directory starts entries) {key base : String}
    (hkey : key ∉ entries.map (·.1)) (hbase : Allocated starts base) :
    Directory starts (entries ++ [(key, unique (entries.map (·.2)) base)]) := by
  refine ⟨?_, ?_, fun entry hentry => ?_⟩
  · rw [List.map_append, List.map_singleton, ← List.concat_eq_append]
    exact h.keys.concat hkey
  · rw [List.map_append, List.map_singleton, ← List.concat_eq_append]
    exact h.names.concat (unique_not_mem _ base)
  · rcases List.mem_append.1 hentry with hentry | hentry
    · exact h.allocated entry hentry
    · rw [List.mem_singleton.1 hentry]
      exact allocated_unique hbase _

/-- Two entries have one key if and only if they have one alias. -/
theorem key_eq_iff (h : Directory starts entries) {key key' name name' : String}
    (hentry : (key, name) ∈ entries) (hentry' : (key', name') ∈ entries) :
    key = key' ↔ name = name' := by
  constructor
  · intro hkeys
    exact congrArg (·.2) (List.inj_on_of_nodup_map h.keys hentry hentry' hkeys)
  · intro hnames
    exact congrArg (·.1) (List.inj_on_of_nodup_map h.names hentry hentry' hnames)

end Directory

end Alias
end CrossCheck
