import CrossCheck.Proofs.Text.Trim
import CrossCheck.Proofs.Token

/-!
Writing metrics as tokens and reading them again.  A metric comes back exactly when its fields and
conditions can stand in a token as they are, and whatever the reader gives is of this kind.
-/

namespace CrossCheck

open Text

/-- A text that stands in a token as it is: it is not trimmed away, trimmed, or split. -/
structure Token.IsWritable (s : String) : Prop where
  ne_empty : s ≠ ""
  trimmed : strip s = s
  comma : ',' ∉ s.toList

instance (s : String) : Decidable (Token.IsWritable s) :=
  decidable_of_iff (s ≠ "" ∧ strip s = s ∧ ',' ∉ s.toList)
    ⟨fun h => ⟨h.1, h.2.1, h.2.2⟩, fun h => ⟨h.ne_empty, h.trimmed, h.comma⟩⟩

/-- The metrics that tokens can tell.  The field of a numerator ends before the slash of its ratio,
and the field of a conditional sum before the colon of its condition. -/
def Metric.WellFormed : Metric → Prop
  | .count => True
  | .fieldAggregate a => Token.IsWritable a.field
  | .countDistinct f => Token.IsWritable f
  | .ratio n d =>
    Token.IsWritable n.field ∧ '/' ∉ n.field.toList ∧ Token.IsWritable d.field
  | .countIf c => Token.IsWritable c
  | .sumIf f c => Token.IsWritable f ∧ ':' ∉ f.toList ∧ Token.IsWritable c
  | .other _ _ => False

namespace Token

/-! ## Parts of tokens -/

theorem IsWritable.toList_ne_nil {s : String} (h : IsWritable s) : s.toList ≠ [] :=
  fun hnil => h.ne_empty (String.toList_eq_nil_iff.1 hnil)

theorem IsWritable.trim_toList {s : String} (h : IsWritable s) : trim s.toList = s.toList :=
  strip_eq_self_iff.1 h.trimmed

/-- A writable text is read as itself. -/
theorem IsWritable.isPart {s : String} (h : IsWritable s) : IsPart s.toList s := by
  rw [IsPart, h.trim_toList, String.ofList_toList]
  exact ⟨h.toList_ne_nil, rfl⟩

/-- What is read between commas is writable. -/
theorem IsPart.isWritable {cs : List Char} {s : String} (h : IsPart cs s) (hcomma : ',' ∉ cs) :
    IsWritable s := by
  obtain ⟨hne, rfl⟩ := h
  refine ⟨fun hempty => hne ?_, ?_, ?_⟩
  · rw [← String.toList_ofList (l := trim cs), hempty]
    rfl
  · rw [strip_eq_self_iff, String.toList_ofList, trim_trim]
  · rw [String.toList_ofList]
    exact fun hmem => hcomma (mem_of_mem_trim hmem)

theorem IsPart.mem {cs : List Char} {s : String} (h : IsPart cs s) {c : Char}
    (hc : c ∈ s.toList) : c ∈ cs := by
  rw [h.2, String.toList_ofList] at hc
  exact mem_of_mem_trim hc

theorem IsWritable.append {s t : String} (hs : IsWritable s) (ht : IsWritable t) :
    IsWritable (s ++ t) := by
  refine ⟨fun hempty => ht.ne_empty ?_, ?_, ?_⟩
  · exact (String.append_eq_empty_iff.1 hempty).2
  · rw [strip_eq_self_iff, String.toList_append]
    exact trim_append hs.trim_toList ht.trim_toList hs.toList_ne_nil ht.toList_ne_nil
  · rw [String.toList_append, List.mem_append, not_or]
    exact ⟨hs.comma, ht.comma⟩

/-! ## Written metrics -/

theorem keyed_of_writing {key : String} (hcolon : ':' ∉ key.toList)
    (hkey : lowerChars (trim key.toList) = key.toList) (rest : List Char) :
    Keyed key (key.toList ++ ':' :: rest) rest := ⟨key.toList, hcolon, hkey, rfl⟩

theorem keyed_name (f : AggregateFunction) (rest : List Char) :
    Keyed (functionWord f) (f.name.toList ++ ':' :: rest) rest := by
  rw [functionWord_eq]
  exact keyed_of_writing (by cases f <;> decide) (by cases f <;> decide +kernel) rest

theorem isWritable_name (f : AggregateFunction) : IsWritable f.name := by
  cases f <;> decide +kernel

theorem slash_not_mem_name (f : AggregateFunction) : '/' ∉ f.name.toList := by
  cases f <;> decide

theorem toList_aggregate_token (a : FieldAggregate) :
    a.token.toList = a.function.name.toList ++ ':' :: a.field.toList := by
  rw [FieldAggregate.token, String.toList_append, String.toList_append, List.append_assoc]
  rfl

theorem spellsAggregate_token {a : FieldAggregate} (h : IsWritable a.field) :
    SpellsAggregate a.token.toList a := by
  rw [toList_aggregate_token]
  exact .intro (keyed_name a.function _) h.isPart

theorem isWritable_aggregate_token {a : FieldAggregate} (h : IsWritable a.field) :
    IsWritable a.token :=
  have hcolon : IsWritable ":" := by decide +kernel
  ((isWritable_name a.function).append hcolon).append h

theorem slash_not_mem_aggregate_token {a : FieldAggregate} (h : '/' ∉ a.field.toList) :
    '/' ∉ a.token.toList := by
  rw [toList_aggregate_token, List.mem_append, not_or, List.mem_cons, not_or]
  exact ⟨slash_not_mem_name a.function, by decide, h⟩

theorem spells_token {m : Metric} {token : String} (h : m.WellFormed)
    (htoken : m.token = .ok token) : Spells token.toList m := by
  cases m with
  | count =>
    rw [← Except.ok.inj htoken]
    exact .count (by decide) (by decide +kernel)
  | fieldAggregate a =>
    rw [← Except.ok.inj htoken]
    exact .fieldAggregate (spellsAggregate_token h)
  | countDistinct f =>
    rw [← Except.ok.inj htoken, String.toList_append]
    exact .countDistinct (keyed_of_writing (by decide) (by decide +kernel) f.toList) h.isPart
  | ratio n d =>
    obtain ⟨hn, hslash, hd⟩ := h
    have htext : ("ratio:" ++ n.token ++ "/" ++ d.token).toList =
        "ratio".toList ++ ':' :: (n.token.toList ++ '/' :: d.token.toList) := by
      simp only [String.toList_append, List.append_assoc]
      rfl
    rw [← Except.ok.inj htoken, htext]
    refine .ratio (keyed_of_writing (by decide) (by decide +kernel) _)
      (slash_not_mem_aggregate_token hslash) ?_ ?_
    · rw [(isWritable_aggregate_token hn).trim_toList]
      exact spellsAggregate_token hn
    · rw [(isWritable_aggregate_token hd).trim_toList]
      exact spellsAggregate_token hd
  | countIf c =>
    rw [← Except.ok.inj htoken, String.toList_append]
    exact .countIf (keyed_of_writing (by decide) (by decide +kernel) c.toList) h.isPart
  | sumIf f c =>
    obtain ⟨hf, hcolon, hc⟩ := h
    rw [← Except.ok.inj htoken]
    simp only [String.toList_append, List.append_assoc]
    exact .sumIf (keyed_of_writing (by decide) (by decide +kernel) _) hcolon hf.isPart hc.isPart
  | other kind name => exact absurd h id

theorem isWritable_token {m : Metric} {token : String} (h : m.WellFormed)
    (htoken : m.token = .ok token) : IsWritable token := by
  cases m with
  | count =>
    rw [← Except.ok.inj htoken]
    decide +kernel
  | fieldAggregate a =>
    rw [← Except.ok.inj htoken]
    exact isWritable_aggregate_token h
  | countDistinct f =>
    have hkey : IsWritable "count-distinct:" := by decide +kernel
    rw [← Except.ok.inj htoken]
    exact hkey.append h
  | ratio n d =>
    obtain ⟨hn, _, hd⟩ := h
    have hkey : IsWritable "ratio:" := by decide +kernel
    have hslash : IsWritable "/" := by decide +kernel
    rw [← Except.ok.inj htoken]
    exact ((hkey.append (isWritable_aggregate_token hn)).append hslash).append
      (isWritable_aggregate_token hd)
  | countIf c =>
    have hkey : IsWritable "count-if:" := by decide +kernel
    rw [← Except.ok.inj htoken]
    exact hkey.append h
  | sumIf f c =>
    obtain ⟨hf, _, hc⟩ := h
    have hkey : IsWritable "sum-if:" := by decide +kernel
    have hcolon : IsWritable ":" := by decide +kernel
    rw [← Except.ok.inj htoken]
    exact ((hkey.append hf).append hcolon).append hc
  | other kind name => exact absurd h id

theorem exists_token_of_wellFormed {m : Metric} (h : m.WellFormed) :
    ∃ token, m.token = .ok token := by
  cases m with
  | other kind name => exact absurd h id
  | _ => exact ⟨_, rfl⟩

/-! ## Read metrics -/

theorem Keyed.mem {key : String} {cs rest : List Char} (h : Keyed key cs rest) {c : Char}
    (hc : c ∈ rest) : c ∈ cs := by
  obtain ⟨head, _, _, rfl⟩ := h
  exact List.mem_append_right head (List.mem_cons_of_mem _ hc)

theorem SpellsAggregate.mem {cs : List Char} {a : FieldAggregate} (h : SpellsAggregate cs a)
    {c : Char} (hc : c ∈ a.field.toList) : c ∈ cs := by
  obtain ⟨hkey, hfield⟩ := h
  exact hkey.mem (hfield.mem hc)

theorem SpellsAggregate.isWritable {cs : List Char} {a : FieldAggregate}
    (h : SpellsAggregate cs a) (hcomma : ',' ∉ cs) : IsWritable a.field := by
  obtain ⟨hkey, hfield⟩ := h
  exact hfield.isWritable fun hmem => hcomma (hkey.mem hmem)

/-- Between commas only well-formed metrics are spelled. -/
theorem Spells.wellFormed {cs : List Char} {m : Metric} (h : Spells cs m) (hcomma : ',' ∉ cs) :
    m.WellFormed := by
  cases h with
  | count => trivial
  | fieldAggregate h => exact h.isWritable hcomma
  | countDistinct hkey hfield => exact hfield.isWritable fun hmem => hcomma (hkey.mem hmem)
  | ratio hkey hslash hn hd =>
    refine ⟨hn.isWritable fun hmem => hcomma (hkey.mem ?_),
      fun hmem => hslash (mem_of_mem_trim (hn.mem hmem)),
      hd.isWritable fun hmem => hcomma (hkey.mem ?_)⟩
    · exact List.mem_append_left _ (mem_of_mem_trim hmem)
    · exact List.mem_append_right _ (List.mem_cons_of_mem _ (mem_of_mem_trim hmem))
  | countIf hkey hcondition =>
    exact hcondition.isWritable fun hmem => hcomma (hkey.mem hmem)
  | sumIf hkey hcolon hfield hcondition =>
    refine ⟨hfield.isWritable fun hmem => hcomma (hkey.mem ?_),
      fun hmem => hcolon (hfield.mem hmem),
      hcondition.isWritable fun hmem => hcomma (hkey.mem ?_)⟩
    · exact List.mem_append_left _ hmem
    · exact List.mem_append_right _ (List.mem_cons_of_mem _ hmem)

/-! ## Lists of tokens -/

theorem flatten_append (tokens more : List String) :
    flatten (tokens ++ more) = flatten tokens ++ flatten more := List.flatMap_append

theorem flatten_singleton {token : String} (h : IsWritable token) : flatten [token] = [token] := by
  rw [flatten, List.flatMap_singleton, splitOn_of_not_mem h.comma, List.map_singleton,
    h.trim_toList, List.filter_singleton, List.isEmpty_eq_false_iff.2 h.toList_ne_nil]
  simp

/-- Writable tokens are taken one by one as they are. -/
theorem flatten_eq_self {tokens : List String} (h : ∀ t ∈ tokens, IsWritable t) :
    flatten tokens = tokens := by
  induction tokens with
  | nil => rfl
  | cons token tokens ih =>
    rw [List.forall_mem_cons] at h
    rw [← List.singleton_append, flatten_append, flatten_singleton h.1, ih h.2]

theorem comma_not_mem_of_mem_flatten {token : String} {tokens : List String}
    (h : token ∈ flatten tokens) : ',' ∉ token.toList := by
  obtain ⟨joined, _, h⟩ := List.mem_flatMap.1 h
  obtain ⟨cs, hcs, rfl⟩ := List.mem_map.1 h
  obtain ⟨piece, hpiece, rfl⟩ := List.mem_map.1 (List.mem_of_mem_filter hcs)
  rw [String.toList_ofList]
  exact fun hmem => not_mem_of_mem_splitOn hpiece (mem_of_mem_trim hmem)

end Token

namespace Metric

theorem wellFormed_of_ofTokens {tokens : List String} {ms : List Metric}
    (h : ofTokens tokens = .ok ms) : ∀ m ∈ ms, m.WellFormed := by
  intro m hm
  rcases ofTokens_cases h with rfl | ⟨_, hread⟩
  · rw [List.mem_singleton.1 hm]
    trivial
  · obtain ⟨token, htoken, hspells⟩ := Sequence.exists_of_mem_right hread hm
    exact hspells.wellFormed (Token.comma_not_mem_of_mem_flatten htoken)

theorem ofTokens_of_wellFormed {ms : List Metric} (hne : ms ≠ []) (h : ∀ m ∈ ms, m.WellFormed)
    {tokens : List String} (htokens : ms.mapM token = .ok tokens) :
    ofTokens tokens = .ok ms := by
  have hwritten := Sequence.mapM_ok_iff.1 htokens
  have hflat : Token.flatten tokens = tokens := by
    refine Token.flatten_eq_self fun t ht => ?_
    obtain ⟨m, hm, hmt⟩ := Sequence.exists_of_mem_right hwritten ht
    exact Token.isWritable_token (h m hm) hmt
  have hread : tokens.mapM ofToken = .ok ms := by
    have hboth := (List.forall₂_and_left ms tokens).2 ⟨h, hwritten⟩
    refine Sequence.mapM_ok_iff.2 (hboth.flip.imp fun t m hmt => ?_)
    exact ofToken_ok_iff.2 (Token.spells_token hmt.1 hmt.2)
  rw [ofTokens, hflat]
  cases tokens with
  | nil => exact absurd (List.forall₂_nil_right_iff.1 hwritten) hne
  | cons token tokens => exact hread

/-- Metrics come back from their tokens if and only if there are some and all are well-formed.
All that tokens are read as is of this kind, so it can be written and read again. -/
theorem ofTokens_roundTrip :
    (∀ ms : List Metric,
      (∃ tokens, ms.mapM token = .ok tokens ∧ ofTokens tokens = .ok ms) ↔
        ms ≠ [] ∧ ∀ m ∈ ms, m.WellFormed) ∧
    ∀ (tokens : List String) (ms : List Metric), ofTokens tokens = .ok ms →
      (ms ≠ [] ∧ ∀ m ∈ ms, m.WellFormed) ∧
        ∃ written, ms.mapM token = .ok written ∧ ofTokens written = .ok ms := by
  have hcomesBack {ms : List Metric} (hne : ms ≠ []) (h : ∀ m ∈ ms, m.WellFormed) :
      ∃ tokens, ms.mapM token = .ok tokens ∧ ofTokens tokens = .ok ms := by
    obtain ⟨tokens, htokens⟩ :=
      Sequence.exists_mapM_ok_iff.2 fun m hm => Token.exists_token_of_wellFormed (h m hm)
    exact ⟨tokens, htokens, ofTokens_of_wellFormed hne h htokens⟩
  refine ⟨fun ms => ⟨fun ⟨tokens, _, hread⟩ => ?_, fun h => hcomesBack h.1 h.2⟩,
    fun tokens ms hread => ?_⟩
  · exact ⟨ne_nil_of_ofTokens hread, wellFormed_of_ofTokens hread⟩
  · have hne := ne_nil_of_ofTokens hread
    have hwell := wellFormed_of_ofTokens hread
    exact ⟨⟨hne, hwell⟩, hcomesBack hne hwell⟩

/-- A slash after the first one and colons in a condition do no harm. -/
theorem ofTokens_roundTrip_separators :
    ofTokens [" RATIO : sum:a:b / Avg: c/d ,, sum-if:x : t = 10:00"] =
        .ok [.ratio ⟨.sum, "a:b"⟩ ⟨.avg, "c/d"⟩, .sumIf "x" "t = 10:00"] ∧
      ∃ written, [Metric.ratio ⟨.sum, "a:b"⟩ ⟨.avg, "c/d"⟩, .sumIf "x" "t = 10:00"].mapM token =
          .ok written ∧
        ofTokens written = .ok [.ratio ⟨.sum, "a:b"⟩ ⟨.avg, "c/d"⟩, .sumIf "x" "t = 10:00"] := by
  have hread : ofTokens [" RATIO : sum:a:b / Avg: c/d ,, sum-if:x : t = 10:00"] =
      .ok [.ratio ⟨.sum, "a:b"⟩ ⟨.avg, "c/d"⟩, .sumIf "x" "t = 10:00"] := by decide +kernel
  exact ⟨hread, (ofTokens_roundTrip.2 _ _ hread).2⟩

end Metric
end CrossCheck
