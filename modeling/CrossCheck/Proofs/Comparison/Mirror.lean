import CrossCheck.Proofs.Comparison.Row

/-!
A comparison read the other way.  What a row tells of two evaluations fixes its sides, so that the
rows of the two directions can be held against each other without looking at how they came about.
-/

namespace CrossCheck

theorem Value.DifferenceOverflows.symm {v w : Value} (h : v.DifferenceOverflows w) :
    w.DifferenceOverflows v := by
  obtain ⟨a, b, ha, hb, hlarge⟩ := h
  exact ⟨b, a, hb, ha, hlarge.symm⟩

theorem Definition.Overflows.symm {x : Definition} {source target : Record}
    (h : x.Overflows source target) : x.Overflows target source := by
  cases x with
  | direct m name => exact ⟨h.1, h.2.symm⟩
  | ratio m name n d => exact Or.symm h
  | other name => exact h

namespace Row

/-- The second row is the first one with its sides exchanged.  Differences of whole numbers are
exactly opposite. -/
structure Mirrors (row row' : Row) : Prop where
  metric : row'.metric = row.metric
  aliasName : row'.aliasName = row.aliasName
  source : row'.source = row.target
  target : row'.target = row.source
  difference : row'.difference = none ↔ row.difference = none
  opposite : ∀ a b, row.metric.valueType = .number → row.source = .number (.int a) →
    row.target = .number (.int b) →
    ∃ d, row.difference = some (.int d) ∧ row'.difference = some (.int (-d))

theorem IsQuotient.unique {v w : Value} {c c' : Cell} (h : IsQuotient v w c)
    (h' : IsQuotient v w c') : c = c' := by
  by_cases hnone : Value.NoQuotient v w
  · rw [h.null_iff.2 hnone, h'.null_iff.2 hnone]
  · obtain ⟨a, b, x, ha, hb, hx, rfl⟩ := h.divided fun hc => hnone (h.null_iff.1 hc)
    obtain ⟨a', b', y, ha', hb', hy, rfl⟩ := h'.divided fun hc => hnone (h'.null_iff.1 hc)
    rw [ha.unique ha', hb.unique hb', hy] at hx
    rw [Except.ok.inj hx]

theorem isDifference_swap {t : ValueType} {v w : Value} {d d' : Option Number}
    (h : Value.IsDifference t v w d) (h' : Value.IsDifference t w v d') :
    d' = none ↔ d = none := by
  have hand : t = .number ∧ w.IsNumeric ∧ v.IsNumeric ↔ t = .number ∧ v.IsNumeric ∧ w.IsNumeric :=
    and_congr_right fun _ => and_comm
  exact not_iff_not.1 (h'.isSome_iff.trans (hand.trans h.isSome_iff.symm))

theorem exists_valueAt_values (e : Evaluation) (name : String) :
    ∃ c : Cell, valueAt e.values name = c.toValue := by
  rw [valueAt, Evaluation.values, Named.get?_map]
  cases e.aggregates.get? name with
  | none => exact ⟨.null, rfl⟩
  | some c => exact ⟨c, rfl⟩

theorem admit?_valueAt {e : Evaluation} {name : String} {c : Cell}
    (h : Cell.admit? (valueAt e.values name) = some c) : valueAt e.values name = c.toValue := by
  obtain ⟨c', hc'⟩ := exists_valueAt_values e name
  rw [hc', Cell.admit?_toValue] at h
  rw [hc', Option.some.inj h]

theorem mirrors_of_tells {source target : Evaluation} {x : Definition} {row row' : Row}
    (h : Tells source.values target.values x row)
    (h' : Tells target.values source.values x row') : Mirrors row row' := by
  cases h with
  | direct hmetric hname hs ht hd =>
    cases h' with
    | direct hmetric' hname' hs' ht' hd' =>
      refine { metric := hmetric'.trans hmetric.symm, aliasName := hname'.trans hname.symm,
               source := ?_, target := ?_, difference := isDifference_swap hd hd',
               opposite := fun a b htype ha hb => ?_ }
      · exact Option.some.inj (hs'.symm.trans ht)
      · exact Option.some.inj (ht'.symm.trans hs)
      · rw [hmetric] at htype
        rw [admit?_valueAt hs, admit?_valueAt ht, ha, hb] at hd hd'
        refine ⟨b - a, hd.exact a b htype (.int a) (.int b), ?_⟩
        rw [hd'.exact b a htype (.int b) (.int a), Int.neg_sub]
  | ratio hmetric hname hs ht hd =>
    cases h' with
    | ratio hmetric' hname' hs' ht' hd' =>
      have hsource := hs'.unique ht
      have htarget := ht'.unique hs
      rw [hsource, htarget] at hd'
      refine { metric := hmetric'.trans hmetric.symm, aliasName := hname'.trans hname.symm,
               source := hsource, target := htarget, difference := isDifference_swap hd hd',
               opposite := fun a b _ ha _ => ?_ }
      -- a quotient is never a whole number
      obtain ⟨_, _, x, _, _, _, hx⟩ := hs.divided (ha ▸ nofun)
      exact nomatch ha.symm.trans hx

/-- Exchanging the environments exchanges the sides of every row. -/
theorem assembleAll_mirrors {object : String} {ms : List ResolvedMetric} {filter : Option String}
    {p : Plan} (hp : Compilation.compile object ms filter = .ok p) (source target : Evaluation) :
    (assembleAll p.definitions source.values target.values = .error (.arithmetic .overflow) ∧
      assembleAll p.definitions target.values source.values = .error (.arithmetic .overflow)) ∨
    ∃ rows rows', assembleAll p.definitions source.values target.values = .ok rows ∧
      assembleAll p.definitions target.values source.values = .ok rows' ∧
      List.Forall₂ Mirrors rows rows' := by
  have hsettled (e f : Evaluation) : AllSettled e.values f.values p.definitions :=
    allSettled (settles_of_compile hp e.isPlain_values f.isPlain_values)
  cases hsettled source target with
  | overflows h herror =>
    obtain ⟨x, hx, hlarge⟩ := h
    exact .inl ⟨herror, (hsettled target source).error hx hlarge.symm⟩
  | @rows rows h hok htells =>
    cases hsettled target source with
    | overflows h' _ =>
      obtain ⟨x, hx, hlarge⟩ := h'
      exact absurd hlarge.symm (h x hx)
    | @rows rows' _ hok' htells' =>
      refine .inr ⟨rows, rows', hok, hok', ?_⟩
      exact Sequence.forall₂_of_common htells htells' fun _ _ _ => mirrors_of_tells

def tenCount : Evaluation :=
  ⟨[("count__all", .number (.int 10)), ("sum__amount", .number (.float .nan))], []⟩

theorem assembleAll_mirrors_huge :
    Compilation.compile "Deal" shareMetrics none = .ok sharePlan ∧
      ∃ rows rows', assembleAll sharePlan.definitions tenCount.values hugeCount.values = .ok rows ∧
        assembleAll sharePlan.definitions hugeCount.values tenCount.values = .ok rows' ∧
        List.Forall₂ Mirrors rows rows' := by
  have hok : ∃ rows, assembleAll sharePlan.definitions tenCount.values hugeCount.values = .ok rows :=
    ⟨_, rfl⟩
  refine ⟨compile_shareMetrics, ?_⟩
  rcases assembleAll_mirrors compile_shareMetrics tenCount hugeCount with ⟨herror, -⟩ | hrows
  · obtain ⟨rows, hrows⟩ := hok
    exact absurd (herror.symm.trans hrows) Sequence.error_ne_ok
  · exact hrows

end Row
end CrossCheck
