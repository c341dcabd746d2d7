import CrossCheck.Proofs.Compilation.Run

/-!
The aliases of a compiled plan.  Columns and conditional queries answer into one record, so no two
of them may share an alias; definitions of ratios stand beside them under aliases of their own.
-/

namespace CrossCheck

namespace Plan

/-- The aliases under which the queries of a plan answer. -/
def queriedAliases (p : Plan) : List String :=
  p.expressions.map (·.aliasName) ++ p.conditionals.map (·.aliasName)

/-- What the readers of a plan rely on. -/
structure AliasDiscipline (p : Plan) : Prop where
  /-- No alias is answered twice. -/
  distinct : p.queriedAliases.Nodup
  /-- A ratio has an alias that no other definition has. -/
  ratios : ∀ (i j : Nat) (x y : Definition), p.definitions[i]? = some x →
    p.definitions[j]? = some y → i ≠ j → x.isRatio = true → x.aliasName ≠ y.aliasName
  ratiosUnqueried : ∀ x ∈ p.definitions, x.isRatio = true → x.aliasName ∉ p.queriedAliases
  names : ∀ name ∈ p.queriedAliases ++ p.definitions.map (·.aliasName), Alias.isName name = true
  /-- What is read is answered exactly once. -/
  reads : ∀ x ∈ p.definitions, ∀ name ∈ x.reads, p.queriedAliases.count name = 1
  /-- Direct metrics share an alias exactly when they make the same call. -/
  shared : ∀ (m n : ResolvedMetric) (name name' : String),
    .direct m name ∈ p.definitions → .direct n name' ∈ p.definitions →
    (name = name' ↔ m.spelled = n.spelled)

end Plan

namespace Compilation

open Alias

variable {object : String} {filter : Option String} {d : Draft} {definitions : List Definition}
  {ms : List ResolvedMetric}

theorem queriedAliases_finish :
    (finish object filter definitions d).queriedAliases =
      d.columnEntries.map (·.2) ++ d.queryEntries.map (·.2) := by
  simp [Plan.queriedAliases, finish, Draft.columnEntries, Draft.queryEntries, Function.comp_def]

theorem mem_queriedAliases {c : Call} {entry : String × String} (h : entry ∈ d.entries c) :
    entry.2 ∈ (finish object filter definitions d).queriedAliases := by
  rw [queriedAliases_finish, List.mem_append]
  rw [Draft.entries] at h
  split at h
  · exact .inr (List.mem_map_of_mem h)
  · exact .inl (List.mem_map_of_mem h)

theorem Draft.Sound.nodup_queriedAliases (hd : d.Sound) :
    (finish object filter definitions d).queriedAliases.Nodup := by
  rw [queriedAliases_finish, List.nodup_append]
  refine ⟨hd.columns.names, hd.queries.names, fun a ha b hb => ?_⟩
  obtain ⟨x, hx, rfl⟩ := List.mem_map.1 ha
  obtain ⟨y, hy, rfl⟩ := List.mem_map.1 hb
  exact columns_exclude_conditionals.ne (hd.columns.allocated x hx).begins
    (hd.queries.allocated y hy).begins

theorem Draft.Sound.isName_of_mem_queriedAliases (hd : d.Sound) {name : String}
    (h : name ∈ (finish object filter definitions d).queriedAliases) : isName name = true := by
  rw [queriedAliases_finish, List.mem_append] at h
  rcases h with h | h
  · obtain ⟨x, hx, rfl⟩ := List.mem_map.1 h
    exact (hd.columns.allocated x hx).isName fun s hs => isName_of_start s (by simp [hs])
  · obtain ⟨x, hx, rfl⟩ := List.mem_map.1 h
    exact (hd.queries.allocated x hx).isName fun s hs => isName_of_start s (by simp [hs])

theorem Draft.Sound.not_mem_queriedAliases (hd : d.Sound) {name : String}
    (h : Allocated ratioStarts name) :
    name ∉ (finish object filter definitions d).queriedAliases := by
  rw [queriedAliases_finish, List.mem_append]
  rintro (hmem | hmem)
  · obtain ⟨x, hx, rfl⟩ := List.mem_map.1 hmem
    exact columns_exclude_ratios.ne (hd.columns.allocated x hx).begins h.begins rfl
  · obtain ⟨x, hx, rfl⟩ := List.mem_map.1 hmem
    exact conditionals_exclude_ratios.ne (hd.queries.allocated x hx).begins h.begins rfl

/-- Whatever a definition reads is answered. -/
theorem Draft.Defines.mem_queriedAliases {m : ResolvedMetric} {x : Definition}
    (h : d.Defines m x) {name : String} (hname : name ∈ x.reads) :
    name ∈ (finish object filter definitions d).queriedAliases := by
  cases h with
  | direct _ hentry =>
    rw [List.mem_singleton.1 hname]
    exact Compilation.mem_queriedAliases hentry
  | ratio hnumerator hdenominator =>
    rcases List.mem_cons.1 hname with rfl | hname
    · exact Compilation.mem_queriedAliases hnumerator
    · rw [List.mem_singleton.1 hname]
      exact Compilation.mem_queriedAliases hdenominator

theorem Draft.Defines.isName_aliasName (hd : d.Sound) {m : ResolvedMetric} {x : Definition}
    (h : d.Defines m x) : isName x.aliasName = true := by
  cases h with
  | @direct _ r name _ hentry =>
    exact ((hd.entries r.call).allocated _ hentry).isName fun s => isName_of_callStart r.call
  | ratio _ _ hname => exact hname.isName fun s hs => isName_of_start s (by simp [hs])

/-- Keyed calls are what the reader of metrics hands over: it ends the field of a sum at the first
colon. -/
theorem isKeyed_of_mem_calls
    (h : ∀ f c t, ResolvedMetric.sumIf f c t ∈ ms → ':' ∉ f.name.toList) {m : ResolvedMetric}
    (hm : m ∈ ms) {r : TypedCall} (hr : r ∈ m.calls) : r.call.IsKeyed := by
  cases m with
  | other kind name => exact absurd hr List.not_mem_nil
  | ratio n q t =>
    rcases List.mem_cons.1 hr with rfl | hr
    · exact trivial
    · rw [List.mem_singleton.1 hr]
      exact trivial
  | sumIf f c t =>
    rw [List.mem_singleton.1 hr]
    exact h f c t hm
  | _ =>
    rw [List.mem_singleton.1 hr]
    exact trivial

theorem Run.shared (hrun : Run object filter .empty ms definitions d)
    (h : ∀ f c t, ResolvedMetric.sumIf f c t ∈ ms → ':' ∉ f.name.toList) {m n : ResolvedMetric}
    {name name' : String} (hm : .direct m name ∈ definitions)
    (hn : .direct n name' ∈ definitions) : name = name' ↔ m.spelled = n.spelled := by
  have hd := hrun.sound Draft.sound_empty
  obtain ⟨m', hm', hmdef⟩ := Sequence.exists_of_mem_right hrun.defines hm
  obtain ⟨n', hn', hndef⟩ := Sequence.exists_of_mem_right hrun.defines hn
  cases hmdef with
  | direct hmcalls hmentry =>
    cases hndef with
    | direct hncalls hnentry =>
      have hmkeyed := isKeyed_of_mem_calls h hm' (hmcalls ▸ List.mem_cons_self)
      have hnkeyed := isKeyed_of_mem_calls h hn' (hncalls ▸ List.mem_cons_self)
      rw [ResolvedMetric.spelled_eq_iff hmcalls hncalls]
      exact (hd.call_eq_iff hmkeyed hnkeyed hmentry hnentry).symm

theorem Run.ratios_ne (hrun : Run object filter .empty ms definitions d) {i j : Nat}
    {x y : Definition} (hi : definitions[i]? = some x) (hj : definitions[j]? = some y)
    (hij : i ≠ j) (hx : x.isRatio = true) : x.aliasName ≠ y.aliasName := by
  have hapart := List.pairwise_iff_getElem.1 (hrun.apart Draft.sound_empty)
  obtain ⟨hilt, hxi⟩ := List.getElem?_eq_some_iff.1 hi
  obtain ⟨hjlt, hyj⟩ := List.getElem?_eq_some_iff.1 hj
  subst hxi
  subst hyj
  rcases Nat.lt_or_gt_of_ne hij with hlt | hgt
  · exact hapart i j hilt hjlt hlt (by rw [hx]; rfl)
  · exact (hapart j i hjlt hilt hgt (by rw [hx, Bool.or_true])).symm

/-- Metrics of the six kinds compile to a plan whose definitions belong to them in order and whose
aliases are disciplined, if no field of a conditional sum holds a colon. -/
theorem compile_aliasDiscipline (object : String) (filter : Option String) (hne : ms ≠ [])
    (hms : ∀ m ∈ ms, m.isSupported = true)
    (hcolon : ∀ f c t, ResolvedMetric.sumIf f c t ∈ ms → ':' ∉ f.name.toList) :
    ∃ p, compile object ms filter = .ok p ∧
      List.Forall₂ (fun m x => x.metric? = some m ∧ x.isRatio = m.isRatio) ms p.definitions ∧
      p.AliasDiscipline := by
  obtain ⟨definitions, d, hcompiled, hrun⟩ := compile_run object filter hne hms
  have hd := hrun.sound Draft.sound_empty
  refine ⟨_, hcompiled, hrun.defines.imp fun m x h => ⟨h.metric?_eq, h.isRatio_eq⟩, ?_⟩
  refine { distinct := hd.nodup_queriedAliases, ratios := fun i j x y hi hj => hrun.ratios_ne hi hj,
           ratiosUnqueried := fun x hx hratio => ?_, names := fun name hname => ?_,
           reads := fun x hx name hname => ?_,
           shared := fun m n name name' hm hn => hrun.shared hcolon hm hn }
  · obtain ⟨m, _, hdefines⟩ := Sequence.exists_of_mem_right hrun.defines hx
    cases hdefines with
    | direct => exact absurd hratio Bool.false_ne_true
    | ratio _ _ hname => exact hd.not_mem_queriedAliases hname
  · rcases List.mem_append.1 hname with hname | hname
    · exact hd.isName_of_mem_queriedAliases hname
    · obtain ⟨x, hx, rfl⟩ := List.mem_map.1 hname
      obtain ⟨m, _, hdefines⟩ := Sequence.exists_of_mem_right hrun.defines hx
      exact hdefines.isName_aliasName hd
  · obtain ⟨m, _, hdefines⟩ := Sequence.exists_of_mem_right hrun.defines hx
    exact List.count_eq_one_of_mem hd.nodup_queriedAliases (hdefines.mem_queriedAliases hname)

/-- Fields that sanitize to one alias or to its numbered form, and conditions that differ in a sign
only. -/
def collidingMetrics : List ResolvedMetric :=
  [.fieldAggregate ⟨.sum, ⟨"a b", "double", "A"⟩, .number⟩,
   .fieldAggregate ⟨.sum, ⟨"A.b", "double", "A"⟩, .number⟩,
   .fieldAggregate ⟨.sum, ⟨"a_b_1", "double", "A"⟩, .number⟩,
   .ratio ⟨.sum, ⟨"a b", "double", "A"⟩, .number⟩ ⟨.avg, ⟨"A.b", "double", "A"⟩, .number⟩ .number,
   .countIf "x = 1" .number,
   .countIf "x > 1" .number,
   .sumIf ⟨"a b", "double", "A"⟩ "x = 1" .number]

theorem compile_aliasDiscipline_colliding :
    collidingMetrics ≠ [] ∧ (∀ m ∈ collidingMetrics, m.isSupported = true) ∧
      (∀ f c t, ResolvedMetric.sumIf f c t ∈ collidingMetrics → ':' ∉ f.name.toList) ∧
      ∃ p, compile "Deal" collidingMetrics (some "open = true") = .ok p ∧
        List.Forall₂ (fun m x => x.metric? = some m ∧ x.isRatio = m.isRatio) collidingMetrics
          p.definitions ∧
        p.AliasDiscipline := by
  have hne : collidingMetrics ≠ [] := by decide
  have hms : ∀ m ∈ collidingMetrics, m.isSupported = true := by decide
  have hcolon : ∀ f c t, ResolvedMetric.sumIf f c t ∈ collidingMetrics → ':' ∉ f.name.toList := by
    intro f c t hmem
    simp only [collidingMetrics, List.mem_cons, reduceCtorEq, List.not_mem_nil, or_false,
      false_or, ResolvedMetric.sumIf.injEq] at hmem
    rw [hmem.1]
    decide
  exact ⟨hne, hms, hcolon, compile_aliasDiscipline "Deal" (some "open = true") hne hms hcolon⟩

end Compilation
end CrossCheck
