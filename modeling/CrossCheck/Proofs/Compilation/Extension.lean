import CrossCheck.Proofs.Compilation.Sharing

/-!
Metrics that come later.  A draft only grows, so the plan of a longer list begins with the plan of
the shorter one; and a request for a call that the draft holds changes nothing, so metrics that
repeat earlier ones add their definitions and nothing else.
-/

namespace CrossCheck

/-- What `p` holds stands unchanged at the beginning of what `q` holds. -/
structure Plan.Extends (p q : Plan) : Prop where
  definitions : p.definitions <+: q.definitions
  expressions : p.expressions <+: q.expressions
  conditionals : p.conditionals <+: q.conditionals
  sampleFields : p.sampleFields <+: q.sampleFields

namespace ResolvedMetric

/-- The metric asks for what an earlier metric asks for, by the same call and for the same rows. -/
def Repeats (m : ResolvedMetric) (ms : List ResolvedMetric) : Prop :=
  m.isRatio = false ∧ ∃ n ∈ ms, n.spelled = m.spelled

theorem isRatio_of_spelled {m n : ResolvedMetric} (h : n.spelled = m.spelled) :
    n.isRatio = m.isRatio := by
  cases m <;> cases n <;> first | rfl | exact absurd h nofun

end ResolvedMetric

namespace Compilation

open Sequence

section
variable (object : String) (filter : Option String)

/-! ## Known calls -/

namespace Draft

/-- The call is stored under the alias, and its field is sampled already. -/
structure Holds (d : Draft) (c : Call) (name : String) : Prop where
  entry : (c.key, name) ∈ d.entries c
  field : ∀ f, c.field? = some f → f ∈ d.sampleFields

theorem Holds.sampled {d : Draft} {c : Call} {name : String} (h : d.Holds c name) :
    d.sampled c = d := by
  rw [Draft.sampled]
  split
  · next f hf => rw [sample, if_pos (List.contains_iff_mem.2 (h.field f hf))]
  · rfl

theorem request_of_holds {d : Draft} (hd : d.Sound) {r : TypedCall} {name : String}
    (h : d.Holds r.call name) : d.request object filter r = (name, d) := by
  rcases request_cases object filter d r with ⟨name', heq, hentry⟩ | ⟨_, _, hkey, _⟩
  · have hname : name' = name :=
      ((hd.entries r.call).key_eq_iff hentry h.entry).1 rfl
    rw [heq, h.sampled, hname]
  · exact absurd (List.mem_map_of_mem h.entry) hkey

/-- A metric of its own reads the alias and leaves the stores alone. -/
theorem compileMetric_of_holds {d : Draft} (hd : d.Sound) {m : ResolvedMetric} {r : TypedCall}
    {name : String} (hcalls : m.calls = [r]) (h : d.Holds r.call name) :
    compileMetric object filter d m =
      .ok (.direct m name, { d with metricAliases := d.metricAliases ++ [name] }) := by
  rw [compileMetric_direct object filter d hcalls, request_of_holds object filter hd h]
  rfl

end Draft

/-- The metric reads the alias under which the draft holds its only call. -/
inductive Draft.Reuses (d : Draft) : ResolvedMetric → Definition → Prop where
  | intro {m : ResolvedMetric} {r : TypedCall} {name : String} (hcalls : m.calls = [r])
      (h : d.Holds r.call name) : Reuses d m (.direct m name)

theorem Draft.Reuses.unique {d : Draft} (hd : d.Sound) {m : ResolvedMetric} {x y : Definition}
    (hx : d.Reuses m x) (hy : d.Reuses m y) : x = y := by
  cases hx with
  | @intro r name hcalls h =>
    cases hy with
    | intro hcalls' h' =>
      obtain rfl := List.singleton_inj.1 (hcalls.symm.trans hcalls')
      rw [((hd.entries r.call).key_eq_iff h.entry h'.entry).1 rfl]

theorem compileMetrics_of_reuses {d : Draft} (hd : d.Sound) {ms : List ResolvedMetric}
    {xs : List Definition} (h : List.Forall₂ d.Reuses ms xs) :
    compileMetrics object filter d ms =
      .ok (xs, { d with metricAliases := d.metricAliases ++ xs.map (·.aliasName) }) := by
  -- Only the record of aliases changes on the way, and nothing that is looked up depends on it.
  suffices hgeneral : ∀ aliases : List String,
      compileMetrics object filter { d with metricAliases := aliases } ms =
        .ok (xs, { d with metricAliases := aliases ++ xs.map (·.aliasName) }) from
    hgeneral d.metricAliases
  induction h with
  | nil =>
    intro aliases
    rw [List.map_nil, List.append_nil]
    rfl
  | cons hm _ ih =>
    intro aliases
    cases hm with
    | intro hcalls hholds =>
      have hfirst := Draft.compileMetric_of_holds object filter
        (d := { d with metricAliases := aliases }) ⟨hd.columns, hd.queries⟩ hcalls
        ⟨hholds.entry, hholds.field⟩
      rw [compileMetrics_cons_of_ok object filter hfirst, ih]
      simp only [Except.map, List.append_assoc]
      rfl

theorem compileMetrics_append {d e f : Draft} {ms extra : List ResolvedMetric}
    {xs ys : List Definition} (hms : compileMetrics object filter d ms = .ok (xs, e))
    (hextra : compileMetrics object filter e extra = .ok (ys, f)) :
    compileMetrics object filter d (ms ++ extra) = .ok (xs ++ ys, f) := by
  induction ms generalizing d xs with
  | nil =>
    obtain ⟨rfl, rfl⟩ := Prod.mk.inj (Except.ok.inj hms)
    exact hextra
  | cons m ms ih =>
    rw [compileMetrics, bind_ok_iff] at hms
    obtain ⟨⟨x, d'⟩, hm, hms⟩ := hms
    obtain ⟨⟨rest, e'⟩, hrest, hms⟩ := bind_ok_iff.1 hms
    obtain ⟨rfl, rfl⟩ := Prod.mk.inj (Except.ok.inj hms)
    rw [List.cons_append, compileMetrics_cons_of_ok object filter hm, ih hrest]
    rfl

end

/-! ## Repeated metrics -/

section
variable {object : String} {filter : Option String} {d : Draft} {ms : List ResolvedMetric}
  {definitions : List Definition}

/-- After a run the draft holds the call of each metric that is no ratio, under the alias that the
metric reads. -/
theorem Run.reuses (hrun : Run object filter .empty ms definitions d)
    (hd : d.Collects (ResolvedMetric.allCalls ms)) {i : Nat} {m n : ResolvedMetric}
    (hn : ms[i]? = some n) (hspelled : n.spelled = m.spelled) (hm : m.isSupported = true)
    (hratio : m.isRatio = false) :
    ∃ name, definitions[i]? = some (.direct n name) ∧ d.Reuses m (.direct m name) := by
  obtain ⟨c, hcalls⟩ := ResolvedMetric.calls_of_direct hm hratio
  obtain ⟨x, hx, hdefines⟩ := getElem?_right hrun.defines hn
  cases hdefines with
  | ratio =>
    have hn : m.isRatio = true := (ResolvedMetric.isRatio_of_spelled hspelled).symm
    exact absurd hratio (by rw [hn]; exact Bool.noConfusion)
  | @direct _ r name hncalls hentry =>
    have hcall : r.call = c := (ResolvedMetric.spelled_eq_iff hncalls hcalls).1 hspelled
    refine ⟨name, hx, .intro hcalls ⟨?_, fun f hf => ?_⟩⟩
    · rw [← hcall]
      exact hentry
    · have hmem : r.call ∈ ResolvedMetric.allCalls ms := by
        refine mem_allCalls.2 ⟨n, List.mem_of_getElem? hn, r, ?_, rfl⟩
        rw [hncalls]
        exact List.mem_singleton_self r
      rw [hd.fields, List.mem_eraseDups]
      exact List.mem_filterMap.2 ⟨r.call, hmem, by rw [hcall]; exact hf⟩

theorem Run.exists_reuses (hrun : Run object filter .empty ms definitions d)
    (hd : d.Collects (ResolvedMetric.allCalls ms)) {extra : List ResolvedMetric}
    (hextra : ∀ m ∈ extra, m.isSupported = true)
    (hrepeats : ∀ m ∈ extra, m.Repeats ms) : ∃ xs, List.Forall₂ d.Reuses extra xs := by
  induction extra with
  | nil => exact ⟨[], .nil⟩
  | cons m extra ih =>
    obtain ⟨hm, hextra⟩ := List.forall_mem_cons.1 hextra
    obtain ⟨⟨hratio, n, hn, hspelled⟩, hrepeats⟩ := List.forall_mem_cons.1 hrepeats
    obtain ⟨i, hi⟩ := List.mem_iff_getElem?.1 hn
    obtain ⟨name, _, hreuses⟩ := hrun.reuses hd hi hspelled hm hratio
    obtain ⟨xs, hxs⟩ := ih hextra hrepeats
    exact ⟨_, .cons hreuses hxs⟩

theorem extends_finish {e : Draft} (h : d.Extends e) (xs ys : List Definition) :
    (finish object filter xs d).Extends (finish object filter (xs ++ ys) e) where
  definitions := List.prefix_append xs ys
  expressions := h.expressions
  conditionals := h.conditionals.map _
  sampleFields := h.sampleFields

/-- Metrics that are added leave the plan of the ones before in place.  Metrics that repeat
earlier ones read the aliases of those, and no query changes. -/
theorem compile_append (object : String) (filter : Option String) {extra : List ResolvedMetric}
    (hne : ms ≠ []) (hsupported : ∀ m ∈ ms ++ extra, m.isSupported = true) :
    ∃ p q, compile object ms filter = .ok p ∧ compile object (ms ++ extra) filter = .ok q ∧
      p.Extends q ∧
      ((∀ m ∈ extra, m.Repeats ms) →
        q.expressions = p.expressions ∧ q.conditionals = p.conditionals ∧
        q.sampleFields = p.sampleFields ∧ q.query = p.query ∧
        ∀ (i j : Nat) (n m : ResolvedMetric), ms[i]? = some n → extra[j]? = some m →
          n.spelled = m.spelled →
          ∃ name, p.definitions[i]? = some (.direct n name) ∧
            q.definitions[ms.length + j]? = some (.direct m name)) := by
  have hms := fun m hm => hsupported m (List.mem_append_left extra hm)
  have hextra := fun m hm => hsupported m (List.mem_append_right ms hm)
  obtain ⟨xs, d, hxs, hrun⟩ := compileMetrics_run object (normalizeFilter filter) .empty hms
  obtain ⟨ys, e, hys, hmore⟩ := compileMetrics_run object (normalizeFilter filter) d hextra
  have hsound := hrun.sound Draft.sound_empty
  have hd := collects_compileMetrics _ _ hxs Draft.collects_empty
  rw [List.nil_append] at hd
  have hall := compileMetrics_append object (normalizeFilter filter) hxs hys
  refine ⟨_, _, compile_of_ok object filter hne hxs,
    compile_of_ok object filter (List.append_ne_nil_of_left_ne_nil hne _) hall,
    extends_finish hmore.grows xs ys, fun hrepeats => ?_⟩
  obtain ⟨reused, hreused⟩ := hrun.exists_reuses hd hextra hrepeats
  rw [compileMetrics_of_reuses object _ hsound hreused] at hys
  obtain ⟨rfl, rfl⟩ := Prod.mk.inj (Except.ok.inj hys)
  refine ⟨rfl, rfl, rfl, rfl, fun i j n m hn hm hspelled => ?_⟩
  obtain ⟨x, hx, hreuses⟩ := getElem?_right hreused hm
  have hratio := (hrepeats m (List.mem_of_getElem? hm)).1
  obtain ⟨name, hname, hfirst⟩ :=
    hrun.reuses hd hn hspelled (hextra m (List.mem_of_getElem? hm)) hratio
  refine ⟨name, hname, ?_⟩
  have hlength : xs.length = ms.length := hrun.defines.length_eq.symm
  show (xs ++ reused)[ms.length + j]? = _
  rw [List.getElem?_append_right (by omega), hlength, Nat.add_sub_cancel_left, hx,
    hreuses.unique hsound hfirst]

end

/-- Repeats of all that a metric of its own can ask for, the types and labels aside. -/
def repeatedMetrics : List ResolvedMetric :=
  [.fieldAggregate ⟨.sum, ⟨"Amount", "currency", "Sum"⟩, .number⟩,
   .countIf "a = 1" .number,
   .sumIf ⟨"Amount", "currency", "Sum"⟩ "a = 1" .number,
   .countDistinct ⟨"Id", "text", "Key"⟩ .number,
   .count .number]

theorem compile_append_repeated :
    repeatingMetrics ≠ [] ∧
      (∀ m ∈ repeatingMetrics ++ repeatedMetrics, m.isSupported = true) ∧
      (∀ m ∈ repeatedMetrics, m.Repeats repeatingMetrics) ∧
      ∃ p q, compile "Deal" repeatingMetrics none = .ok p ∧
        compile "Deal" (repeatingMetrics ++ repeatedMetrics) none = .ok q ∧ p.Extends q ∧
        q.query = p.query ∧ q.conditionals = p.conditionals ∧
        ∃ name,
          p.definitions[5]? = some (.direct
            (.sumIf ⟨"Amount", "double", "Amount"⟩ "a = 1" .number) name) ∧
          q.definitions[10]? = some (.direct
            (.sumIf ⟨"Amount", "currency", "Sum"⟩ "a = 1" .number) name) := by
  have hne : repeatingMetrics ≠ [] := by decide
  have hsupported : ∀ m ∈ repeatingMetrics ++ repeatedMetrics, m.isSupported = true := by decide
  have hrepeats : ∀ m ∈ repeatedMetrics, m.Repeats repeatingMetrics := by
    unfold ResolvedMetric.Repeats
    decide
  obtain ⟨p, q, hp, hq, hextends, hrest⟩ := compile_append "Deal" none hne hsupported
  obtain ⟨_, hconditionals, _, hquery, hread⟩ := hrest hrepeats
  exact ⟨hne, hsupported, hrepeats, p, q, hp, hq, hextends, hquery, hconditionals,
    hread 5 2 _ _ rfl rfl rfl⟩

end Compilation
end CrossCheck
