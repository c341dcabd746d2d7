import CrossCheck.Proofs.Compilation.Aliases
import CrossCheck.Proofs.Resolution
import CrossCheck.Proofs.Sequence.Distinct

/-!
Sharing is deduplication.  A draft is determined by the calls that were requested of it: its
columns, its conditional queries and its sampled fields are theirs in order of first occurrence,
without repeats.  `Draft.Collects` says this of one draft; a request, a metric and a list of
metrics each carry it on.
-/

namespace CrossCheck

/-- A conditional call has a query of its own; any other becomes a column. -/
def Call.isConditional (c : Call) : Bool := c.condition?.isSome

namespace ResolvedMetric

/-- All calls of a list of metrics, in the order in which they are requested: the numerator of a
ratio comes before its denominator. -/
def allCalls (ms : List ResolvedMetric) : List Call := ms.flatMap fun m => m.calls.map (·.call)

end ResolvedMetric

namespace Compilation

open Sequence

section
variable (object : String) (filter : Option String)

/-! ## One draft -/

namespace Draft

/-- The keys under which a draft keeps the calls of one sort. -/
def keys (d : Draft) : Bool → List String
  | true => d.conditionals.map (·.1)
  | false => d.expressions.map (·.call)

/-- What the draft holds is what the calls `cs` ask for, each once. -/
structure Collects (d : Draft) (cs : List Call) : Prop where
  keys : ∀ sort, d.keys sort = ((cs.filter (·.isConditional == sort)).map Call.key).eraseDups
  fields : d.sampleFields = (cs.filterMap Call.field?).eraseDups

theorem collects_empty : empty.Collects [] := ⟨fun sort => by cases sort <;> rfl, rfl⟩

theorem entries_map_fst (d : Draft) (c : Call) :
    (d.entries c).map (·.1) = d.keys c.isConditional := by
  rw [entries, Call.isConditional]
  cases c.condition? <;> simp [keys, columnEntries, queryEntries, Function.comp_def]

theorem keys_sampled (d : Draft) (c : Call) (sort : Bool) :
    (d.sampled c).keys sort = d.keys sort := by
  rw [sampled_eq]
  cases sort <;> rfl

theorem keys_add (d : Draft) (r : TypedCall) (name : String) (sort : Bool) :
    (d.add object filter r name).keys sort =
      if r.call.isConditional = sort then d.keys sort ++ [r.call.key] else d.keys sort := by
  rw [add, Call.isConditional]
  cases hc : r.call.condition? <;> cases sort <;>
    simp [keys, Call.key_eq_text, hc]

theorem sampleFields_add (d : Draft) (r : TypedCall) (name : String) :
    (d.add object filter r name).sampleFields = d.sampleFields := by
  rw [add]
  split <;> rfl

theorem sampleFields_request (d : Draft) (r : TypedCall) :
    (d.request object filter r).2.sampleFields = (d.sampled r.call).sampleFields := by
  rcases request_cases object filter d r with ⟨name, heq, _⟩ | ⟨name, _, _, heq⟩
  · rw [heq]
  · rw [heq, sampleFields_add]

theorem sampleFields_sampled {d : Draft} {cs : List Call}
    (h : d.sampleFields = (cs.filterMap Call.field?).eraseDups) (c : Call) :
    (d.sampled c).sampleFields = ((cs ++ [c]).filterMap Call.field?).eraseDups := by
  rw [sampled, List.filterMap_append]
  cases hc : c.field? with
  | none => simpa [hc] using h
  | some f =>
    have hlast : [c].filterMap Call.field? = [f] := by simp [hc]
    rw [hlast]
    by_cases hmem : f ∈ cs.filterMap Call.field?
    · rw [eraseDups_concat_of_mem hmem, ← h]
      simp [sample, h, hmem]
    · rw [eraseDups_concat_of_not_mem hmem, ← h]
      simp [sample, h, hmem]

/-- The keys after a request, by whether its call was known. -/
theorem keys_request (d : Draft) (r : TypedCall) (sort : Bool) :
    (d.request object filter r).2.keys sort =
      if r.call.isConditional = sort ∧ r.call.key ∉ d.keys sort then d.keys sort ++ [r.call.key]
      else d.keys sort := by
  rcases request_cases object filter d r with ⟨name, heq, hmem⟩ | ⟨name, _, hkey, heq⟩
  · have hknown : r.call.key ∈ d.keys r.call.isConditional := by
      rw [← entries_map_fst]
      exact List.mem_map_of_mem hmem
    rw [heq, keys_sampled, if_neg]
    rintro ⟨rfl, hnew⟩
    exact hnew hknown
  · rw [entries_map_fst] at hkey
    rw [heq, keys_add, keys_sampled]
    by_cases hsort : r.call.isConditional = sort
    · subst hsort
      rw [if_pos rfl, if_pos ⟨rfl, hkey⟩]
    · rw [if_neg hsort, if_neg fun h => hsort h.1]

theorem Collects.request {d : Draft} {cs : List Call} (h : d.Collects cs) (r : TypedCall) :
    (d.request object filter r).2.Collects (cs ++ [r.call]) := by
  refine ⟨fun sort => ?_, ?_⟩
  · rw [keys_request, h.keys, List.filter_append]
    by_cases hsort : r.call.isConditional = sort
    · have hlast : [r.call].filter (·.isConditional == sort) = [r.call] := by simp [hsort]
      rw [hlast, List.map_append, List.map_singleton]
      by_cases hmem : r.call.key ∈ (cs.filter (·.isConditional == sort)).map Call.key
      · rw [eraseDups_concat_of_mem hmem, if_neg fun hnew => hnew.2 (List.mem_eraseDups.2 hmem)]
      · rw [eraseDups_concat_of_not_mem hmem, if_pos ⟨hsort, mt List.mem_eraseDups.1 hmem⟩]
    · have hlast : [r.call].filter (·.isConditional == sort) = [] := by simp [hsort]
      rw [hlast, List.append_nil, if_neg fun hnew => hsort hnew.1]
  · rw [sampleFields_request]
    exact sampleFields_sampled h.fields r.call

end Draft

/-! ## Metrics -/

theorem collects_direct {d e : Draft} {m : ResolvedMetric} {r : TypedCall} {x : Definition}
    (hcalls : m.calls = [r]) (h : compileMetric object filter d m = .ok (x, e)) {cs : List Call}
    (hd : d.Collects cs) : e.Collects (cs ++ m.calls.map (·.call)) := by
  rw [compileMetric_direct object filter d hcalls] at h
  obtain rfl : _ = e := congrArg Prod.snd (Except.ok.inj h)
  have hone := hd.request object filter r
  rw [hcalls]
  exact ⟨hone.keys, hone.fields⟩

theorem collects_compileMetric {d e : Draft} {m : ResolvedMetric} {x : Definition}
    (h : compileMetric object filter d m = .ok (x, e)) {cs : List Call} (hd : d.Collects cs) :
    e.Collects (cs ++ m.calls.map (·.call)) := by
  cases m with
  | other kind name => exact absurd h error_ne_ok
  | ratio n q t =>
    -- Both legs are requested; the alias of the ratio is no part of what is collected.
    have hboth := (hd.request object filter n.typedCall).request object filter q.typedCall
    rw [List.append_assoc] at hboth
    obtain rfl : _ = e := congrArg Prod.snd (Except.ok.inj h)
    exact ⟨hboth.keys, hboth.fields⟩
  | _ => exact collects_direct object filter rfl h hd

theorem collects_compileMetrics {d e : Draft} {ms : List ResolvedMetric} {xs : List Definition}
    (h : compileMetrics object filter d ms = .ok (xs, e)) {cs : List Call} (hd : d.Collects cs) :
    e.Collects (cs ++ ResolvedMetric.allCalls ms) := by
  induction ms generalizing d xs cs with
  | nil =>
    obtain rfl : d = e := congrArg Prod.snd (Except.ok.inj h)
    rw [ResolvedMetric.allCalls, List.flatMap_nil, List.append_nil]
    exact hd
  | cons m ms ih =>
    rw [compileMetrics, bind_ok_iff] at h
    obtain ⟨⟨x, d'⟩, hm, h⟩ := h
    obtain ⟨⟨rest, e'⟩, hms, h⟩ := bind_ok_iff.1 h
    obtain rfl : e' = e := congrArg Prod.snd (Except.ok.inj h)
    have hrest := ih hms (collects_compileMetric object filter hm hd)
    rwa [List.append_assoc] at hrest

end

/-! ## The finished plan -/

/-- What follows a query under a filter: the trimmed filter, unless it is blank. -/
def whereClause (filter : Option String) : String :=
  match filter with
  | some f => if Text.strip f = "" then "" else " WHERE " ++ Text.strip f
  | none => ""

theorem selectQuery_normalizeFilter (object columns : String) (filter : Option String) :
    selectQuery object columns (normalizeFilter filter) =
      "SELECT " ++ columns ++ " FROM " ++ object ++ whereClause filter := by
  cases filter with
  | none => simp [selectQuery, normalizeFilter, whereClause]
  | some f =>
    by_cases hf : Text.strip f = "" <;>
      simp [selectQuery, normalizeFilter, whereClause, hf, String.append_assoc]

/-- What follows a query with a condition of its own: the condition, which is no condition if it is
empty, under the trimmed filter unless that is blank. -/
def conditionClause (filter : Option String) (condition : String) : String :=
  match Condition.trimmed filter with
  | some f => " WHERE (" ++ f ++ ") AND (" ++ condition ++ ")"
  | none => if condition = "" then "" else " WHERE " ++ condition

theorem selectQuery_bothHold_normalizeFilter (object columns : String) (filter : Option String)
    (condition : String) :
    selectQuery object columns (some (bothHold (normalizeFilter filter) condition)) =
      "SELECT " ++ columns ++ " FROM " ++ object ++ conditionClause filter condition := by
  rw [normalizeFilter_eq, conditionClause]
  cases Condition.trimmed filter with
  | none =>
    by_cases hcondition : condition = "" <;> simp [selectQuery, bothHold, hcondition,
      String.append_assoc]
  | some f =>
    have hopen (s : String) : " WHERE (" ++ s = " WHERE " ++ ("(" ++ s) := by
      rw [← String.append_assoc]
      rfl
    simp [selectQuery, bothHold, hopen, String.append_assoc]

end Compilation

theorem ResolvedMetric.filterMap_field?_calls (m : ResolvedMetric) :
    (m.calls.map (·.call)).filterMap Call.field? = m.spelled.references := by
  cases m <;> rfl

theorem ResolvedMetric.filterMap_field?_allCalls (ms : List ResolvedMetric) :
    (allCalls ms).filterMap Call.field? = ms.flatMap (·.spelled.references) := by
  simp only [allCalls, List.filterMap_flatMap, filterMap_field?_calls]

theorem Plan.sampleColumns_eq {p : Plan} {fields : List String}
    (h : p.sampleFields = fields.eraseDups) :
    p.sampleColumns = ("Id" :: fields).eraseDups := by
  rw [sampleColumns, h, List.eraseDups_cons, Sequence.eraseDups_filter]
  congr 1
  exact List.filter_congr fun f _ => Bool.eq_iff_iff.2 (by simp)

namespace Compilation

open Sequence

/-- The plan of some metrics as plain deduplication of their calls and fields makes it. -/
structure Deduplicates (object : String) (filter : Option String) (ms : List ResolvedMetric)
    (p : Plan) : Prop where
  expressions : p.expressions.map (·.call) =
    (((ResolvedMetric.allCalls ms).filter (!·.isConditional)).map Call.text).eraseDups
  /-- One query for every distinct kind, field and raw condition. -/
  conditionals : List.Forall₂
    (fun c q => ∃ condition, c.condition? = some condition ∧
      q = ⟨q.aliasName, c.text, Condition.normalize condition,
        "SELECT " ++ c.text ++ " " ++ q.aliasName ++ " FROM " ++ object ++
          conditionClause filter (Condition.normalize condition), .number⟩)
    ((ResolvedMetric.allCalls ms).filter (·.isConditional)).eraseDups p.conditionals
  query_eq_none_iff : p.query = none ↔ p.expressions = []
  query : p.expressions ≠ [] → p.query = some ("SELECT " ++
    ", ".intercalate (p.expressions.map fun e => e.call ++ " " ++ e.aliasName) ++
    " FROM " ++ object ++ whereClause filter)
  aliases : p.queriedAliases.Nodup
  sampleFields : p.sampleFields = (ms.flatMap (·.spelled.references)).eraseDups
  sampleQuery : ∀ size : Int, 0 < size → p.sampleQuery? size = some ("SELECT " ++
    ", ".intercalate ("Id" :: ms.flatMap (·.spelled.references)).eraseDups ++
    " FROM " ++ object ++ whereClause filter ++ " ORDER BY Id LIMIT " ++ toString size)

section
variable {object : String} {filter : Option String} {d : Draft} {ms : List ResolvedMetric}

theorem mem_allCalls {c : Call} :
    c ∈ ResolvedMetric.allCalls ms ↔ ∃ m ∈ ms, ∃ r ∈ m.calls, r.call = c := by
  simp [ResolvedMetric.allCalls]

/-- Under the colon rule the keys of the conditional queries stand for the calls themselves. -/
theorem eq_of_key_eq_of_mem
    (hcolon : ∀ f c t, ResolvedMetric.sumIf f c t ∈ ms → ':' ∉ f.name.toList) {c c' : Call}
    (hc : c ∈ (ResolvedMetric.allCalls ms).filter (·.isConditional))
    (hc' : c' ∈ (ResolvedMetric.allCalls ms).filter (·.isConditional)) (h : c.key = c'.key) :
    c = c' := by
  have hkeyed : ∀ x ∈ ResolvedMetric.allCalls ms, x.IsKeyed := by
    intro x hx
    obtain ⟨m, hm, r, hr, rfl⟩ := mem_allCalls.1 hx
    exact isKeyed_of_mem_calls hcolon hm hr
  obtain ⟨hmem, hconditional⟩ := List.mem_filter.1 hc
  obtain ⟨hmem', hconditional'⟩ := List.mem_filter.1 hc'
  exact Call.eq_of_key_eq (Option.isSome_iff_ne_none.1 hconditional)
    (Option.isSome_iff_ne_none.1 hconditional') (hkeyed c hmem) (hkeyed c' hmem') h

theorem forall₂_conditionals {definitions : List Definition}
    (hrun : Run object filter .empty ms definitions d)
    (hd : d.Collects (ResolvedMetric.allCalls ms))
    (hcolon : ∀ f c t, ResolvedMetric.sumIf f c t ∈ ms → ':' ∉ f.name.toList) :
    List.Forall₂
      (fun c q => ∃ condition, c.condition? = some condition ∧
        q = conditionalQuery object filter c.text condition q.aliasName)
      ((ResolvedMetric.allCalls ms).filter (·.isConditional)).eraseDups
      (d.conditionals.map (·.2)) := by
  have hmade := hrun.madeFor (fun r => r.call ∈ ResolvedMetric.allCalls ms)
    (fun m hm r hr => mem_allCalls.2 ⟨m, hm, r, hr, rfl⟩) (Draft.madeFor_empty _ _ _)
  have hkeys : d.conditionals.map (·.1) =
      ((ResolvedMetric.allCalls ms).filter (·.isConditional)).eraseDups.map Call.key := by
    rw [← eraseDups_map fun c hc c' hc' => eq_of_key_eq_of_mem hcolon hc hc']
    simpa [Draft.keys] using hd.keys true
  have hpairs : List.Forall₂ (fun c entry => c.key = entry.1)
      ((ResolvedMetric.allCalls ms).filter (·.isConditional)).eraseDups d.conditionals := by
    refine List.forall₂_map_left_iff.1 (List.forall₂_map_right_iff.1 ?_)
    rw [List.forall₂_eq_eq_eq]
    exact hkeys.symm
  refine List.forall₂_map_right_iff.2 (forall₂_imp_of_mem hpairs fun c hc entry hentry hkey => ?_)
  obtain ⟨r, condition, hr, hcondition, heq⟩ := hmade.conditionals entry hentry
  have hcall : c = r.call := by
    refine eq_of_key_eq_of_mem hcolon (List.mem_eraseDups.1 hc) (List.mem_filter.2 ⟨hr, ?_⟩) ?_
    · rw [Call.isConditional, hcondition]
      rfl
    · rw [hkey, heq]
  subst hcall
  exact ⟨condition, hcondition, congrArg Prod.snd heq⟩

/-- Compilation shares exactly the calls that are the same. -/
theorem compile_deduplicates (object : String) (filter : Option String) (hne : ms ≠ [])
    (hms : ∀ m ∈ ms, m.isSupported = true)
    (hcolon : ∀ f c t, ResolvedMetric.sumIf f c t ∈ ms → ':' ∉ f.name.toList) :
    ∃ p, compile object ms filter = .ok p ∧ Deduplicates object filter ms p := by
  obtain ⟨definitions, d, hcompiled, hrun⟩ :=
    compileMetrics_run object (normalizeFilter filter) .empty hms
  have hd := collects_compileMetrics _ _ hcompiled Draft.collects_empty
  rw [List.nil_append] at hd
  have hfields : d.sampleFields = (ms.flatMap (·.spelled.references)).eraseDups := by
    rw [hd.fields, ResolvedMetric.filterMap_field?_allCalls]
  refine ⟨_, compile_of_ok object filter hne hcompiled, ?_⟩
  refine { expressions := ?_,
           conditionals := (forall₂_conditionals hrun hd hcolon).imp fun c q h => ?_,
           query_eq_none_iff := ?_, query := fun hexpressions => ?_,
           aliases := (hrun.sound Draft.sound_empty).nodup_queriedAliases,
           sampleFields := hfields, sampleQuery := fun size hsize => ?_ }
  · have hkeys := hd.keys false
    have htexts : ∀ c ∈ (ResolvedMetric.allCalls ms).filter (!·.isConditional),
        c.key = c.text := fun c hc => Call.key_eq_text (by simpa [Call.isConditional] using
          (List.mem_filter.1 hc).2)
    rw [← List.map_congr_left htexts]
    simpa [Draft.keys, finish] using hkeys
  · obtain ⟨condition, hcondition, hq⟩ := h
    rw [conditionalQuery, selectQuery_bothHold_normalizeFilter, ← String.append_assoc] at hq
    exact ⟨condition, hcondition, hq⟩
  · simp [finish]
  · have hsome : ¬ d.expressions.isEmpty = true := fun h => hexpressions (List.isEmpty_iff.1 h)
    simp only [finish, if_neg hsome, selectQuery_normalizeFilter]
  · rw [Plan.sampleQuery?, if_neg (by omega), Plan.sampleColumns_eq hfields]
    exact congrArg (fun q => some (q ++ _ ++ _)) (selectQuery_normalizeFilter object _ filter)

end

/-- Every kind of metric, with repeats: legs that are metrics of their own, a condition that is
written twice, and the field that every sample begins with. -/
def repeatingMetrics : List ResolvedMetric :=
  [.ratio ⟨.sum, ⟨"Won", "double", "Won"⟩, .number⟩ ⟨.sum, ⟨"Amount", "double", "Amount"⟩, .number⟩
     .number,
   .fieldAggregate ⟨.sum, ⟨"Amount", "double", "Amount"⟩, .number⟩,
   .count .number,
   .countIf "a = 1" .number,
   .countDistinct ⟨"Id", "id", "Id"⟩ .number,
   .sumIf ⟨"Amount", "double", "Amount"⟩ "a = 1" .number,
   .countIf "a = 1" .number,
   .count .number]

theorem compile_deduplicates_repeating :
    repeatingMetrics ≠ [] ∧ (∀ m ∈ repeatingMetrics, m.isSupported = true) ∧
      (∀ f c t, ResolvedMetric.sumIf f c t ∈ repeatingMetrics → ':' ∉ f.name.toList) ∧
      ∃ p, compile "Deal" repeatingMetrics (some " open = true ") = .ok p ∧
        Deduplicates "Deal" (some " open = true ") repeatingMetrics p := by
  have hne : repeatingMetrics ≠ [] := by decide
  have hms : ∀ m ∈ repeatingMetrics, m.isSupported = true := by decide
  have hcolon : ∀ f c t, ResolvedMetric.sumIf f c t ∈ repeatingMetrics → ':' ∉ f.name.toList := by
    intro f c t hmem
    simp only [repeatingMetrics, List.mem_cons, reduceCtorEq, List.not_mem_nil, or_false,
      false_or, ResolvedMetric.sumIf.injEq] at hmem
    rw [hmem.1]
    decide
  exact ⟨hne, hms, hcolon, compile_deduplicates "Deal" (some " open = true ") hne hms hcolon⟩
end Compilation
end CrossCheck
