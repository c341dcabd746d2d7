import CrossCheck.Proofs.Alias
import CrossCheck.Proofs.Metric

/-!
What one request does to a plan in the making.  `request_cases` says all of it: a call that is
known keeps its alias, and a call that is new is stored at the end under a free one.  Soundness of
the stored aliases and growth of the draft are read off it.
-/

namespace CrossCheck
namespace Compilation

open Alias

/-! ## Beginnings of aliases -/

def columnStarts : List String :=
  ["count__", "count_distinct__", "sum__", "avg__", "min__", "max__", "median__", "stddev__",
   "variance__"]

def conditionalStarts : List String := ["count_if__", "sum_if__"]

def ratioStarts : List String := ["ratio__"]

theorem columns_exclude_conditionals : Exclusive columnStarts conditionalStarts := by decide

theorem columns_exclude_ratios : Exclusive columnStarts ratioStarts := by decide

theorem conditionals_exclude_ratios : Exclusive conditionalStarts ratioStarts := by decide

theorem isName_of_start :
    ∀ s ∈ columnStarts ++ conditionalStarts ++ ratioStarts, isName s = true := by decide

/-- The beginnings that the alias of a call can have. -/
def callStarts (c : Call) : List String :=
  match c.condition? with
  | some _ => conditionalStarts
  | none => columnStarts

theorem isName_of_callStart (c : Call) {s : String} (h : s ∈ callStarts c) : isName s = true := by
  rw [callStarts] at h
  split at h
  · exact isName_of_start s (List.mem_append_left _ (List.mem_append_right _ h))
  · exact isName_of_start s (List.mem_append_left _ (List.mem_append_left _ h))

theorem callStarts_exclude_ratios (c : Call) : Exclusive (callStarts c) ratioStarts := by
  rw [callStarts]
  split
  · exact conditionals_exclude_ratios
  · exact columns_exclude_ratios

theorem name_append_mem_columnStarts (f : AggregateFunction) : f.name ++ "__" ∈ columnStarts := by
  cases f <;> decide

theorem all_isAllowed_name_append (f : AggregateFunction) :
    (f.name ++ "__").toList.all isAllowed = true := by
  cases f <;> decide

theorem allocated_base (c : Call) : Allocated (callStarts c) c.base := by
  cases c with
  | count =>
    have hallowed : "count__all".toList.all isAllowed = true := by decide
    exact ⟨⟨"count__", by decide, by decide⟩, List.all_eq_true.1 hallowed⟩
  | aggregate a =>
    exact allocated_sanitize (name_append_mem_columnStarts a.function)
      (all_isAllowed_name_append a.function) a.field
  | countDistinct f =>
    have hmem : "count_distinct__" ∈ columnStarts := by decide
    exact allocated_sanitize hmem (by decide) f
  | countIf condition =>
    have hmem : "count_if__" ∈ conditionalStarts := by decide
    exact allocated_sanitize hmem (by decide) _
  | sumIf f condition =>
    have hmem : "sum_if__" ∈ conditionalStarts := by decide
    rw [Call.base, String.append_assoc, String.append_assoc]
    exact allocated_sanitize hmem (by decide) _

theorem allocated_ratioBase (n d : ResolvedAggregate) : Allocated ratioStarts (ratioBase n d) := by
  have hmem : "ratio__" ∈ ratioStarts := by decide
  simp only [ratioBase, String.append_assoc]
  exact allocated_sanitize hmem (by decide) _

/-! ## Requests -/

section
variable (object : String) (filter : Option String)

/-- The query of a conditional call that is stored under an alias. -/
def conditionalQuery (call condition aliasName : String) : ConditionalQuery :=
  ⟨aliasName, call, Condition.normalize condition,
    selectQuery object (call ++ " " ++ aliasName)
      (some (bothHold filter (Condition.normalize condition))), .number⟩

namespace Draft

/-- The field of a call is sampled, whether or not the call is known. -/
def sampled (d : Draft) (c : Call) : Draft :=
  match c.field? with
  | some f => d.sample f
  | none => d

/-- Compilation of a call by itself. -/
def request (d : Draft) (r : TypedCall) : String × Draft :=
  match r.call with
  | .countIf c => conditional object filter d r.call.key r.call.text c "count_if__"
  | .sumIf f c =>
    conditional object filter (d.sample f) r.call.key r.call.text c ("sum_if__" ++ f ++ "_")
  | c => (d.sampled c).column c.text c.base r.valueType

/-- An aggregate is requested under the text that its metric is shown by. -/
theorem aggregate_eq_request (d : Draft) (a : ResolvedAggregate) :
    d.aggregate a = d.request object filter a.typedCall := by
  rw [Draft.aggregate, ResolvedAggregate.displayName, ← Call.functionName_eq]
  rfl

/-- Stores a call under an alias, without a look at what is there. -/
def add (d : Draft) (r : TypedCall) (aliasName : String) : Draft :=
  match r.call.condition? with
  | some c =>
    { d with conditionals := d.conditionals ++
        [(r.call.key, conditionalQuery object filter r.call.text c aliasName)] }
  | none => { d with expressions := d.expressions ++ [⟨aliasName, r.call.text, r.valueType⟩] }

/-- Columns by their calls. -/
def columnEntries (d : Draft) : List (String × String) :=
  d.expressions.map fun e => (e.call, e.aliasName)

def queryEntries (d : Draft) : List (String × String) :=
  d.conditionals.map fun entry => (entry.1, entry.2.aliasName)

/-- The entries among which a call has its place. -/
def entries (d : Draft) (c : Call) : List (String × String) :=
  match c.condition? with
  | some _ => d.queryEntries
  | none => d.columnEntries

theorem sample_eq (d : Draft) (f : String) :
    d.sample f = { d with sampleFields := (d.sample f).sampleFields } := by
  rw [sample]
  split <;> rfl

theorem sampled_eq (d : Draft) (c : Call) :
    d.sampled c = { d with sampleFields := (d.sampled c).sampleFields } := by
  rw [sampled]
  split
  · exact sample_eq d _
  · rfl

theorem column_cases (d : Draft) (call base : String) (t : ValueType) :
    (∃ name, d.column call base t = (name, d) ∧ (call, name) ∈ d.columnEntries) ∨
    (∃ name, name = unique (d.columnEntries.map (·.2)) base ∧ call ∉ d.columnEntries.map (·.1) ∧
      d.column call base t =
        (name, { d with expressions := d.expressions ++ [⟨name, call, t⟩] })) := by
  have hkeys : d.columnEntries.map (·.1) = d.expressions.map (·.call) := by simp [columnEntries]
  have hnames : d.columnEntries.map (·.2) = d.expressions.map (·.aliasName) := by
    simp [columnEntries]
  rw [column]
  split
  · next e he =>
    have hcall : e.call = call := by simpa using List.find?_some he
    refine .inl ⟨e.aliasName, rfl, ?_⟩
    exact List.mem_map.2 ⟨e, List.mem_of_find?_eq_some he, by rw [hcall]⟩
  · next hnone =>
    refine .inr ⟨_, rfl, ?_, ?_⟩
    · rw [hkeys]
      intro hmem
      obtain ⟨e, he, hcall⟩ := List.mem_map.1 hmem
      exact absurd (List.find?_eq_none.1 hnone e he) (by simp [hcall])
    · rw [hnames]

theorem conditional_cases (d : Draft) (key call condition start : String) :
    (∃ name, conditional object filter d key call condition start = (name, d) ∧
      (key, name) ∈ d.queryEntries) ∨
    (∃ name, name = unique (d.queryEntries.map (·.2))
        (sanitize (start ++ conditionPart (Condition.normalize condition))) ∧
      key ∉ d.queryEntries.map (·.1) ∧
      conditional object filter d key call condition start =
        (name, { d with conditionals := d.conditionals ++
          [(key, conditionalQuery object filter call condition name)] })) := by
  have hkeys : d.queryEntries.map (·.1) = d.conditionals.map (·.1) := by simp [queryEntries]
  have hnames : d.queryEntries.map (·.2) = d.conditionals.map (·.2.aliasName) := by
    simp [queryEntries]
  rw [conditional]
  split
  · next q hq =>
    obtain ⟨before, after, hsplit, _⟩ := List.lookup_eq_some_iff.1 hq
    refine .inl ⟨q.aliasName, rfl, List.mem_map.2 ⟨(key, q), ?_, rfl⟩⟩
    rw [hsplit]
    exact List.mem_append_right _ List.mem_cons_self
  · next hnone =>
    refine .inr ⟨_, rfl, ?_, ?_⟩
    · rw [hkeys]
      intro hmem
      obtain ⟨entry, hentry, hkey⟩ := List.mem_map.1 hmem
      exact absurd (List.lookup_eq_none_iff.1 hnone entry hentry) (by simp [hkey])
    · rw [hnames, conditionalQuery]

theorem columnEntries_sampled (d : Draft) (c : Call) :
    (d.sampled c).columnEntries = d.columnEntries := by rw [sampled_eq]; rfl

theorem queryEntries_sampled (d : Draft) (c : Call) :
    (d.sampled c).queryEntries = d.queryEntries := by rw [sampled_eq]; rfl

/-- A known call keeps its alias, and a new one is stored at the end under a free alias.  Either
way its field is sampled. -/
theorem request_cases (d : Draft) (r : TypedCall) :
    (∃ name, d.request object filter r = (name, d.sampled r.call) ∧
      (r.call.key, name) ∈ d.entries r.call) ∨
    (∃ name, name = unique ((d.entries r.call).map (·.2)) r.call.base ∧
      r.call.key ∉ (d.entries r.call).map (·.1) ∧
      d.request object filter r = (name, (d.sampled r.call).add object filter r name)) := by
  obtain ⟨c, t⟩ := r
  cases c with
  | count => exact column_cases d _ _ t
  | aggregate a =>
    have h := column_cases (d.sample a.field) (Call.aggregate a).text (Call.aggregate a).base t
    rw [show (d.sample a.field).columnEntries = d.columnEntries from
      columnEntries_sampled d (.aggregate a)] at h
    exact h
  | countDistinct f =>
    have h := column_cases (d.sample f) (Call.countDistinct f).text (Call.countDistinct f).base t
    rw [show (d.sample f).columnEntries = d.columnEntries from
      columnEntries_sampled d (.countDistinct f)] at h
    exact h
  | countIf c => exact conditional_cases object filter d _ _ c "count_if__"
  | sumIf f c =>
    have h := conditional_cases object filter (d.sample f) (Call.sumIf f c).key
      (Call.sumIf f c).text c ("sum_if__" ++ f ++ "_")
    rw [show (d.sample f).queryEntries = d.queryEntries from
      queryEntries_sampled d (.sumIf f c)] at h
    exact h

/-! ## Sound drafts -/

/-- Columns and conditional queries are each stored once, under aliases of their own kind. -/
structure Sound (d : Draft) : Prop where
  columns : Directory columnStarts d.columnEntries
  queries : Directory conditionalStarts d.queryEntries

theorem sound_empty : Sound .empty := ⟨Directory.empty _, Directory.empty _⟩

theorem Sound.entries {d : Draft} (h : d.Sound) (c : Call) :
    Directory (callStarts c) (d.entries c) := by
  rw [Draft.entries, callStarts]
  split
  · exact h.queries
  · exact h.columns

/-- Entries of one draft belong to one call if and only if they have one alias. -/
theorem Sound.call_eq_iff {d : Draft} (hd : d.Sound) {c c' : Call} (hc : c.IsKeyed)
    (hc' : c'.IsKeyed) {name name' : String} (h : (c.key, name) ∈ d.entries c)
    (h' : (c'.key, name') ∈ d.entries c') : c = c' ↔ name = name' := by
  cases hx : c.condition? with
  | none =>
    cases hy : c'.condition? with
    | none =>
      simp only [Draft.entries, hx, hy] at h h'
      rw [← hd.columns.key_eq_iff h h', Call.key_eq_text hx, Call.key_eq_text hy]
      exact ⟨congrArg Call.text, Call.eq_of_text_eq hx hy⟩
    | some y =>
      simp only [Draft.entries, hx, hy] at h h'
      have hbegins := (hd.columns.allocated _ h).begins
      have hbegins' := (hd.queries.allocated _ h').begins
      refine ⟨fun heq => ?_, fun heq => ?_⟩
      · exact absurd (heq ▸ hx) (by simp [hy])
      · exact absurd heq (columns_exclude_conditionals.ne hbegins hbegins')
  | some x =>
    cases hy : c'.condition? with
    | none =>
      simp only [Draft.entries, hx, hy] at h h'
      have hbegins := (hd.queries.allocated _ h).begins
      have hbegins' := (hd.columns.allocated _ h').begins
      refine ⟨fun heq => ?_, fun heq => ?_⟩
      · exact absurd (heq ▸ hx) (by simp [hy])
      · exact absurd heq.symm (columns_exclude_conditionals.ne hbegins' hbegins)
    | some y =>
      simp only [Draft.entries, hx, hy] at h h'
      rw [← hd.queries.key_eq_iff h h']
      exact ⟨congrArg Call.key, Call.eq_of_key_eq (by simp [hx]) (by simp [hy]) hc hc'⟩

theorem entries_add (d : Draft) (r : TypedCall) (name : String) :
    (d.add object filter r name).entries r.call = d.entries r.call ++ [(r.call.key, name)] := by
  obtain ⟨c, t⟩ := r
  cases c <;> simp [add, Draft.entries, columnEntries, queryEntries, Call.condition?, Call.key,
    conditionalQuery]

theorem Sound.sampled {d : Draft} (h : d.Sound) (c : Call) : (d.sampled c).Sound := by
  refine ⟨?_, ?_⟩
  · rw [columnEntries_sampled]
    exact h.columns
  · rw [queryEntries_sampled]
    exact h.queries

theorem Sound.add {d : Draft} (h : d.Sound) {r : TypedCall} {name : String}
    (hnew : Directory (callStarts r.call) (d.entries r.call ++ [(r.call.key, name)])) :
    (d.add object filter r name).Sound := by
  rw [← entries_add object filter] at hnew
  cases hc : r.call.condition? with
  | none =>
    simp only [callStarts, Draft.entries, hc] at hnew
    refine ⟨hnew, ?_⟩
    rw [Draft.add, hc]
    exact h.queries
  | some c =>
    simp only [callStarts, Draft.entries, hc] at hnew
    refine ⟨?_, hnew⟩
    rw [Draft.add, hc]
    exact h.columns

theorem entries_sampled (d : Draft) (c c' : Call) :
    (d.sampled c').entries c = d.entries c := by
  rw [Draft.entries, Draft.entries, columnEntries_sampled, queryEntries_sampled]

theorem Sound.request {d : Draft} (h : d.Sound) (r : TypedCall) :
    (d.request object filter r).2.Sound := by
  rcases request_cases object filter d r with ⟨name, heq, _⟩ | ⟨name, hname, hkey, heq⟩
  · rw [heq]
    exact h.sampled r.call
  · rw [heq]
    refine (h.sampled r.call).add object filter ?_
    rw [entries_sampled, hname]
    exact (h.entries r.call).append_unique hkey (allocated_base r.call)

theorem mem_entries_request (d : Draft) (r : TypedCall) :
    (r.call.key, (d.request object filter r).1) ∈
      (d.request object filter r).2.entries r.call := by
  rcases request_cases object filter d r with ⟨name, heq, hmem⟩ | ⟨name, hname, hkey, heq⟩
  · rw [heq, entries_sampled]
    exact hmem
  · rw [heq, entries_add]
    exact List.mem_append_right _ List.mem_cons_self

/-! ## Growth -/

/-- Nothing that a draft holds is changed or moved, and what is new comes after it. -/
structure Extends (d e : Draft) : Prop where
  expressions : d.expressions <+: e.expressions
  conditionals : d.conditionals <+: e.conditionals
  metricAliases : d.metricAliases <+: e.metricAliases
  sampleFields : d.sampleFields <+: e.sampleFields

namespace Extends

variable {d e f : Draft}

theorem refl (d : Draft) : Extends d d :=
  ⟨List.prefix_refl _, List.prefix_refl _, List.prefix_refl _, List.prefix_refl _⟩

theorem trans (h : Extends d e) (h' : Extends e f) : Extends d f :=
  ⟨h.expressions.trans h'.expressions, h.conditionals.trans h'.conditionals,
    h.metricAliases.trans h'.metricAliases, h.sampleFields.trans h'.sampleFields⟩

theorem entries (h : Extends d e) (c : Call) : d.entries c <+: e.entries c := by
  rw [Draft.entries, Draft.entries]
  split
  · exact h.conditionals.map _
  · exact h.expressions.map _

end Extends

theorem extends_sampled (d : Draft) (c : Call) : Extends d (d.sampled c) := by
  rw [sampled]
  split
  · rw [sample]
    split
    · exact .refl d
    · exact ⟨List.prefix_refl _, List.prefix_refl _, List.prefix_refl _, List.prefix_append _ _⟩
  · exact .refl d

theorem extends_add (d : Draft) (r : TypedCall) (name : String) :
    Extends d (d.add object filter r name) := by
  rw [add]
  split
  · exact ⟨List.prefix_refl _, List.prefix_append _ _, List.prefix_refl _, List.prefix_refl _⟩
  · exact ⟨List.prefix_append _ _, List.prefix_refl _, List.prefix_refl _, List.prefix_refl _⟩

theorem extends_request (d : Draft) (r : TypedCall) :
    Extends d (d.request object filter r).2 := by
  rcases request_cases object filter d r with ⟨name, heq, _⟩ | ⟨name, _, _, heq⟩
  · rw [heq]
    exact extends_sampled d r.call
  · rw [heq]
    exact (extends_sampled d r.call).trans (extends_add object filter _ r name)

theorem metricAliases_request (d : Draft) (r : TypedCall) :
    (d.request object filter r).2.metricAliases = d.metricAliases := by
  have hsampled : (d.sampled r.call).metricAliases = d.metricAliases := by rw [sampled_eq]
  rcases request_cases object filter d r with ⟨name, heq, _⟩ | ⟨name, _, _, heq⟩
  · rw [heq, hsampled]
  · rw [heq, add]
    split <;> exact hsampled

/-! ## Origins -/

/-- Every stored column and query was made for one of the calls. -/
structure MadeFor (calls : TypedCall → Prop) (d : Draft) : Prop where
  expressions : ∀ e ∈ d.expressions, ∃ r, calls r ∧ r.call.condition? = none ∧
    e = ⟨e.aliasName, r.call.text, r.valueType⟩
  conditionals : ∀ entry ∈ d.conditionals, ∃ r c, calls r ∧ r.call.condition? = some c ∧
    entry = (r.call.key, conditionalQuery object filter r.call.text c entry.2.aliasName)

theorem madeFor_empty (calls : TypedCall → Prop) : MadeFor object filter calls .empty :=
  ⟨fun _ h => absurd h List.not_mem_nil, fun _ h => absurd h List.not_mem_nil⟩

variable {object filter} {calls : TypedCall → Prop} {d : Draft}

theorem MadeFor.sampled (h : MadeFor object filter calls d) (c : Call) :
    MadeFor object filter calls (d.sampled c) := by
  rw [sampled_eq]
  exact ⟨h.expressions, h.conditionals⟩

theorem MadeFor.add (h : MadeFor object filter calls d) {r : TypedCall} (hr : calls r)
    (name : String) : MadeFor object filter calls (d.add object filter r name) := by
  rw [Draft.add]
  split
  · next c hc =>
    refine ⟨h.expressions, fun entry hentry => ?_⟩
    rcases List.mem_append.1 hentry with hentry | hentry
    · exact h.conditionals entry hentry
    · rw [List.mem_singleton.1 hentry]
      exact ⟨r, c, hr, hc, rfl⟩
  · next hc =>
    refine ⟨fun e he => ?_, h.conditionals⟩
    rcases List.mem_append.1 he with he | he
    · exact h.expressions e he
    · rw [List.mem_singleton.1 he]
      exact ⟨r, hr, hc, rfl⟩

theorem MadeFor.request (h : MadeFor object filter calls d) {r : TypedCall} (hr : calls r) :
    MadeFor object filter calls (d.request object filter r).2 := by
  rcases request_cases object filter d r with ⟨name, heq, _⟩ | ⟨name, _, _, heq⟩
  · rw [heq]
    exact h.sampled r.call
  · rw [heq]
    exact (h.sampled r.call).add hr name

end Draft
end

end Compilation
end CrossCheck
