import CrossCheck.Proofs.Compilation.Aliases
import CrossCheck.Proofs.Evaluation

/-!
What is read for the calls of a draft.  Every reading of a finished plan is the cell of a call that
was requested, and under the alias of a call stands the cell of that call: the same one that the
call would have by itself.
-/

namespace CrossCheck

/-- The cell of a call, where a filter holds and a valuation gives the values. -/
def TypedCall.cell (V : Valuation) (filter : Option String) (r : TypedCall) :
    Except ArithmeticError Cell :=
  Cell.normalize r.valueType (V r.call.text (r.call.predicate filter))

theorem Plan.aliases_readings (V : Valuation) (p : Plan) :
    (p.readings V).map (·.aliasName) = p.queriedAliases := by
  simp [readings, sharedReadings, conditionalReading, queriedAliases, Function.comp_def]

namespace Compilation

/-- Requests among which a call has one type, so that sharing a column cannot change a type. -/
structure Consistent (calls : TypedCall → Prop) : Prop where
  keyed : ∀ r, calls r → r.call.IsKeyed
  unique : ∀ q r, calls q → calls r → q.call = r.call → q = r
  conditional : ∀ r, calls r → r.call.condition? ≠ none → r.valueType = .number

variable {object : String} {filter : Option String} {calls : TypedCall → Prop} {d : Draft}
  {V : Valuation}

theorem predicate_of_none {c : Call} (h : c.condition? = none) : c.predicate filter = filter := by
  rw [Call.predicate, h]

theorem predicate_of_some {c : Call} {condition : String} (h : c.condition? = some condition) :
    c.predicate filter = some (Condition.under filter (Condition.normalize condition)) := by
  rw [Call.predicate, h]

/-- A finished plan holds its questions in writing. -/
theorem written_finish (hd : d.MadeFor object filter calls) (definitions : List Definition) :
    (finish object filter definitions d).Written := by
  refine ⟨?_, fun q hq => ?_⟩
  · rw [Question.text_eq, Plan.sharedQuestion, List.map_map]
    rfl
  · obtain ⟨entry, hentry, rfl⟩ := List.mem_map.1 hq
    obtain ⟨r, c, _, _, heq⟩ := hd.conditionals entry hentry
    rw [heq, Question.text_eq, Plan.conditionalQuestion, ← bothHold_eq]
    rfl

/-- Every reading is the cell of a requested call. -/
theorem exists_call_of_mem_readings (hd : d.MadeFor object filter calls) (hc : Consistent calls)
    {definitions : List Definition} {x : Evaluation.Reading}
    (hx : x ∈ (finish object filter definitions d).readings V) :
    ∃ r, calls r ∧ x.cell = r.cell V filter := by
  rcases List.mem_append.1 hx with hx | hx
  · obtain ⟨e, he, rfl⟩ := List.mem_map.1 hx
    obtain ⟨r, hr, hnone, heq⟩ := hd.expressions e he
    refine ⟨r, hr, ?_⟩
    rw [TypedCall.cell, predicate_of_none hnone, heq]
    rfl
  · obtain ⟨q, hq, rfl⟩ := List.mem_map.1 hx
    obtain ⟨entry, hentry, rfl⟩ := List.mem_map.1 hq
    obtain ⟨r, c, hr, hsome, heq⟩ := hd.conditionals entry hentry
    refine ⟨r, hr, ?_⟩
    rw [TypedCall.cell, predicate_of_some hsome, heq,
      hc.conditional r hr (by rw [hsome]; exact Option.some_ne_none c)]
    rfl

/-- Under the alias of a requested call stands the cell of that call. -/
theorem exists_reading_of_mem_entries (V : Valuation) (hd : d.MadeFor object filter calls)
    (hc : Consistent calls) (definitions : List Definition) {r : TypedCall} (hr : calls r)
    {name : String} (hentry : (r.call.key, name) ∈ d.entries r.call) :
    ∃ x ∈ (finish object filter definitions d).readings V,
      x.aliasName = name ∧ x.cell = r.cell V filter := by
  cases hcondition : r.call.condition? with
  | none =>
    simp only [Draft.entries, hcondition] at hentry
    obtain ⟨e, he, hkeyed⟩ := List.mem_map.1 hentry
    obtain ⟨hcall, hname⟩ := Prod.mk.inj hkeyed
    obtain ⟨q, hq, hnone, heq⟩ := hd.expressions e he
    have hsame : q = r := by
      refine hc.unique q r hq hr (Call.eq_of_text_eq hnone hcondition ?_)
      rw [← Call.key_eq_text hcondition, ← hcall, heq]
    refine ⟨_, List.mem_append_left _ (List.mem_map_of_mem he), hname, ?_⟩
    rw [TypedCall.cell, predicate_of_none hcondition, ← hsame, heq]
    rfl
  | some condition =>
    simp only [Draft.entries, hcondition] at hentry
    obtain ⟨entry, hmem, hkeyed⟩ := List.mem_map.1 hentry
    obtain ⟨hkey, hname⟩ := Prod.mk.inj hkeyed
    obtain ⟨q, c, hq, hsome, heq⟩ := hd.conditionals entry hmem
    have hsame : q = r := by
      refine hc.unique q r hq hr (Call.eq_of_key_eq (by simp [hsome]) (by simp [hcondition])
        (hc.keyed q hq) (hc.keyed r hr) ?_)
      rw [← hkey, heq]
    have hquery : entry.2 ∈ (finish object filter definitions d).conditionals :=
      List.mem_map_of_mem hmem
    refine ⟨_, List.mem_append_right _ (List.mem_map_of_mem hquery), hname, ?_⟩
    rw [TypedCall.cell, ← hsame, predicate_of_some hsome, heq,
      hc.conditional q hq (by rw [hsome]; exact Option.some_ne_none c)]
    rfl

end Compilation
end CrossCheck
