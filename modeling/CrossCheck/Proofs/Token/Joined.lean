import CrossCheck.Proofs.Text.Join
import CrossCheck.Proofs.Token.RoundTrip

/-!
Tokens given one by one, and tokens joined with commas.  A token is cut at every comma in it, so
the commas that join tokens are no different from those within them.  What the cutting leaves can
stand in a token as it is, and is left alone from then on.
-/

namespace CrossCheck
namespace Token

open Text

theorem isWritable_of_mem_flatten {token : String} {tokens : List String}
    (h : token ∈ flatten tokens) : IsWritable token := by
  have hcomma := comma_not_mem_of_mem_flatten h
  obtain ⟨joined, _, h⟩ := List.mem_flatMap.1 h
  obtain ⟨cs, hcs, rfl⟩ := List.mem_map.1 h
  obtain ⟨htrimmed, hne⟩ := List.mem_filter.1 hcs
  obtain ⟨piece, _, rfl⟩ := List.mem_map.1 htrimmed
  refine ⟨fun hempty => ?_, ?_, hcomma⟩
  · rw [String.ofList_eq_empty_iff.1 hempty] at hne
    exact absurd hne (by decide)
  · rw [strip_eq_self_iff, String.toList_ofList, trim_trim]

/-- Tokens are taken as they are exactly if all of them can stand in a token as they are. -/
theorem flatten_eq_self_iff {tokens : List String} :
    flatten tokens = tokens ↔ ∀ token ∈ tokens, IsWritable token := by
  refine ⟨fun h token hmem => ?_, flatten_eq_self⟩
  rw [← h] at hmem
  exact isWritable_of_mem_flatten hmem

theorem flatten_flatten (tokens : List String) : flatten (flatten tokens) = flatten tokens :=
  flatten_eq_self fun _ h => isWritable_of_mem_flatten h

/-- The parts of a joined text are those of the texts that were joined.  Joining nothing gives the
empty text, whose only part is empty and is left out. -/
theorem flatten_intercalate (tokens : List String) :
    flatten [",".intercalate tokens] = flatten tokens := by
  cases tokens with
  | nil => decide
  | cons first rest =>
    have hne : (first :: rest).map String.toList ≠ [] := List.cons_ne_nil _ _
    have hjoined : (",".intercalate (first :: rest)).toList =
        joinWith [','] ((first :: rest).map String.toList) := by
      rw [String.toList_intercalate, joinWith_eq_intercalate]
      rfl
    rw [flatten, flatten, List.flatMap_singleton, hjoined, splitOn_joinWith ',' hne,
      List.flatMap_map, List.map_flatMap, List.filter_flatMap, List.map_flatMap]

/-- It makes no difference whether tokens are given one by one or joined with commas, all at once
or in two lists, and once they are flat they stay as they are. -/
theorem flatten_joined :
    (∀ tokens : List String, flatten tokens = flatten [",".intercalate tokens]) ∧
    (∀ tokens more : List String, flatten (tokens ++ more) = flatten tokens ++ flatten more) ∧
    (∀ tokens : List String, flatten (flatten tokens) = flatten tokens) ∧
    (∀ tokens : List String, flatten tokens = tokens ↔ ∀ token ∈ tokens, IsWritable token) ∧
    ∀ tokens : List String,
      Metric.ofTokens tokens = Metric.ofTokens [",".intercalate tokens] := by
  refine ⟨fun tokens => (flatten_intercalate tokens).symm, flatten_append, flatten_flatten,
    fun _ => flatten_eq_self_iff, fun tokens => ?_⟩
  rw [Metric.ofTokens, Metric.ofTokens, flatten_intercalate]

/-- Blanks and commas at the seams leave no trace, and the first bad token is blamed in any case. -/
example :
    flatten [" count ,", "\u00a0", "", ",sum: Amount,, avg"] = ["count", "sum: Amount", "avg"] ∧
      Metric.ofTokens [" count ,", "\u00a0", "", ",sum: Amount,, avg"] =
        .error ⟨"avg", .unknownKeyword⟩ := by decide +kernel

end Token
end CrossCheck
