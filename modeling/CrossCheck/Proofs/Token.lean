import CrossCheck.Proofs.Token.Grammar

/-!
What the reader of metrics guarantees of what it reads: there is always a metric, and the field of
a conditional sum ends before the first colon.
-/

namespace CrossCheck
namespace Metric

variable {tokens : List String} {ms : List Metric}

/-- What is read is a count that nobody asked for, or one metric for each token. -/
theorem ofTokens_cases (h : ofTokens tokens = .ok ms) :
    ms = [.count] ∨ Token.flatten tokens ≠ [] ∧
      List.Forall₂ (fun token m => Token.Spells token.toList m) (Token.flatten tokens) ms := by
  rw [ofTokens] at h
  split at h
  · exact .inl (Except.ok.inj h).symm
  · next flat hflat =>
    refine .inr ⟨hflat, ?_⟩
    simpa only [ofToken_ok_iff] using Sequence.mapM_ok_iff.1 h

theorem ne_nil_of_ofTokens (h : ofTokens tokens = .ok ms) : ms ≠ [] := by
  rcases ofTokens_cases h with rfl | ⟨hflat, hread⟩
  · exact List.cons_ne_nil _ _
  · rintro rfl
    exact hflat (List.forall₂_nil_right_iff.1 hread)

theorem colon_not_mem_of_ofTokens (h : ofTokens tokens = .ok ms) {f c : String}
    (hmem : .sumIf f c ∈ ms) : ':' ∉ f.toList := by
  rcases ofTokens_cases h with rfl | ⟨_, hread⟩
  · exact absurd hmem (by simp)
  · obtain ⟨token, _, htoken⟩ := Sequence.exists_of_mem_right hread hmem
    cases htoken with
    | sumIf _ hcolon hfield =>
      rw [hfield.2, String.toList_ofList]
      exact fun hmem => hcolon (Text.mem_of_mem_trim hmem)

end Metric
end CrossCheck
