import CrossCheck.Problem
import CrossCheck.Proofs.Reconciliation
import CrossCheck.Proofs.Sequence

/-!
Reconciliation as a relation between lists of metrics.  It accepts a pair of lists exactly when
they are spelled alike, so what it accepts is an equivalence, and it refuses a pair at the place
where the two spellings first part, which is the same place from either side.  The theorem this
file exists for is `reconcile_decides`.
-/

namespace CrossCheck

/-- Lists of metrics of the six kinds. -/
abbrev SupportedMetrics := {ms : List ResolvedMetric // ∀ m ∈ ms, m.isSupported = true}

namespace Reconciliation

/-- As many metrics on both sides, and pair by pair the same kind, functions, names of fields and
raw condition. -/
def Alike (source target : List ResolvedMetric) : Prop :=
  List.Forall₂ (fun a b => a.spelled = b.spelled) source target

/-- Where two lists part: at the first pair that is spelled differently, and nowhere in particular
if there is not a pair for each metric. -/
inductive PartAt (source target : List ResolvedMetric) : Option Nat → Prop where
  | lengths (h : source.length ≠ target.length) : PartAt source target none
  | pair {k : Nat} {a b : ResolvedMetric} (hlength : source.length = target.length)
      (ha : source[k]? = some a) (hb : target[k]? = some b) (h : a.spelled ≠ b.spelled)
      (hbefore : ∀ j, j < k → source[j]?.map (·.spelled) = target[j]?.map (·.spelled)) :
      PartAt source target (some k)

/-- Reconciliation fails as a mismatch at a position. -/
def RefusesAt (source target : List ResolvedMetric) (position : Option Nat) : Prop :=
  ∃ e problem, reconcile source target = .error e ∧ e.problem? = some problem ∧
    problem.code = "MetricValidationMismatch" ∧ e.position? = position

variable {source target : List ResolvedMetric}

theorem alike_iff_map_eq :
    Alike source target ↔ source.map (·.spelled) = target.map (·.spelled) := by
  rw [Alike, ← List.forall₂_eq_eq_eq, List.forall₂_map_left_iff, List.forall₂_map_right_iff]

/-! ## Where lists part -/

theorem PartAt.symm {position : Option Nat} (h : PartAt source target position) :
    PartAt target source position := by
  cases h with
  | lengths h => exact .lengths h.symm
  | pair hlength ha hb h hbefore =>
    exact .pair hlength.symm hb ha h.symm fun j hj => (hbefore j hj).symm

theorem PartAt.not_alike {position : Option Nat} (h : PartAt source target position) :
    ¬ Alike source target := by
  intro halike
  cases h with
  | lengths h => exact h halike.length_eq
  | pair _ ha hb h _ =>
    obtain ⟨b, hb', hab⟩ := Sequence.getElem?_right halike ha
    rw [hb] at hb'
    exact h (hab.trans (congrArg _ (Option.some.inj hb').symm))

theorem PartAt.unique {p q : Option Nat} (hp : PartAt source target p)
    (hq : PartAt source target q) : p = q := by
  -- what is spelled alike before one place cannot be spelled differently at an earlier one
  have hnot {j k : Nat} {a b : ResolvedMetric} (ha : source[j]? = some a)
      (hb : target[j]? = some b) (h : a.spelled ≠ b.spelled)
      (hbefore : ∀ j, j < k → source[j]?.map (·.spelled) = target[j]?.map (·.spelled)) :
      k ≤ j := by
    by_contra hlt
    have hsame := hbefore j (Nat.lt_of_not_le hlt)
    rw [ha, hb] at hsame
    exact h (Option.some.inj hsame)
  cases hp with
  | lengths h =>
    cases hq with
    | lengths _ => rfl
    | pair hlength _ _ _ _ => exact absurd hlength h
  | pair hlength ha hb h hbefore =>
    cases hq with
    | lengths h' => exact absurd hlength h'
    | pair _ ha' hb' h' hbefore' =>
      have hle := hnot ha hb h hbefore'
      have hge := hnot ha' hb' h' hbefore
      rw [Nat.le_antisymm hge hle]

/-! ## Failures -/

theorem checkPair_error {a b : ResolvedMetric} (ha : a.isSupported = true)
    (hb : b.isSupported = true) {i : Nat} {e : Error} (h : checkPair i a b = .error e) :
    a.spelled ≠ b.spelled ∧ e.position? = some i ∧
      ∃ problem, e.problem? = some problem ∧ problem.code = "MetricValidationMismatch" := by
  by_cases hkind : a.kind = b.kind
  · rw [checkPair_of_kind_eq ha hb hkind] at h
    split at h
    · exact absurd h.symm Sequence.error_ne_ok
    · next hdiffer =>
      rw [← Except.error.inj h]
      exact ⟨hdiffer, rfl, _, rfl, rfl⟩
  · rw [checkPair_of_kind_ne hkind] at h
    rw [← Except.error.inj h]
    refine ⟨fun hsame => ?_, rfl, _, rfl, rfl⟩
    exact hkind (ResolvedMetric.kind_eq_of_spelled_eq hsame)

/-- Whatever makes reconciliation fail, it is a mismatch where the lists part. -/
theorem reconcile_error_parts (hs : ∀ m ∈ source, m.isSupported = true)
    (ht : ∀ m ∈ target, m.isSupported = true) {e : Error}
    (h : reconcile source target = .error e) :
    PartAt source target e.position? ∧
      ∃ problem, e.problem? = some problem ∧ problem.code = "MetricValidationMismatch" := by
  by_cases hlength : source.length = target.length
  · obtain ⟨k, a, b, hks, hkt, hpair, hbefore⟩ := pair_of_reconcile_error hs ht hlength h
    have ha := hs a (List.mem_of_getElem? hks)
    have hb := ht b (List.mem_of_getElem? hkt)
    obtain ⟨hdiffer, hposition, hproblem⟩ := checkPair_error ha hb hpair
    rw [hposition]
    exact ⟨.pair hlength hks hkt hdiffer hbefore, hproblem⟩
  · rw [reconcile, if_pos hlength] at h
    rw [← Except.error.inj h]
    exact ⟨.lengths hlength, _, rfl, rfl⟩

/-! ## What reconciliation decides -/

structure Decides (source target : List ResolvedMetric) : Prop where
  /-- Only the source is ever given back. -/
  accepts : ∀ ms, reconcile source target = .ok ms ↔ ms = source ∧ Alike source target
  refuses : ∀ position, RefusesAt source target position ↔ PartAt source target position
  /-- There is no third way. -/
  total : Alike source target ∨ ∃ position, PartAt source target position
  /-- Seen from the other side a refusal has the same code and position. -/
  symmetric : ∀ position, RefusesAt source target position ↔ RefusesAt target source position

theorem accepts_iff (hs : ∀ m ∈ source, m.isSupported = true)
    (ht : ∀ m ∈ target, m.isSupported = true) (ms : List ResolvedMetric) :
    reconcile source target = .ok ms ↔ ms = source ∧ Alike source target := by
  rw [reconcile_ok_iff hs ht, alike_iff_map_eq]

theorem alike_or_parts (hs : ∀ m ∈ source, m.isSupported = true)
    (ht : ∀ m ∈ target, m.isSupported = true) :
    Alike source target ∨ ∃ position, PartAt source target position := by
  cases h : reconcile source target with
  | ok ms => exact .inl ((accepts_iff hs ht ms).1 h).2
  | error e => exact .inr ⟨_, (reconcile_error_parts hs ht h).1⟩

theorem refusesAt_iff (hs : ∀ m ∈ source, m.isSupported = true)
    (ht : ∀ m ∈ target, m.isSupported = true) (position : Option Nat) :
    RefusesAt source target position ↔ PartAt source target position := by
  constructor
  · rintro ⟨e, problem, h, -, -, rfl⟩
    exact (reconcile_error_parts hs ht h).1
  · intro hpart
    cases h : reconcile source target with
    | ok ms => exact absurd ((accepts_iff hs ht ms).1 h).2 hpart.not_alike
    | error e =>
      obtain ⟨hpart', problem, hproblem, hcode⟩ := reconcile_error_parts hs ht h
      exact ⟨e, problem, h, hproblem, hcode, hpart'.unique hpart⟩

/-- Acceptance is an equivalence of lists, and acceptance and refusal are decided by how the lists
are spelled. -/
theorem reconcile_decides :
    Equivalence (fun source target : SupportedMetrics =>
      ∃ ms, reconcile source.1 target.1 = .ok ms) ∧
    ∀ source target : SupportedMetrics, Decides source.1 target.1 := by
  have haccepts (source target : SupportedMetrics) :
      (∃ ms, reconcile source.1 target.1 = .ok ms) ↔
        source.1.map (·.spelled) = target.1.map (·.spelled) := by
    simp only [accepts_iff source.2 target.2, exists_eq_left, alike_iff_map_eq]
  constructor
  · simp only [haccepts]
    exact ⟨fun _ => rfl, fun h => h.symm, fun h h' => h.trans h'⟩
  · intro source target
    refine ⟨accepts_iff source.2 target.2, refusesAt_iff source.2 target.2,
      alike_or_parts source.2 target.2, fun position => ?_⟩
    rw [refusesAt_iff source.2 target.2, refusesAt_iff target.2 source.2]
    exact ⟨PartAt.symm, PartAt.symm⟩

end Reconciliation
end CrossCheck
