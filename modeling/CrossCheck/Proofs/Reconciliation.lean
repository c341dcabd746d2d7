import CrossCheck.Proofs.Metric
import CrossCheck.Reconciliation
import Mathlib.Data.List.Forall2

/-!
What reconciliation decides: two lists of metrics of the six kinds are reconciled exactly when they
are spelled alike, and lists that agree in their kinds fail at the first pair that is not.
-/

namespace CrossCheck

namespace ResolvedMetric

/-- The sort under which a metric is reported when its pair is spelled differently. -/
def subject : ResolvedMetric → Reconciliation.Subject
  | ratio _ _ _ => .ratio
  | countIf _ _ => .conditional
  | sumIf _ _ _ => .conditional
  | _ => .field

theorem kind_eq_of_spelled_eq {a b : ResolvedMetric} (h : a.spelled = b.spelled) :
    a.kind = b.kind := by
  cases a <;> cases b <;> simp_all [spelled, kind]

end ResolvedMetric

namespace Reconciliation

theorem sameAggregate_iff {a b : ResolvedAggregate} :
    sameAggregate a b = true ↔ a.spelled = b.spelled := by
  simp [sameAggregate, ResolvedAggregate.spelled]

/-! ## One pair -/

theorem checkPair_of_kind_ne {a b : ResolvedMetric} (h : a.kind ≠ b.kind) (i : Nat) :
    checkPair i a b = .error (.kinds i a.kind b.kind) := by
  unfold checkPair
  exact if_pos h

/-- Metrics of one kind agree exactly when they are spelled alike. -/
theorem checkPair_of_kind_eq {a b : ResolvedMetric} (ha : a.isSupported = true)
    (hb : b.isSupported = true) (h : a.kind = b.kind) (i : Nat) :
    checkPair i a b = if a.spelled = b.spelled then .ok ()
      else .error (.differ i a.subject a.displayName b.displayName) := by
  unfold checkPair
  rw [if_neg (not_not_intro h)]
  cases a with
  | other kind name => exact absurd ha Bool.false_ne_true
  | count t =>
    cases b with
    | count t' => rfl
    | other kind name => exact absurd hb Bool.false_ne_true
    | _ => exact absurd h (by simp [ResolvedMetric.kind])
  | fieldAggregate x =>
    cases b with
    | fieldAggregate y => simp [sameAggregate_iff, ResolvedMetric.spelled, ResolvedMetric.subject]
    | other kind name => exact absurd hb Bool.false_ne_true
    | _ => exact absurd h (by simp [ResolvedMetric.kind])
  | countDistinct x t =>
    cases b with
    | countDistinct y t' => simp [ResolvedMetric.spelled, ResolvedMetric.subject]
    | other kind name => exact absurd hb Bool.false_ne_true
    | _ => exact absurd h (by simp [ResolvedMetric.kind])
  | ratio n q t =>
    cases b with
    | ratio n' q' t' =>
      simp [sameAggregate_iff, ResolvedMetric.spelled, ResolvedMetric.subject]
    | other kind name => exact absurd hb Bool.false_ne_true
    | _ => exact absurd h (by simp [ResolvedMetric.kind])
  | countIf c t =>
    cases b with
    | countIf c' t' => simp [ResolvedMetric.spelled, ResolvedMetric.subject]
    | other kind name => exact absurd hb Bool.false_ne_true
    | _ => exact absurd h (by simp [ResolvedMetric.kind])
  | sumIf x c t =>
    cases b with
    | sumIf y c' t' => simp [ResolvedMetric.spelled, ResolvedMetric.subject]
    | other kind name => exact absurd hb Bool.false_ne_true
    | _ => exact absurd h (by simp [ResolvedMetric.kind])

theorem checkPair_ok_iff {a b : ResolvedMetric} (ha : a.isSupported = true)
    (hb : b.isSupported = true) (i : Nat) :
    checkPair i a b = .ok () ↔ a.spelled = b.spelled := by
  by_cases h : a.kind = b.kind
  · rw [checkPair_of_kind_eq ha hb h]
    split
    · next hsame => exact ⟨fun _ => hsame, fun _ => rfl⟩
    · next hdiffer => exact ⟨fun hok => absurd hok (by simp), fun hsame => absurd hsame hdiffer⟩
  · rw [checkPair_of_kind_ne h]
    refine ⟨fun hok => absurd hok (by simp), fun hsame => ?_⟩
    exact absurd (ResolvedMetric.kind_eq_of_spelled_eq hsame) h

/-! ## Lists of pairs -/

theorem checkPairs_cons_of_ok {a b : ResolvedMetric} {i : Nat} (h : checkPair i a b = .ok ())
    (rest : List (ResolvedMetric × ResolvedMetric)) :
    checkPairs i ((a, b) :: rest) = checkPairs (i + 1) rest := by
  rw [checkPairs, h]
  rfl

theorem checkPairs_cons_of_error {a b : ResolvedMetric} {i : Nat} {e : Error}
    (h : checkPair i a b = .error e) (rest : List (ResolvedMetric × ResolvedMetric)) :
    checkPairs i ((a, b) :: rest) = .error e := by
  rw [checkPairs, h]
  rfl

variable {source target : List ResolvedMetric}

theorem checkPairs_ok_iff (hs : ∀ m ∈ source, m.isSupported = true)
    (ht : ∀ m ∈ target, m.isSupported = true) (hlength : source.length = target.length)
    (i : Nat) :
    checkPairs i (source.zip target) = .ok () ↔
      source.map (·.spelled) = target.map (·.spelled) := by
  induction source generalizing target i with
  | nil =>
    rw [List.length_nil, eq_comm, List.length_eq_zero_iff] at hlength
    rw [hlength]
    exact ⟨fun _ => rfl, fun _ => rfl⟩
  | cons a source ih =>
    cases target with
    | nil => exact absurd hlength (Nat.succ_ne_zero _)
    | cons b target =>
      have ha := hs a List.mem_cons_self
      have hb := ht b List.mem_cons_self
      have hrest := ih (fun m hm => hs m (List.mem_cons_of_mem a hm))
        (fun m hm => ht m (List.mem_cons_of_mem b hm)) (Nat.succ.inj hlength) (i + 1)
      rw [List.zip_cons_cons, List.map_cons, List.map_cons, List.cons.injEq]
      by_cases hsame : a.spelled = b.spelled
      · rw [checkPairs_cons_of_ok ((checkPair_ok_iff ha hb i).2 hsame), hrest]
        exact ⟨fun h => ⟨hsame, h⟩, fun h => h.2⟩
      · cases hpair : checkPair i a b with
        | ok u => exact absurd ((checkPair_ok_iff ha hb i).1 hpair) hsame
        | error e =>
          rw [checkPairs_cons_of_error hpair]
          exact ⟨fun h => absurd h (by simp), fun h => absurd h.1 hsame⟩

/-- A failure is that of the first pair that fails. -/
theorem exists_of_checkPairs_error {pairs : List (ResolvedMetric × ResolvedMetric)} {i : Nat}
    {e : Error} (h : checkPairs i pairs = .error e) :
    ∃ k a b, pairs[k]? = some (a, b) ∧ checkPair (i + k) a b = .error e ∧
      ∀ j, j < k → ∀ a b, pairs[j]? = some (a, b) → checkPair (i + j) a b = .ok () := by
  induction pairs generalizing i with
  | nil => exact absurd h (by simp [checkPairs])
  | cons pair rest ih =>
    obtain ⟨a, b⟩ := pair
    cases hpair : checkPair i a b with
    | error e' =>
      rw [checkPairs_cons_of_error hpair] at h
      refine ⟨0, a, b, rfl, ?_, fun j hj => absurd hj (Nat.not_lt_zero j)⟩
      exact Except.error.inj h ▸ hpair
    | ok u =>
      rw [checkPairs_cons_of_ok hpair] at h
      obtain ⟨k, a', b', hk, he, hbefore⟩ := ih h
      refine ⟨k + 1, a', b', hk, ?_, fun j hj x y hxy => ?_⟩
      · rw [← he, Nat.add_assoc, Nat.add_comm 1 k]
      · cases j with
        | zero =>
          obtain ⟨rfl, rfl⟩ := Prod.mk.inj (Option.some.inj hxy)
          exact hpair
        | succ j =>
          have hj' := hbefore j (Nat.lt_of_succ_lt_succ hj) x y hxy
          rw [← hj', Nat.add_assoc, Nat.add_comm 1 j]

/-! ## Whole lists -/

theorem reconcile_eq (hlength : source.length = target.length) :
    reconcile source target = (checkPairs 0 (source.zip target)).map fun _ => source := by
  rw [reconcile, if_neg (not_not_intro hlength)]
  cases h : checkPairs 0 (source.zip target) <;> rfl

/-- Reconciliation gives the source back exactly when both lists are spelled alike. -/
theorem reconcile_ok_iff (hs : ∀ m ∈ source, m.isSupported = true)
    (ht : ∀ m ∈ target, m.isSupported = true) {ms : List ResolvedMetric} :
    reconcile source target = .ok ms ↔
      ms = source ∧ source.map (·.spelled) = target.map (·.spelled) := by
  by_cases hlength : source.length = target.length
  · rw [reconcile_eq hlength, ← checkPairs_ok_iff hs ht hlength 0]
    cases hpairs : checkPairs 0 (source.zip target) with
    | error e => exact ⟨fun h => absurd h (by simp [Except.map]), fun h => absurd h.2 (by simp)⟩
    | ok u =>
      refine ⟨fun h => ⟨(Except.ok.inj h).symm, rfl⟩, fun h => ?_⟩
      rw [h.1]
      rfl
  · rw [reconcile, if_pos hlength]
    refine ⟨fun h => absurd h (by simp [throw, throwThe, MonadExceptOf.throw, bind, Except.bind]),
      fun h => ?_⟩
    have hlengths := congrArg List.length h.2
    rw [List.length_map, List.length_map] at hlengths
    exact absurd hlengths hlength

/-- A failure over lists of one length is that of their first pair that is spelled differently. -/
theorem pair_of_reconcile_error (hs : ∀ m ∈ source, m.isSupported = true)
    (ht : ∀ m ∈ target, m.isSupported = true) (hlength : source.length = target.length) {e : Error}
    (h : reconcile source target = .error e) :
    ∃ k a b, source[k]? = some a ∧ target[k]? = some b ∧ checkPair k a b = .error e ∧
      ∀ j, j < k → source[j]?.map (·.spelled) = target[j]?.map (·.spelled) := by
  rw [reconcile_eq hlength] at h
  cases hpairs : checkPairs 0 (source.zip target) with
  | ok u =>
    rw [hpairs] at h
    exact absurd h (by simp [Except.map])
  | error e' =>
    rw [hpairs] at h
    have he' : e' = e := Except.error.inj h
    rw [he'] at hpairs
    obtain ⟨k, a, b, hk, hpair, hbefore⟩ := exists_of_checkPairs_error hpairs
    rw [List.getElem?_zip_eq_some] at hk
    rw [Nat.zero_add] at hpair
    refine ⟨k, a, b, hk.1, hk.2, hpair, fun j hj => ?_⟩
    have hjs : j < source.length := Nat.lt_trans hj (List.getElem?_eq_some_iff.1 hk.1).1
    have hjt : j < target.length := hlength ▸ hjs
    have hok := hbefore j hj source[j] target[j]
      (List.getElem?_zip_eq_some.2 ⟨List.getElem?_eq_getElem hjs, List.getElem?_eq_getElem hjt⟩)
    rw [List.getElem?_eq_getElem hjs, List.getElem?_eq_getElem hjt, Option.map_some,
      Option.map_some, (checkPair_ok_iff (hs _ (List.getElem_mem hjs))
        (ht _ (List.getElem_mem hjt)) _).1 hok]

/-- Lists of the same kinds fail at the first pair that is spelled differently. -/
theorem reconcile_error (hs : ∀ m ∈ source, m.isSupported = true)
    (ht : ∀ m ∈ target, m.isSupported = true)
    (hkinds : List.Forall₂ (fun a b => a.kind = b.kind) source target) {e : Error}
    (h : reconcile source target = .error e) :
    ∃ k a b, source[k]? = some a ∧ target[k]? = some b ∧ a.spelled ≠ b.spelled ∧
      e = .differ k a.subject a.displayName b.displayName ∧
      ∀ j, j < k → source[j]?.map (·.spelled) = target[j]?.map (·.spelled) := by
  obtain ⟨k, a, b, hks, hkt, hpair, hbefore⟩ :=
    pair_of_reconcile_error hs ht hkinds.length_eq h
  have ha := hs a (List.mem_of_getElem? hks)
  have hb := ht b (List.mem_of_getElem? hkt)
  have hkind := List.forall₂_zip hkinds
    (List.mem_of_getElem? (List.getElem?_zip_eq_some.2 ⟨hks, hkt⟩))
  refine ⟨k, a, b, hks, hkt, ?_, ?_, hbefore⟩
  · intro hsame
    have hok := (checkPair_ok_iff ha hb k).2 hsame
    exact absurd (hok.symm.trans hpair) (by simp)
  · rw [checkPair_of_kind_eq ha hb hkind] at hpair
    split at hpair
    · exact absurd hpair (by simp)
    · exact (Except.error.inj hpair).symm

end Reconciliation
end CrossCheck
