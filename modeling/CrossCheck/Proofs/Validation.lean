import CrossCheck.Proofs.Compilation.Run
import CrossCheck.Proofs.Reconciliation
import CrossCheck.Proofs.Resolution
import CrossCheck.Proofs.Token

/-!
From tokens to a plan: which failures are left once a list of metrics has been read and settled
against two schemas.  Only the spelling of a field can differ, and what reconciles compiles.
-/

namespace CrossCheck

/-- Both schemas keep the fields of the metric under the same names. -/
def Metric.SpelledAlike (source target : ObjectSchema) (m : Metric) : Prop :=
  ∀ reference ∈ m.references, source.spelling? reference = target.spelling? reference

/-- The condition of a metric as the user wrote it. -/
def ResolvedMetric.condition? : ResolvedMetric → Option String
  | countIf c _ => some c
  | sumIf _ c _ => some c
  | _ => none

namespace Resolution

variable {source target : ObjectSchema} {m : Metric} {a b : ResolvedMetric}

theorem Settles.kind_eq (ha : Settles source m a) (hb : Settles target m b) : a.kind = b.kind := by
  cases ha <;> cases hb <;> rfl

theorem Settles.condition?_eq (ha : Settles source m a) (hb : Settles target m b) :
    a.condition? = b.condition? := by
  cases ha <;> cases hb <;> rfl

/-- What two schemas settle one metric for is spelled alike when its fields are. -/
theorem Settles.spelled_eq_iff (ha : Settles source m a) (hb : Settles target m b) :
    a.spelled = b.spelled ↔ m.SpelledAlike source target := by
  rw [ha.spelled, hb.spelled, Metric.respelled_eq_iff]
  refine forall₂_congr fun reference hmem => ?_
  obtain ⟨f, hf⟩ := ha.exists_field hmem
  obtain ⟨g, hg⟩ := hb.exists_field hmem
  simp only [ObjectSchema.spell, ObjectSchema.spelling?, hf, hg, Option.map_some,
    Option.getD_some, Option.some.injEq]

end Resolution

namespace Reconciliation

open Resolution

variable {source target : ObjectSchema} {ms : List Metric} {as bs : List ResolvedMetric}

theorem isSupported_of_settles (h : List.Forall₂ (Settles source) ms as) :
    ∀ a ∈ as, a.isSupported = true := by
  intro a ha
  obtain ⟨m, _, hm⟩ := Sequence.exists_of_mem_right h ha
  exact hm.isSupported

theorem map_spelled_eq_iff (has : List.Forall₂ (Settles source) ms as)
    (hbs : List.Forall₂ (Settles target) ms bs) :
    as.map (·.spelled) = bs.map (·.spelled) ↔ ∀ m ∈ ms, m.SpelledAlike source target := by
  induction has generalizing bs with
  | nil =>
    cases hbs with
    | nil => exact ⟨fun _ m hm => absurd hm List.not_mem_nil, fun _ => rfl⟩
  | cons ha _ ih =>
    cases hbs with
    | cons hb hrest =>
      rw [List.map_cons, List.map_cons, List.cons.injEq, ha.spelled_eq_iff hb, ih hrest,
        List.forall_mem_cons]

/-- Lists settled from the same metrics part at the first one that the schemas spell differently. -/
theorem exists_of_reconcile_error (has : List.Forall₂ (Settles source) ms as)
    (hbs : List.Forall₂ (Settles target) ms bs) {e : Error} (h : reconcile as bs = .error e) :
    ∃ k m a b, ms[k]? = some m ∧ as[k]? = some a ∧ bs[k]? = some b ∧
      ¬ m.SpelledAlike source target ∧
      (∀ j n, j < k → ms[j]? = some n → n.SpelledAlike source target) ∧
      e = .differ k a.subject a.displayName b.displayName := by
  have hkinds : List.Forall₂ (fun a b => a.kind = b.kind) as bs :=
    Sequence.forall₂_of_common has hbs fun _ _ _ ha hb => ha.kind_eq hb
  obtain ⟨k, a, b, hak, hbk, hdiffer, he, hbefore⟩ :=
    reconcile_error (isSupported_of_settles has) (isSupported_of_settles hbs) hkinds h
  obtain ⟨m, hmk, hma⟩ := Sequence.getElem?_left has hak
  obtain ⟨b', hb', hmb⟩ := Sequence.getElem?_right hbs hmk
  rw [hbk] at hb'
  rw [← Option.some.inj hb'] at hmb
  refine ⟨k, m, a, b, hmk, hak, hbk, ?_, fun j n hj hn => ?_, he⟩
  · exact fun halike => hdiffer ((hma.spelled_eq_iff hmb).2 halike)
  · obtain ⟨x, hx, hnx⟩ := Sequence.getElem?_right has hn
    obtain ⟨y, hy, hny⟩ := Sequence.getElem?_right hbs hn
    have hsame := hbefore j hj
    rw [hx, hy, Option.map_some, Option.map_some] at hsame
    exact (hnx.spelled_eq_iff hny).1 (Option.some.inj hsame)

/-- Of two lists that were settled from the same metrics only the spelling of fields decides
whether they are reconciled. -/
structure SpellingDecides (source target : ObjectSchema) (ms : List Metric)
    (as bs : List ResolvedMetric) : Prop where
  succeeds : (∃ rs, reconcile as bs = .ok rs) ↔ ∀ m ∈ ms, m.SpelledAlike source target
  /-- The failure names the first metric with a field that is spelled differently. -/
  fails : ∀ e, reconcile as bs = .error e →
    ∃ k m a b, ms[k]? = some m ∧ as[k]? = some a ∧ bs[k]? = some b ∧
      ¬ m.SpelledAlike source target ∧
      (∀ j n, j < k → ms[j]? = some n → n.SpelledAlike source target) ∧
      e = .differ k a.subject a.displayName b.displayName
  /-- Lengths, kinds and conditions never differ. -/
  alike : List.Forall₂ (fun a b => a.kind = b.kind ∧ a.condition? = b.condition?) as bs
  compiles : ∀ rs, reconcile as bs = .ok rs → ∀ object filter,
    ∃ p, Compilation.compile object rs filter = .ok p

/-- Metrics that were read and then settled against two schemas are reconciled exactly when both
schemas keep their fields under the same names, and what is reconciled compiles under every
filter. -/
theorem spellingDecides_of_validated {tokens : List String} {sourceName targetName : String}
    (hread : Metric.ofTokens tokens = .ok ms)
    (hsource : resolve source sourceName ms = .ok as)
    (htarget : resolve target targetName ms = .ok bs) : SpellingDecides source target ms as bs := by
  have has := resolve_ok_iff.1 hsource
  have hbs := resolve_ok_iff.1 htarget
  have hsupported := isSupported_of_settles has
  have hsupported' := isSupported_of_settles hbs
  refine ⟨?_, fun e => exists_of_reconcile_error has hbs, ?_, fun rs hrs object filter => ?_⟩
  · rw [← map_spelled_eq_iff has hbs]
    refine ⟨fun ⟨rs, hrs⟩ => ((reconcile_ok_iff hsupported hsupported').1 hrs).2, fun h => ?_⟩
    exact ⟨as, (reconcile_ok_iff hsupported hsupported').2 ⟨rfl, h⟩⟩
  · exact Sequence.forall₂_of_common has hbs fun _ _ _ ha hb =>
      ⟨ha.kind_eq hb, ha.condition?_eq hb⟩
  · have hne : as ≠ [] := by
      rintro rfl
      exact Metric.ne_nil_of_ofTokens hread (List.forall₂_nil_right_iff.1 has)
    rw [((reconcile_ok_iff hsupported hsupported').1 hrs).1]
    obtain ⟨_, _, hp, _⟩ := Compilation.compile_run object filter hne hsupported
    exact ⟨_, hp⟩

/-- One field that both schemas keep alike, and one that they keep in different case. -/
def upperSchema : ObjectSchema :=
  ⟨"Deal", none, [⟨"Amount", none, "currency", true, true⟩, ⟨"CLOSED", none, "date", true, true⟩]⟩

def lowerSchema : ObjectSchema :=
  ⟨"Deal", none, [⟨"Amount", none, "double", true, true⟩, ⟨"closed", none, "date", true, true⟩]⟩

def closedMetrics : List Metric := [.sumIf "amount" "IsWon = true", .fieldAggregate ⟨.max, "Closed"⟩]

def upperMetrics : List ResolvedMetric :=
  [.sumIf ⟨"Amount", "currency", "Amount"⟩ "IsWon = true" .number,
   .fieldAggregate ⟨.max, ⟨"CLOSED", "date", "CLOSED"⟩, .date⟩]

def lowerMetrics : List ResolvedMetric :=
  [.sumIf ⟨"Amount", "double", "Amount"⟩ "IsWon = true" .number,
   .fieldAggregate ⟨.max, ⟨"closed", "date", "closed"⟩, .date⟩]

theorem spellingDecides_of_validated_recased :
    Metric.ofTokens ["sum-if:amount:IsWon = true, max:Closed"] = .ok closedMetrics ∧
      resolve upperSchema "source" closedMetrics = .ok upperMetrics ∧
      resolve lowerSchema "target" closedMetrics = .ok lowerMetrics ∧
      SpellingDecides upperSchema lowerSchema closedMetrics upperMetrics lowerMetrics := by
  have hread : Metric.ofTokens ["sum-if:amount:IsWon = true, max:Closed"] = .ok closedMetrics := by
    decide +kernel
  have hsource : resolve upperSchema "source" closedMetrics = .ok upperMetrics := by
    decide +kernel
  have htarget : resolve lowerSchema "target" closedMetrics = .ok lowerMetrics := by
    decide +kernel
  exact ⟨hread, hsource, htarget, spellingDecides_of_validated hread hsource htarget⟩

end Reconciliation
end CrossCheck
