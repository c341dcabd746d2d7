import CrossCheck.Proofs.Call

/-!
Two views of a settled metric: how it is spelled, which is all that two environments have to agree
on, and the calls that its value is taken from.
-/

namespace CrossCheck

/-- A call and the type of the value it gives. -/
structure TypedCall where
  call : Call
  valueType : ValueType
deriving DecidableEq

/-- The metric that asks for a call and nothing else. -/
def Call.metric : Call → Metric
  | .count => .count
  | .aggregate a => .fieldAggregate a
  | .countDistinct f => .countDistinct f
  | .countIf c => .countIf c
  | .sumIf f c => .sumIf f c

theorem Call.metric_injective {c d : Call} (h : c.metric = d.metric) : c = d := by
  cases c <;> cases d <;> simp_all [metric]

namespace ResolvedAggregate

def spelled (a : ResolvedAggregate) : FieldAggregate := ⟨a.function, a.field.name⟩

def typedCall (a : ResolvedAggregate) : TypedCall := ⟨.aggregate a.spelled, a.valueType⟩

end ResolvedAggregate

namespace ResolvedMetric

/-- The kind, the functions, the names of the fields and the raw condition.  Types and labels are
left out. -/
def spelled : ResolvedMetric → Metric
  | count _ => .count
  | fieldAggregate a => .fieldAggregate a.spelled
  | countDistinct f _ => .countDistinct f.name
  | ratio n d _ => .ratio n.spelled d.spelled
  | countIf c _ => .countIf c
  | sumIf f c _ => .sumIf f.name c
  | other kind name => .other kind name

/-- The two legs of a ratio, and one call for any other metric. -/
def calls : ResolvedMetric → List TypedCall
  | count t => [⟨.count, t⟩]
  | fieldAggregate a => [a.typedCall]
  | countDistinct f t => [⟨.countDistinct f.name, t⟩]
  | ratio n d _ => [n.typedCall, d.typedCall]
  | countIf c t => [⟨.countIf c, t⟩]
  | sumIf f c t => [⟨.sumIf f.name c, t⟩]
  | other _ _ => []

/-- Metrics of the six kinds. -/
def isSupported : ResolvedMetric → Bool
  | other _ _ => false
  | _ => true

def isRatio : ResolvedMetric → Bool
  | ratio _ _ _ => true
  | _ => false

theorem calls_of_direct {m : ResolvedMetric} (hs : m.isSupported = true)
    (hr : m.isRatio = false) : ∃ c, m.calls = [⟨c, m.valueType⟩] := by
  cases m with
  | ratio n d t => exact absurd hr (by simp [isRatio])
  | other kind name => exact absurd hs (by simp [isSupported])
  | _ => exact ⟨_, rfl⟩

/-- A metric that takes its value from one call is spelled as the call is. -/
theorem spelled_of_calls {m : ResolvedMetric} {r : TypedCall} (h : m.calls = [r]) :
    m.spelled = r.call.metric := by
  cases m with
  | ratio n d t => exact absurd h (by simp [calls])
  | other kind name => exact absurd h (by simp [calls])
  | _ =>
    rw [← List.singleton_inj.1 h]
    rfl

theorem spelled_eq_iff {m n : ResolvedMetric} {r s : TypedCall} (hm : m.calls = [r])
    (hn : n.calls = [s]) : m.spelled = n.spelled ↔ r.call = s.call := by
  rw [spelled_of_calls hm, spelled_of_calls hn]
  exact ⟨Call.metric_injective, fun h => congrArg Call.metric h⟩

end ResolvedMetric
end CrossCheck
