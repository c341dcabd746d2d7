import CrossCheck.Evaluation
import CrossCheck.Proofs.Measurement
import CrossCheck.Proofs.Named
import CrossCheck.Proofs.Session

/-!
Types of what is measured.  `Value.IsNormal` says which values normalization leaves for a type; it
leaves no others, and those it leaves alone.  From this an evaluation holds under every alias a
value of a type that the plan gives the alias, whatever the backend answers.
-/

namespace CrossCheck

/-! ## Normal values -/

/-- The values that a type is kept in. -/
inductive Value.IsNormal : ValueType → Value → Prop
  | null (t : ValueType) : IsNormal t .null
  | int (n : Int) : IsNormal .number (.int n)
  | float (x : Binary64) : IsNormal .number (.float x)
  | text (s : String) : IsNormal .date (.text s)

theorem Value.IsNormal.not_isNumeric {v : Value} (h : v.IsNormal .date) : ¬ v.IsNumeric := by
  cases h with
  | null => exact id
  | text => exact id

namespace Cell

theorem isNormal_number (n : Number) : (number n).toValue.IsNormal .number := by
  cases n with
  | int n => exact .int n
  | float x => exact .float x

theorem isNormal_ofText (cs : List Char) : (ofText cs).toValue.IsNormal .number := by
  rw [ofText]
  split
  · exact isNormal_number _
  · exact .null _

variable {t : ValueType} {v : Value} {c : Cell}

theorem isNormal_of_ofNumeric (h : ofNumeric v = .ok c) : c.toValue.IsNormal .number := by
  cases v with
  | decimal d =>
    rw [ofNumeric] at h
    cases hd : d.toNumber with
    | error e =>
      rw [hd] at h
      exact absurd h Sequence.error_ne_ok
    | ok n =>
      rw [hd] at h
      obtain rfl := Except.ok.inj h
      exact isNormal_number n
  | bytes bs =>
    rw [ofNumeric] at h
    split at h
    · obtain rfl := Except.ok.inj h
      exact isNormal_ofText _
    · obtain rfl := Except.ok.inj h
      exact .null _
  | text s =>
    obtain rfl := Except.ok.inj h
    exact isNormal_ofText _
  | bool _ | int _ | float _ =>
    obtain rfl := Except.ok.inj h
    exact isNormal_number _
  | _ =>
    obtain rfl := Except.ok.inj h
    exact .null _

theorem isNormal_of_ofTemporal (h : ofTemporal v = .ok c) : c.toValue.IsNormal .date := by
  have hshown (hv : ofTemporal v = if v.isWritable then .ok (text v.display)
      else .error .unwritable) : c.toValue.IsNormal .date := by
    rw [hv] at h
    split at h
    · obtain rfl := Except.ok.inj h
      exact .text _
    · exact absurd h Sequence.error_ne_ok
  cases v with
  | null =>
    obtain rfl := Except.ok.inj h
    exact .null _
  | date | time | timestamp =>
    obtain rfl := Except.ok.inj h
    exact .text _
  | _ => exact hshown rfl

/-- Whatever a driver returns, a number is kept as a number and a date as a text. -/
theorem isNormal_of_normalize (h : normalize t v = .ok c) : c.toValue.IsNormal t := by
  cases t with
  | number => exact isNormal_of_ofNumeric h
  | date => exact isNormal_of_ofTemporal h

theorem normalize_toValue (h : c.toValue.IsNormal t) : normalize t c.toValue = .ok c := by
  cases c with
  | null => cases t <;> rfl
  | number n => cases n <;> cases h <;> rfl
  | text s =>
    cases h
    rfl

/-- A decimal that is a whole number becomes that number, however many digits it has. -/
theorem normalize_of_isExactly {s : Bool} {k : Nat} {e n : Int} (h : Decimal.IsExactly s k e n) :
    normalize .number (.decimal (.finite s k e)) = .ok (number (.int n)) := by
  have hnumber := Value.number?_of_is (.whole h)
  rw [Value.number?] at hnumber
  rw [normalize, ofNumeric, Option.some.inj hnumber]
  rfl

end Cell

/-! ## Evaluations -/

/-- Aliases, each with the type of what is measured under it. -/
def Plan.aliasTypes (p : Plan) : List (String × ValueType) :=
  p.expressions.map (fun e => (e.aliasName, e.valueType)) ++
    p.conditionals.map fun q => (q.aliasName, q.valueType)

namespace Evaluation

/-- Every cell is normal for a type that its alias stands with. -/
def IsTyped (types : List (String × ValueType)) (aggregates : Named Cell) : Prop :=
  ∀ name c, aggregates.get? name = some c → ∃ t, (name, t) ∈ types ∧ c.toValue.IsNormal t

variable {σ ε : Type} {types : List (String × ValueType)} {aggregates measured : Named Cell}
  {record : Record} {s s' : σ}

theorem isTyped_nil (types : List (String × ValueType)) : IsTyped types [] :=
  fun _ _ h => nomatch h

theorem IsTyped.set (h : IsTyped types aggregates) {name : String} {t : ValueType} {c : Cell}
    (ht : (name, t) ∈ types) (hc : c.toValue.IsNormal t) :
    IsTyped types (aggregates.set name c) := by
  intro other c' hget
  rw [Named.get?_set] at hget
  split at hget
  · next heq =>
    obtain rfl := Option.some.inj hget
    rw [heq]
    exact ⟨t, ht, hc⟩
  · exact h other c' hget

theorem IsTyped.measure {name : String} {t : ValueType} (ht : (name, t) ∈ types)
    (hok : measure (ε := ε) aggregates record name t s = (.ok measured, s'))
    (h : IsTyped types aggregates) : IsTyped types measured := by
  cases hcell : cell record name t with
  | error e =>
    rw [Evaluation.measure, hcell] at hok
    exact absurd hok Session.failed_ne_ok
  | ok c =>
    rw [Evaluation.measure, hcell] at hok
    obtain ⟨rfl, -⟩ := Session.pure_ok_iff.1 hok
    exact h.set ht (Cell.isNormal_of_normalize hcell)

theorem IsTyped.measureShared {es : List Expression}
    (hes : ∀ e ∈ es, (e.aliasName, e.valueType) ∈ types)
    (hok : measureShared (ε := ε) aggregates record es s = (.ok measured, s'))
    (h : IsTyped types aggregates) : IsTyped types measured := by
  induction es generalizing aggregates s with
  | nil =>
    obtain ⟨rfl, -⟩ := Session.pure_ok_iff.1 hok
    exact h
  | cons e es ih =>
    obtain ⟨next, t, hmeasure, hrest⟩ := Session.bind_ok_iff.1 hok
    have hnext := h.measure (hes e List.mem_cons_self) hmeasure
    exact ih (fun e' he' => hes e' (List.mem_cons_of_mem e he')) hrest hnext

theorem IsTyped.askConditionals {b : Backend σ ε} {qs : List ConditionalQuery}
    (hqs : ∀ q ∈ qs, (q.aliasName, q.valueType) ∈ types)
    (hok : askConditionals b aggregates qs s = (.ok measured, s'))
    (h : IsTyped types aggregates) : IsTyped types measured := by
  induction qs generalizing aggregates s with
  | nil =>
    obtain ⟨rfl, -⟩ := Session.pure_ok_iff.1 hok
    exact h
  | cons q qs ih =>
    obtain ⟨record, t, -, hok⟩ := Session.bind_ok_iff.1 hok
    obtain ⟨next, u, hmeasure, hrest⟩ := Session.bind_ok_iff.1 hok
    have hnext := h.measure (hqs q List.mem_cons_self) hmeasure
    exact ih (fun q' hq' => hqs q' (List.mem_cons_of_mem q hq')) hrest hnext

theorem isTyped_of_askShared {b : Backend σ ε} {p : Plan}
    (hok : askShared b p s = (.ok measured, s')) : IsTyped p.aliasTypes measured := by
  cases hquery : given? p.query with
  | none =>
    rw [askShared, hquery] at hok
    obtain ⟨rfl, -⟩ := Session.pure_ok_iff.1 hok
    exact isTyped_nil _
  | some query =>
    rw [askShared, hquery] at hok
    obtain ⟨record, t, -, hmeasure⟩ := Session.bind_ok_iff.1 hok
    refine (isTyped_nil _).measureShared (fun e he => ?_) hmeasure
    exact List.mem_append_left _ (List.mem_map_of_mem he)

theorem isTyped_of_evaluate {b : Backend σ ε} {p : Plan} {sampleQuery : Option String}
    {e : Evaluation} (h : (evaluate b p sampleQuery s).1 = .ok e) :
    IsTyped p.aliasTypes e.aggregates := by
  have hok : evaluate b p sampleQuery s = (.ok e, (evaluate b p sampleQuery s).2) := Prod.ext h rfl
  obtain ⟨shared, t, hshared, hok⟩ := Session.bind_ok_iff.1 hok
  obtain ⟨all, u, hall, hok⟩ := Session.bind_ok_iff.1 hok
  obtain ⟨samples, w, -, hok⟩ := Session.bind_ok_iff.1 hok
  obtain ⟨rfl, -⟩ := Session.pure_ok_iff.1 hok
  refine (isTyped_of_askShared hshared).askConditionals (fun q hq => ?_) hall
  exact List.mem_append_right _ (List.mem_map_of_mem hq)

end Evaluation
end CrossCheck
