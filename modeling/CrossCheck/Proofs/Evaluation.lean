import CrossCheck.Backend.Script
import CrossCheck.Evaluation
import CrossCheck.Proofs.Call
import CrossCheck.Proofs.Named
import CrossCheck.Proofs.Session

/-!
What an evaluation measures when the backend answers every query column by column.  The answers
are given by a valuation of calls, so that nothing depends on the order or the grouping of the
queries.
-/

namespace CrossCheck

/-- The value of a call over the rows for which a predicate holds, or over all rows. -/
abbrev Valuation := String → Option String → Value

/-! ## Questions -/

/-- A query before it is written: aliases with their calls, and the rows they are over. -/
structure Question where
  columns : List (String × String)
  predicate : Option String

namespace Question

/-- What a query says of its rows.  A predicate that is empty is none. -/
def clause (q : Question) : String :=
  match q.predicate with
  | some p => if p = "" then "" else " WHERE " ++ p
  | none => ""

def text (object : String) (q : Question) : String :=
  "SELECT " ++ ", ".intercalate (q.columns.map fun c => c.2 ++ " " ++ c.1) ++ " FROM " ++ object ++
    q.clause

/-- The record that a valuation answers with, filled from left to right. -/
def answer (V : Valuation) (q : Question) : Record :=
  Record.ofColumns (q.columns.map (·.1)) (q.columns.map fun c => V c.2 q.predicate)

end Question

namespace Plan

def sharedQuestion (p : Plan) : Question :=
  ⟨p.expressions.map fun e => (e.aliasName, e.call), p.filter⟩

/-- A conditional query is over the rows where the filter and its own condition hold. -/
def conditionalQuestion (p : Plan) (q : ConditionalQuery) : Question :=
  ⟨[(q.aliasName, q.call)], some (Condition.under p.filter q.condition)⟩

/-- What a plan asks, in order. -/
def questions (p : Plan) : List Question :=
  (if p.expressions.isEmpty then [] else [p.sharedQuestion]) ++
    p.conditionals.map p.conditionalQuestion

/-- The queries of a plan are its questions in writing. -/
structure Written (p : Plan) : Prop where
  shared : p.query =
    if p.expressions.isEmpty then none else some (p.sharedQuestion.text p.object)
  conditionals : ∀ q ∈ p.conditionals, q.query = (p.conditionalQuestion q).text p.object

end Plan

theorem selectQuery_ne_empty (object columns : String) (filter : Option String) :
    selectQuery object columns filter ≠ "" := by
  intro h
  have hchars := congrArg String.toList h
  unfold selectQuery at hchars
  split at hchars
  · split at hchars <;> simp at hchars
  · simp at hchars

/-- A question in writing is the query that compilation makes of its columns and predicate. -/
theorem Question.text_eq (object : String) (q : Question) : q.text object =
    selectQuery object (", ".intercalate (q.columns.map fun c => c.2 ++ " " ++ c.1))
      q.predicate := by
  obtain ⟨columns, predicate⟩ := q
  cases predicate with
  | none => exact String.append_empty
  | some p =>
    unfold text clause selectQuery
    dsimp only
    by_cases hp : p = ""
    · rw [if_pos hp, if_pos hp, String.append_empty]
    · rw [if_neg hp, if_neg hp, ← String.append_assoc]

namespace Evaluation

variable {σ ε : Type}

/-- From one state to another the backend answers the questions in turn, as a valuation has it. -/
inductive Answers (b : Backend σ ε) (V : Valuation) (object : String) :
    List Question → σ → σ → Prop where
  | nil (s : σ) : Answers b V object [] s s
  | cons {q : Question} {qs : List Question} {s t u : σ}
      (hanswer : b.aggregate (q.text object) s = (.ok (q.answer V), t))
      (hrest : Answers b V object qs t u) : Answers b V object (q :: qs) s u

theorem Answers.append {b : Backend σ ε} {V : Valuation} {object : String}
    {qs rs : List Question} {s u : σ} (h : Answers b V object (qs ++ rs) s u) :
    ∃ t, Answers b V object qs s t ∧ Answers b V object rs t u := by
  induction qs generalizing s with
  | nil => exact ⟨s, .nil s, h⟩
  | cons q qs ih =>
    cases h with
    | cons hanswer hrest =>
      obtain ⟨t, hqs, hrs⟩ := ih hrest
      exact ⟨t, .cons hanswer hqs, hrs⟩

/-- The backend answers all that an evaluation of the plan asks, the sample query included. -/
def AnswersAll (b : Backend σ ε) (V : Valuation) (p : Plan) (sampleQuery : Option String)
    (s : σ) : Prop :=
  ∃ t u samples, Answers b V p.object p.questions s t ∧
    askSample b sampleQuery t = (.ok samples, u)

/-! ## A script that answers -/

/-- The script of what a valuation answers to a plan. -/
def answering (V : Valuation) (p : Plan) : Script :=
  ⟨p.questions.map fun q => .given (q.answer V), .given [], []⟩

theorem answers_script (V : Valuation) (object : String) (qs : List Question)
    (samples : Answer (List Record)) (asked : List String) :
    Answers Script.backend V object qs ⟨qs.map fun q => .given (q.answer V), samples, asked⟩
      ⟨[], samples, asked ++ qs.map (·.text object)⟩ := by
  induction qs generalizing asked with
  | nil =>
    rw [List.map_nil, List.map_nil, List.append_nil]
    exact .nil _
  | cons q qs ih =>
    refine .cons rfl ?_
    have h := ih (asked ++ [q.text object])
    rw [List.append_assoc] at h
    exact h

theorem exists_askSample_script (sampleQuery : Option String) (records : List (Answer Record))
    (asked : List String) :
    ∃ samples t, askSample Script.backend sampleQuery ⟨records, .given [], asked⟩ =
      (.ok samples, t) := by
  rw [askSample]
  cases given? sampleQuery with
  | none => exact ⟨[], _, rfl⟩
  | some query => exact ⟨[], _, rfl⟩

/-- Whatever a plan asks and a valuation holds, there is a backend that answers. -/
theorem answersAll_answering (V : Valuation) (p : Plan) (sampleQuery : Option String) :
    AnswersAll Script.backend V p sampleQuery (answering V p) := by
  obtain ⟨samples, u, hsamples⟩ :=
    exists_askSample_script sampleQuery [] ([] ++ p.questions.map (·.text p.object))
  exact ⟨_, u, samples, answers_script V p.object p.questions (.given []) [], hsamples⟩

/-! ## Readings -/

/-- A value under the alias that it was asked for, and the type it is taken for. -/
structure Reading where
  aliasName : String
  valueType : ValueType
  value : Value

def Reading.cell (r : Reading) : Except ArithmeticError Cell := Cell.normalize r.valueType r.value

/-- Readings taken one after another, until one has no cell. -/
def measureAll (aggregates : Named Cell) : List Reading → Except ArithmeticError (Named Cell)
  | [] => .ok aggregates
  | r :: rs => do
    let c ← r.cell
    measureAll (aggregates.set r.aliasName c) rs

theorem measureAll_cons (aggregates : Named Cell) (r : Reading) (rs : List Reading) :
    measureAll aggregates (r :: rs) =
      ((r.cell.map fun c => aggregates.set r.aliasName c) >>= fun aggregates =>
        measureAll aggregates rs) := by
  rw [measureAll]
  cases r.cell <;> rfl

theorem measureAll_append (aggregates : Named Cell) (rs rs' : List Reading) :
    measureAll aggregates (rs ++ rs') =
      (measureAll aggregates rs >>= fun aggregates => measureAll aggregates rs') := by
  induction rs generalizing aggregates with
  | nil => rfl
  | cons r rs ih =>
    rw [List.cons_append, measureAll, measureAll, bind_assoc]
    exact congrArg _ (funext fun c => ih _)

theorem measureAll_get?_of_not_mem {rs : List Reading} {aggregates measured : Named Cell}
    (h : measureAll aggregates rs = .ok measured) {name : String}
    (hname : name ∉ rs.map (·.aliasName)) : measured.get? name = aggregates.get? name := by
  induction rs generalizing aggregates with
  | nil => rw [Except.ok.inj h]
  | cons r rs ih =>
    rw [List.map_cons, List.mem_cons, not_or] at hname
    obtain ⟨c, _, hrest⟩ := Sequence.bind_ok_iff.1 h
    rw [ih hrest hname.2, Named.get?_set, if_neg hname.1]

/-- Under different aliases every reading is kept. -/
theorem measureAll_get? {rs : List Reading} (hnodup : (rs.map (·.aliasName)).Nodup)
    {aggregates measured : Named Cell} (h : measureAll aggregates rs = .ok measured) {r : Reading}
    (hr : r ∈ rs) : ∃ c, r.cell = .ok c ∧ measured.get? r.aliasName = some c := by
  induction rs generalizing aggregates with
  | nil => exact absurd hr List.not_mem_nil
  | cons r' rs ih =>
    rw [List.map_cons, List.nodup_cons] at hnodup
    obtain ⟨c, hc, hrest⟩ := Sequence.bind_ok_iff.1 h
    rcases List.mem_cons.1 hr with rfl | hr
    · refine ⟨c, hc, ?_⟩
      rw [measureAll_get?_of_not_mem hrest hnodup.1, Named.get?_set, if_pos rfl]
    · exact ih hnodup.2 hrest hr

theorem exists_of_measureAll_error {rs : List Reading} {aggregates : Named Cell}
    {e : ArithmeticError} (h : measureAll aggregates rs = .error e) :
    ∃ r ∈ rs, r.cell = .error e := by
  induction rs generalizing aggregates with
  | nil => exact absurd h.symm Sequence.error_ne_ok
  | cons r rs ih =>
    cases hr : r.cell with
    | error e' =>
      rw [measureAll, hr] at h
      exact ⟨r, List.mem_cons_self, hr.trans (congrArg _ (Except.error.inj h))⟩
    | ok c =>
      rw [measureAll, hr] at h
      obtain ⟨r', hmem, hr'⟩ := ih h
      exact ⟨r', List.mem_cons_of_mem r hmem, hr'⟩

/-! ## Evaluation of a plan -/

/-- The computation gives the outcome, with the second state unless it fails. -/
def Ends {α : Type} (x : Step σ ε α) (s : σ) (outcome : Except ArithmeticError α) (t : σ) : Prop :=
  match outcome with
  | .ok a => x s = (.ok a, t)
  | .error e => (x s).1 = .error (.arithmetic e)

theorem Ends.after {α β : Type} {x : Step σ ε α} {f : α → Step σ ε β} {s t u : σ} {a : α}
    {outcome : Except ArithmeticError β} (hx : x s = (.ok a, t)) (hf : Ends (f a) t outcome u) :
    Ends (x >>= f) s outcome u := by
  unfold Ends at hf ⊢
  rw [Session.bind_of_ok hx]
  exact hf

theorem Ends.bind {α β : Type} {x : Step σ ε α} {f : α → Step σ ε β} {s t u : σ}
    {outcome : Except ArithmeticError α} {next : α → Except ArithmeticError β}
    (hx : Ends x s outcome t) (hf : ∀ a, Ends (f a) t (next a) u) :
    Ends (x >>= f) s (outcome >>= next) u := by
  cases outcome with
  | error e => exact Session.bind_of_error hx
  | ok a => exact Ends.after hx (hf a)

theorem ends_measure (aggregates : Named Cell) (record : Record) (aliasName : String)
    (t : ValueType) (s : σ) :
    Ends (ε := ε) (measure aggregates record aliasName t) s
      ((cell record aliasName t).map fun c => aggregates.set aliasName c) s := by
  rw [measure]
  cases cell record aliasName t <;> rfl

theorem ends_pure {α : Type} (a : α) (s : σ) : Ends (ε := ε) (pure a) s (.ok a) s := rfl

theorem ends_measureShared (aggregates : Named Cell) (record : Record) (es : List Expression)
    (s : σ) :
    Ends (ε := ε) (measureShared aggregates record es) s
      (measureAll aggregates (es.map fun e =>
        ⟨e.aliasName, e.valueType, (record.get? e.aliasName).getD .null⟩)) s := by
  induction es generalizing aggregates with
  | nil => exact ends_pure aggregates s
  | cons e es ih =>
    rw [List.map_cons, measureAll_cons]
    exact (ends_measure aggregates record e.aliasName e.valueType s).bind ih

end Evaluation

namespace Plan

/-- What a valuation gives for the columns of the shared query. -/
def sharedReadings (V : Valuation) (p : Plan) : List Evaluation.Reading :=
  p.expressions.map fun e => ⟨e.aliasName, e.valueType, V e.call p.filter⟩

def conditionalReading (V : Valuation) (p : Plan) (q : ConditionalQuery) : Evaluation.Reading :=
  ⟨q.aliasName, q.valueType, V q.call (some (Condition.under p.filter q.condition))⟩

def readings (V : Valuation) (p : Plan) : List Evaluation.Reading :=
  p.sharedReadings V ++ p.conditionals.map (p.conditionalReading V)

end Plan

namespace Evaluation

theorem ask_of_ok {α : Type} {session : Session σ ε α} {s t : σ} {a : α}
    (h : session s = (.ok a, t)) : ask session s = (.ok a, t) := by
  rw [ask, h]

variable {b : Backend σ ε} {V : Valuation} {p : Plan}

/-- The columns of the shared query are read from one record, each under its own alias. -/
theorem sharedReadings_answer (hdistinct : (p.expressions.map (·.aliasName)).Nodup) :
    (p.expressions.map fun e => (⟨e.aliasName, e.valueType,
        ((p.sharedQuestion.answer V).get? e.aliasName).getD .null⟩ : Reading)) =
      p.sharedReadings V := by
  refine List.map_congr_left fun e he => ?_
  have hanswer : p.sharedQuestion.answer V = Record.ofColumns
      (p.expressions.map (·.aliasName)) (p.expressions.map fun e => V e.call p.filter) := by
    simp [Question.answer, Plan.sharedQuestion, Function.comp_def]
  rw [hanswer, Record.get?_ofColumns_map hdistinct he]
  rfl

theorem ends_askShared (hwritten : p.Written)
    (hdistinct : (p.expressions.map (·.aliasName)).Nodup) {s t : σ}
    (h : Answers b V p.object (if p.expressions.isEmpty then [] else [p.sharedQuestion]) s t) :
    Ends (askShared b p) s (measureAll [] (p.sharedReadings V)) t := by
  rw [askShared, hwritten.shared]
  cases hempty : p.expressions.isEmpty with
  | true =>
    rw [hempty] at h
    cases h with
    | nil =>
      rw [Plan.sharedReadings, List.isEmpty_iff.1 hempty]
      exact ends_pure [] s
  | false =>
    rw [hempty] at h
    cases h with
    | cons hanswer hrest =>
      cases hrest with
      | nil =>
        have hgiven : given? (some (p.sharedQuestion.text p.object)) =
            some (p.sharedQuestion.text p.object) := by
          rw [given?, Option.filter_some, if_pos]
          rw [Question.text_eq]
          exact decide_eq_true (selectQuery_ne_empty _ _ _)
        simp only [Bool.false_eq_true, if_false, hgiven]
        rw [← sharedReadings_answer hdistinct]
        exact .after (ask_of_ok hanswer) (ends_measureShared [] _ p.expressions _)

theorem cell_answer_conditionalQuestion (V : Valuation) (p : Plan) (q : ConditionalQuery) :
    cell ((p.conditionalQuestion q).answer V) q.aliasName q.valueType =
      (p.conditionalReading V q).cell := by
  have hfound : ((p.conditionalQuestion q).answer V).get? q.aliasName =
      some (p.conditionalReading V q).value := List.lookup_cons_self
  rw [cell, hfound]
  rfl

theorem ends_askConditionals {qs : List ConditionalQuery}
    (hwritten : ∀ q ∈ qs, q.query = (p.conditionalQuestion q).text p.object) {s t : σ}
    (h : Answers b V p.object (qs.map p.conditionalQuestion) s t) (aggregates : Named Cell) :
    Ends (askConditionals b aggregates qs) s
      (measureAll aggregates (qs.map (p.conditionalReading V))) t := by
  induction qs generalizing s aggregates with
  | nil =>
    cases h with
    | nil => exact ends_pure aggregates _
  | cons q qs ih =>
    cases h with
    | @cons _ _ _ u _ hanswer hrest =>
      have hmeasured := ends_measure (ε := ε) aggregates ((p.conditionalQuestion q).answer V)
        q.aliasName q.valueType u
      rw [cell_answer_conditionalQuestion] at hmeasured
      rw [List.map_cons, measureAll_cons, askConditionals, hwritten q List.mem_cons_self]
      refine .after (ask_of_ok hanswer) (hmeasured.bind fun aggregates => ?_)
      exact ih (fun q' hq' => hwritten q' (List.mem_cons_of_mem q hq')) hrest aggregates

/-- An evaluation measures the readings of the plan, or fails because one of them has no cell. -/
theorem ends_evaluate (hwritten : p.Written)
    (hdistinct : (p.expressions.map (·.aliasName)).Nodup) {sampleQuery : Option String} {s : σ}
    (h : AnswersAll b V p sampleQuery s) :
    ∃ samples u, Ends (evaluate b p sampleQuery) s
      (measureAll [] (p.readings V) >>= fun aggregates => .ok ⟨aggregates, samples⟩) u := by
  obtain ⟨t, u, samples, hall, hsamples⟩ := h
  obtain ⟨t', hshared, hconditionals⟩ := hall.append
  refine ⟨samples, u, ?_⟩
  rw [Plan.readings, measureAll_append, bind_assoc]
  refine (ends_askShared hwritten hdistinct hshared).bind fun aggregates => ?_
  refine (ends_askConditionals hwritten.conditionals hconditionals aggregates).bind ?_
  exact fun measured => .after hsamples (ends_pure _ u)

/-- Under different aliases an evaluation holds the cell of every reading, unless one has none. -/
theorem evaluate_cases (hwritten : p.Written)
    (hdistinct : ((p.readings V).map (·.aliasName)).Nodup) {sampleQuery : Option String} {s : σ}
    (h : AnswersAll b V p sampleQuery s) :
    (∃ e, ∃ x ∈ p.readings V, x.cell = .error e ∧
      (evaluate b p sampleQuery s).1 = .error (.arithmetic e)) ∨
    ∃ evaluation, (evaluate b p sampleQuery s).1 = .ok evaluation ∧
      ∀ x ∈ p.readings V, ∃ c, x.cell = .ok c ∧
        evaluation.values.get? x.aliasName = some c.toValue := by
  have hcolumns : (p.expressions.map (·.aliasName)).Nodup := by
    rw [Plan.readings, List.map_append, Plan.sharedReadings, List.map_map] at hdistinct
    exact (List.nodup_append.1 hdistinct).1
  obtain ⟨samples, u, hends⟩ := ends_evaluate hwritten hcolumns h
  cases hmeasured : measureAll [] (p.readings V) with
  | error e =>
    rw [hmeasured] at hends
    obtain ⟨x, hx, hcell⟩ := exists_of_measureAll_error hmeasured
    exact .inl ⟨e, x, hx, hcell, hends⟩
  | ok aggregates =>
    rw [hmeasured] at hends
    refine .inr ⟨⟨aggregates, samples⟩, congrArg Prod.fst hends, fun x hx => ?_⟩
    obtain ⟨c, hcell, hget⟩ := measureAll_get? hdistinct hmeasured hx
    refine ⟨c, hcell, ?_⟩
    rw [values, Named.get?_map, hget]
    rfl

end Evaluation
end CrossCheck
