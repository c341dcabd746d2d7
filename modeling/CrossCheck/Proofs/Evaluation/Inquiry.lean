import CrossCheck.Proofs.Evaluation

/-!
What an evaluation asks a backend.  It makes the inquiries of its plan one after another, and stops
at the first that the backend fails or whose record cannot be measured.
-/

namespace CrossCheck

variable {σ ε : Type}

/-- The state of the backend tells what it was asked, answered or not. -/
structure Backend.Logs (b : Backend σ ε) (asked : σ → List String) : Prop where
  aggregate : ∀ query s, asked (b.aggregate query s).2 = asked s ++ [query]
  sample : ∀ query s, asked (b.sample query s).2 = asked s ++ [query]

theorem Script.logs : Script.backend.Logs Script.asked where
  aggregate query s := by
    obtain ⟨records, samples, asked⟩ := s
    cases records with
    | nil => rfl
    | cons a rest => cases a <;> rfl
  sample query s := by
    obtain ⟨records, samples, asked⟩ := s
    cases samples <;> rfl

/-- A query, and the columns that are measured in the record of an aggregate one. -/
inductive Inquiry where
  | aggregate (query : String) (columns : List (String × ValueType))
  | sample (query : String)

namespace Inquiry

def query : Inquiry → String
  | aggregate query _ => query
  | sample query => query

end Inquiry

/-- What an evaluation of the plan asks, in order. -/
def Plan.inquiries (p : Plan) (sampleQuery : Option String) : List Inquiry :=
  (Evaluation.given? p.query).toList.map
      (.aggregate · (p.expressions.map fun e => (e.aliasName, e.valueType))) ++
    p.conditionals.map (fun q => .aggregate q.query [(q.aliasName, q.valueType)]) ++
    (Evaluation.given? sampleQuery).toList.map .sample

namespace Evaluation

open Session

/-- Why a record cannot be measured: the first column without a cell decides. -/
def fault? (record : Record) : List (String × ValueType) → Option ArithmeticError
  | [] => none
  | (aliasName, t) :: columns =>
    match cell record aliasName t with
    | .ok _ => fault? record columns
    | .error e => some e

def check (record : Record) (columns : List (String × ValueType)) : Step σ ε Unit :=
  match fault? record columns with
  | none => pure ()
  | some e => throw (.arithmetic e)

/-- An inquiry by itself. -/
def inquire (b : Backend σ ε) : Inquiry → Step σ ε Unit
  | .aggregate query columns => do check (← ask (b.aggregate query)) columns
  | .sample query => do
    let _ ← ask (b.sample query)

/-- One inquiry after another, until one fails. -/
def inquireAll (b : Backend σ ε) : List Inquiry → Step σ ε Unit
  | [] => pure ()
  | i :: is => do
    inquire b i
    inquireAll b is

/-! ## Evaluations as inquiries -/

/-- A step without its result. -/
def void {α : Type} (x : Step σ ε α) : Step σ ε Unit := (fun _ => ()) <$> x

theorem void_pure {α : Type} (a : α) : void (pure a : Step σ ε α) = pure () := map_pure _ a

theorem void_bind {α β : Type} (x : Step σ ε α) {f : α → Step σ ε β} {g : α → Step σ ε Unit}
    (hf : ∀ a, void (f a) = g a) : void (x >>= f) = x >>= g := by
  rw [void, map_bind]
  exact congrArg _ (funext hf)

/-- Nothing depends on a result that is forgotten. -/
theorem void_seq {α β : Type} {x : Step σ ε α} {x' g : Step σ ε Unit} {f : α → Step σ ε β}
    (hx : void x = x') (hf : ∀ a, void (f a) = g) : void (x >>= f) = x' >>= fun _ => g := by
  rw [void_bind x hf, ← hx, void, bind_map_left]

theorem void_of_ok {α : Type} {x : Step σ ε α} {s t : σ} {a : α} (h : x s = (.ok a, t)) :
    void x s = (.ok (), t) := by
  rw [void, map_eq_pure_bind, bind_of_ok h]
  rfl

theorem void_error_iff {α : Type} {x : Step σ ε α} {s t : σ} {e : Error ε} :
    void x s = (.error e, t) ↔ x s = (.error e, t) := by
  rw [void, map_eq_pure_bind]
  rcases h : x s with ⟨r, u⟩
  cases r with
  | ok a =>
    rw [bind_of_ok h]
    exact ⟨nofun, nofun⟩
  | error e' =>
    rw [bind_of_failed h]
    constructor
    · intro h'
      obtain ⟨rfl, rfl⟩ := failed_inj h'
      rfl
    · intro h'
      obtain ⟨rfl, rfl⟩ := failed_inj h'
      rfl

theorem check_cons (record : Record) (aliasName : String) (t : ValueType)
    (columns : List (String × ValueType)) :
    check (σ := σ) (ε := ε) record ((aliasName, t) :: columns) =
      check record [(aliasName, t)] >>= fun _ => check record columns := by
  cases h : cell record aliasName t with
  | error e => simp [check, fault?, h]
  | ok c => simp [check, fault?, h]

theorem void_measure (aggregates : Named Cell) (record : Record) (aliasName : String)
    (t : ValueType) :
    void (measure (σ := σ) (ε := ε) aggregates record aliasName t) =
      check record [(aliasName, t)] := by
  rw [measure, check, fault?, fault?]
  cases cell record aliasName t with
  | ok c => exact void_pure _
  | error e => rfl

theorem void_measureShared (aggregates : Named Cell) (record : Record) (es : List Expression) :
    void (measureShared (σ := σ) (ε := ε) aggregates record es) =
      check record (es.map fun e => (e.aliasName, e.valueType)) := by
  induction es generalizing aggregates with
  | nil => exact void_pure aggregates
  | cons e es ih =>
    rw [List.map_cons, check_cons, measureShared]
    exact void_seq (void_measure aggregates record e.aliasName e.valueType) ih

theorem inquireAll_append (b : Backend σ ε) (is js : List Inquiry) :
    inquireAll b (is ++ js) = inquireAll b is >>= fun _ => inquireAll b js := by
  induction is with
  | nil => simp [inquireAll]
  | cons i is ih => simp [inquireAll, ih]

theorem inquireAll_singleton (b : Backend σ ε) (i : Inquiry) : inquireAll b [i] = inquire b i := by
  simp [inquireAll]

theorem void_askShared (b : Backend σ ε) (p : Plan) :
    void (askShared b p) = inquireAll b ((given? p.query).toList.map
      (.aggregate · (p.expressions.map fun e => (e.aliasName, e.valueType)))) := by
  rw [askShared]
  cases given? p.query with
  | none => exact void_pure []
  | some query =>
    rw [Option.toList_some, List.map_singleton, inquireAll_singleton]
    exact void_bind (ask (b.aggregate query)) fun record =>
      void_measureShared [] record p.expressions

theorem void_askConditionals (b : Backend σ ε) (aggregates : Named Cell)
    (qs : List ConditionalQuery) :
    void (askConditionals b aggregates qs) =
      inquireAll b (qs.map fun q => .aggregate q.query [(q.aliasName, q.valueType)]) := by
  induction qs generalizing aggregates with
  | nil => exact void_pure aggregates
  | cons q qs ih =>
    rw [List.map_cons, inquireAll, askConditionals, inquire, bind_assoc]
    refine void_bind (ask (b.aggregate q.query)) fun record => ?_
    exact void_seq (void_measure aggregates record q.aliasName q.valueType) ih

theorem void_askSample (b : Backend σ ε) (sampleQuery : Option String) :
    void (askSample b sampleQuery) =
      inquireAll b ((given? sampleQuery).toList.map .sample) := by
  rw [askSample]
  cases given? sampleQuery with
  | none => exact void_pure []
  | some query =>
    rw [Option.toList_some, List.map_singleton, inquireAll_singleton, inquire, void]
    exact map_eq_pure_bind _ _

/-- An evaluation without its result is its inquiries. -/
theorem void_evaluate (b : Backend σ ε) (p : Plan) (sampleQuery : Option String) :
    void (evaluate b p sampleQuery) = inquireAll b (p.inquiries sampleQuery) := by
  rw [Plan.inquiries, List.append_assoc, inquireAll_append, inquireAll_append, evaluate]
  refine void_seq (void_askShared b p) fun aggregates => ?_
  refine void_seq (void_askConditionals b aggregates p.conditionals) fun aggregates => ?_
  rw [← void_askSample]
  exact (void_bind _ fun samples => void_pure _).trans (map_eq_pure_bind _ _).symm

/-! ## How inquiries end -/

/-- The backend fails the inquiry. -/
def Fails (b : Backend σ ε) (i : Inquiry) (s : σ) (e : ε) (t : σ) : Prop :=
  match i with
  | .aggregate query _ => b.aggregate query s = (.error e, t)
  | .sample query => b.sample query s = (.error e, t)

/-- The backend answers with a record that cannot be measured. -/
def Defies (b : Backend σ ε) (i : Inquiry) (s : σ) (e : ArithmeticError) (t : σ) : Prop :=
  match i with
  | .aggregate query columns =>
    ∃ record, b.aggregate query s = (.ok record, t) ∧ fault? record columns = some e
  | .sample _ => False

def Stops (b : Backend σ ε) (i : Inquiry) (s : σ) (e : Error ε) (t : σ) : Prop :=
  match e with
  | .backend e => Fails b i s e t
  | .arithmetic e => Defies b i s e t

theorem ask_of_error {α : Type} {session : Session σ ε α} {s t : σ} {e : ε}
    (h : session s = (.error e, t)) : ask session s = (.error (.backend e), t) := by
  rw [ask, h]

theorem inquire_of_answer {b : Backend σ ε} {query : String} {s t : σ} {record : Record}
    (h : b.aggregate query s = (.ok record, t)) (columns : List (String × ValueType)) :
    inquire b (.aggregate query columns) s = check record columns t := bind_of_ok (ask_of_ok h)

theorem inquire_of_stops {b : Backend σ ε} {i : Inquiry} {s t : σ} {e : Error ε}
    (h : Stops b i s e t) : inquire b i s = (.error e, t) := by
  cases i with
  | aggregate query columns =>
    cases e with
    | backend e => exact bind_of_failed (ask_of_error h)
    | arithmetic e =>
      obtain ⟨record, hanswer, hfault⟩ := h
      rw [inquire_of_answer hanswer, check, hfault]
      rfl
  | sample query =>
    cases e with
    | backend e => exact bind_of_failed (ask_of_error h)
    | arithmetic e => exact absurd h id

/-- An inquiry is answered and measured, or it stops. -/
theorem inquire_cases (b : Backend σ ε) (i : Inquiry) (s : σ) :
    (∃ t, inquire b i s = (.ok (), t)) ∨ ∃ e t, Stops b i s e t := by
  cases i with
  | aggregate query columns =>
    rcases hanswer : b.aggregate query s with ⟨answer, t⟩
    cases answer with
    | error e => exact .inr ⟨.backend e, t, hanswer⟩
    | ok record =>
      cases hfault : fault? record columns with
      | some e => exact .inr ⟨.arithmetic e, t, record, hanswer, hfault⟩
      | none =>
        rw [inquire_of_answer hanswer, check, hfault]
        exact .inl ⟨t, rfl⟩
  | sample query =>
    rcases hanswer : b.sample query s with ⟨answer, t⟩
    cases answer with
    | error e => exact .inr ⟨.backend e, t, hanswer⟩
    | ok samples => exact .inl ⟨t, bind_of_ok (ask_of_ok hanswer)⟩

/-- The inquiries before the `k`-th are answered and measured, and leave `u`. -/
def Reaches (b : Backend σ ε) (is : List Inquiry) (k : Nat) (s : σ) (i : Inquiry) (u : σ) : Prop :=
  is[k]? = some i ∧ inquireAll b (is.take k) s = (.ok (), u)

theorem inquireAll_of_reaches {b : Backend σ ε} {is : List Inquiry} {k : Nat} {s u t : σ}
    {i : Inquiry} {e : Error ε} (h : Reaches b is k s i u) (hstops : Stops b i u e t) :
    inquireAll b is s = (.error e, t) := by
  obtain ⟨hi, hbefore⟩ := h
  obtain ⟨hk, rfl⟩ := List.getElem?_eq_some_iff.1 hi
  rw [← List.take_append_drop k is, inquireAll_append, bind_of_ok hbefore,
    List.drop_eq_getElem_cons hk, inquireAll]
  exact bind_of_failed (inquire_of_stops hstops)

/-- Inquiries that fail reach the one that stops. -/
theorem exists_reaches_of_inquireAll {b : Backend σ ε} {is : List Inquiry} {s t : σ} {e : Error ε}
    (h : inquireAll b is s = (.error e, t)) : ∃ k i u, Reaches b is k s i u ∧ Stops b i u e t := by
  -- The first inquiry stops, or is the first of those that come before the one that does.
  induction is generalizing s with
  | nil => exact absurd h.symm failed_ne_ok
  | cons i is ih =>
    rcases inquire_cases b i s with ⟨u, hok⟩ | ⟨e', u, hstops⟩
    · rw [inquireAll, bind_of_ok hok] at h
      obtain ⟨k, j, v, ⟨hj, hbefore⟩, hstops⟩ := ih h
      refine ⟨k + 1, j, v, ⟨hj, ?_⟩, hstops⟩
      rw [List.take_succ_cons, inquireAll, bind_of_ok hok, hbefore]
    · rw [inquireAll, bind_of_failed (inquire_of_stops hstops)] at h
      obtain ⟨rfl, rfl⟩ := failed_inj h
      exact ⟨0, i, s, ⟨rfl, rfl⟩, hstops⟩

/-! ## What is asked -/

section
variable {b : Backend σ ε} {asked : σ → List String} (hlogs : b.Logs asked)
include hlogs

theorem asked_inquire (i : Inquiry) (s : σ) :
    asked (inquire b i s).2 = asked s ++ [i.query] := by
  cases i with
  | aggregate query columns =>
    rw [Inquiry.query, ← hlogs.aggregate query s]
    rcases hanswer : b.aggregate query s with ⟨answer, t⟩
    cases answer with
    | error e => rw [inquire, bind_of_failed (ask_of_error hanswer)]
    | ok record =>
      rw [inquire_of_answer hanswer, check]
      cases fault? record columns <;> rfl
  | sample query =>
    rw [Inquiry.query, ← hlogs.sample query s]
    rcases hanswer : b.sample query s with ⟨answer, t⟩
    cases answer with
    | error e => rw [inquire, bind_of_failed (ask_of_error hanswer)]
    | ok samples =>
      rw [inquire, bind_of_ok (ask_of_ok hanswer)]
      rfl

theorem asked_inquireAll_ok {is : List Inquiry} {s t : σ} (h : inquireAll b is s = (.ok (), t)) :
    asked t = asked s ++ is.map (·.query) := by
  induction is generalizing s with
  | nil =>
    have hst : s = t := congrArg Prod.snd h
    rw [hst, List.map_nil, List.append_nil]
  | cons i is ih =>
    obtain ⟨_, u, hi, hrest⟩ := bind_ok_iff.1 h
    have hasked := asked_inquire hlogs i s
    rw [hi] at hasked
    rw [ih hrest, hasked, List.append_assoc]
    rfl

theorem asked_of_reaches {is : List Inquiry} {k : Nat} {s u t : σ} {i : Inquiry} {e : Error ε}
    (h : Reaches b is k s i u) (hstops : Stops b i u e t) :
    asked t = asked s ++ (is.map (·.query)).take (k + 1) := by
  have hlast := asked_inquire hlogs i u
  rw [inquire_of_stops hstops, asked_inquireAll_ok hlogs h.2] at hlast
  rw [hlast, List.take_add_one, List.getElem?_map, h.1, List.map_take, List.append_assoc]
  rfl

end

/-- All queries are asked, or those up to the first that the backend fails, which is how the
evaluation fails. -/
def AsksUntilFailure (b : Backend σ ε) (asked : σ → List String) (p : Plan)
    (sampleQuery : Option String) (queries : List String) (s : σ) : Prop :=
  (∃ evaluation t, evaluate b p sampleQuery s = (.ok evaluation, t) ∧
    asked t = asked s ++ queries) ∨
  ∃ k i u e t, Reaches b (p.inquiries sampleQuery) k s i u ∧ Fails b i u e t ∧
    evaluate b p sampleQuery s = (.error (.backend e), t) ∧
    asked t = asked s ++ queries.take (k + 1)

/-- How an evaluation that asks `queries` goes from a state. -/
structure Follows (b : Backend σ ε) (asked : σ → List String) (p : Plan)
    (sampleQuery : Option String) (queries : List String) (s : σ) : Prop where
  completes : ∀ evaluation t, evaluate b p sampleQuery s = (.ok evaluation, t) →
    asked t = asked s ++ queries
  /-- Nothing but one of the inquiries stops it. -/
  stops : ∀ e t, evaluate b p sampleQuery s = (.error e, t) →
    ∃ k i u, Reaches b (p.inquiries sampleQuery) k s i u ∧ Stops b i u e t
  /-- An inquiry that stops is the last one, and its error is that of the evaluation. -/
  stopped : ∀ k i u e t, Reaches b (p.inquiries sampleQuery) k s i u → Stops b i u e t →
    evaluate b p sampleQuery s = (.error e, t) ∧ asked t = asked s ++ queries.take (k + 1)

theorem follows {b : Backend σ ε} {asked : σ → List String} (hlogs : b.Logs asked) (p : Plan)
    (sampleQuery : Option String) (s : σ) :
    Follows b asked p sampleQuery ((p.inquiries sampleQuery).map (·.query)) s where
  completes evaluation t h := by
    refine asked_inquireAll_ok hlogs ?_
    rw [← void_evaluate]
    exact void_of_ok h
  stops e t h := by
    refine exists_reaches_of_inquireAll ?_
    rw [← void_evaluate]
    exact void_error_iff.2 h
  stopped k i u e t hreaches hstops := by
    refine ⟨?_, asked_of_reaches hlogs hreaches hstops⟩
    rw [← void_error_iff, void_evaluate]
    exact inquireAll_of_reaches hreaches hstops

/-- Only a record that cannot be measured keeps an evaluation from asking until a failure. -/
theorem Follows.asksUntilFailure_iff {b : Backend σ ε} {asked : σ → List String} {p : Plan}
    {sampleQuery : Option String} {queries : List String} {s : σ}
    (h : Follows b asked p sampleQuery queries s) :
    AsksUntilFailure b asked p sampleQuery queries s ↔
      ∀ k i u e t, Reaches b (p.inquiries sampleQuery) k s i u → ¬ Defies b i u e t := by
  constructor
  · intro hasks k i u e t hreaches hdefies
    have hevaluate := (h.stopped k i u (.arithmetic e) t hreaches hdefies).1
    rcases hasks with ⟨evaluation, t', hok, _⟩ | ⟨_, _, _, e', t', _, _, hfailed, _⟩
    · exact failed_ne_ok (hevaluate.symm.trans hok)
    · exact nomatch (failed_inj (hevaluate.symm.trans hfailed)).1
  · intro hmeasured
    rcases hevaluate : evaluate b p sampleQuery s with ⟨result, t⟩
    cases result with
    | ok evaluation => exact .inl ⟨evaluation, t, hevaluate, h.completes evaluation t hevaluate⟩
    | error e =>
      obtain ⟨k, i, u, hreaches, hstops⟩ := h.stops e t hevaluate
      cases e with
      | arithmetic e => exact absurd hstops (hmeasured k i u e t hreaches)
      | backend e =>
        obtain ⟨hfailed, hasked⟩ := h.stopped k i u _ t hreaches hstops
        exact .inr ⟨k, i, u, e, t, hreaches, hstops, hfailed, hasked⟩

end Evaluation
end CrossCheck
