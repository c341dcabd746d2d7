import CrossCheck.Proofs.Discovery.Sharing

/-!
A description taken apart into what others can notice of it.  A call asks the cache, asks its source
and puts the answer into the cache; the cache is locked while it is asked or changed, so each of
these is one step.  Taken without a break the three steps are the description.

What a call will come to, and what it will put into the cache, can be told from the entry under its
key, however far it has come.
-/

namespace CrossCheck
namespace Discovery

variable {σ ε : Type}

/-- One of the calls. -/
structure Caller (σ ε : Type) where
  source : SchemaSource σ ε
  object : String
  /-- What the clock shows when the cache is asked. -/
  asks : Binary64
  /-- What the clock shows when an answer is kept. -/
  keeps : Binary64

/-- How far a call has come that has asked the cache. -/
inductive Stage (ε : Type) where
  | missed (environmentId : String)
  | answered (environmentId : String) (schema : ObjectSchema)
  | ended (result : Except (Error ε) ObjectSchema)

/-- How far a call has come, and what its source remembers. -/
structure Progress (σ ε : Type) where
  /-- None before the cache is asked. -/
  stage : Option (Stage ε)
  state : σ

namespace Progress

variable (x : Progress σ ε)

def result? : Option (Except (Error ε) ObjectSchema) :=
  match x.stage with
  | some (.ended result) => some result
  | _ => none

/-- The answer of the source could not be kept. -/
def IsFaulted : Prop := ∃ e, x.result? = some (.error (.cache e))

variable {x} in
theorem not_isFaulted (h : x.result? = none) : ¬ x.IsFaulted := by
  rintro ⟨e, he⟩
  exact absurd (h.symm.trans he) nofun

/-- How many steps there are to come. -/
def distance : Nat :=
  match x.stage with
  | none => 3
  | some (.missed _) => 2
  | some (.answered _ _) => 1
  | some (.ended _) => 0

variable {x} in
theorem stage_of_result? {result : Except (Error ε) ObjectSchema} (h : x.result? = some result) :
    x = ⟨some (.ended result), x.state⟩ := by
  obtain ⟨stage, s⟩ := x
  rw [result?] at h
  split at h
  · next hstage =>
    dsimp only at hstage
    rw [hstage, Option.some.inj h]
  · exact absurd h nofun

variable {x} in
theorem exists_result_of_distance (h : x.distance = 0) : ∃ result, x.result? = some result := by
  obtain ⟨stage, s⟩ := x
  rw [distance] at h
  split at h
  · exact absurd h (by decide)
  · exact absurd h (by decide)
  · exact absurd h (by decide)
  · next result hstage =>
    dsimp only at hstage
    rw [hstage]
    exact ⟨result, rfl⟩

end Progress

namespace Caller

open Progress

variable (call : Caller σ ε)

def key (environmentId : String) : String := keyIn call.source call.object environmentId

/-- What is put into the cache for a schema. -/
def record (environmentId : String) (schema : ObjectSchema) : String × CacheRecord :=
  (call.key environmentId, ⟨call.keeps, recordType, Document.ofSchema schema⟩)

def stageOf (environmentId : String) : Option Value → Stage ε
  | none | some .null => .missed environmentId
  | some v => .ended (ofHeld v)

/-- Asks the cache. -/
def look (c : Cache) : Cache × Stage ε :=
  match Text.strip call.object, call.source.environmentId with
  | "", _ => (c, .ended (.error .missingName))
  | _, none => (c, .ended (.error .unidentified))
  | _, some environmentId =>
    let (found, c, _) := c.get? call.asks (call.key environmentId) recordType
    (c, stageOf environmentId found)

/-- The next thing that a call does. -/
def step (c : Cache) (x : Progress σ ε) : Cache × Progress σ ε :=
  match x.stage with
  | none =>
    let (c, stage) := call.look c
    (c, ⟨some stage, x.state⟩)
  | some (.missed environmentId) =>
    match call.source.describe (Text.strip call.object) x.state with
    | (.error e, t) => (c, ⟨some (.ended (.error (.source e))), t⟩)
    | (.ok schema, t) => (c, ⟨some (.answered environmentId schema), t⟩)
  | some (.answered environmentId schema) =>
    let (fault, c, _) := c.set call.keeps (call.key environmentId) recordType
      (Document.ofSchema schema)
    (c, ⟨some (.ended (ofFault schema fault)), x.state⟩)
  | some (.ended _) => (c, x)

/-- What a call comes to from there, and its source with it, if nothing stands in the way of its
answer. -/
def finish : Stage ε → σ → Except (Error ε) ObjectSchema × σ
  | .missed _, s =>
    let (answer, t) := call.source.describe (Text.strip call.object) s
    (answer.mapError .source, t)
  | .answered _ schema, s => (.ok schema, s)
  | .ended result, s => (result, s)

/-- What a call has yet to put into the cache from there. -/
def due : Stage ε → σ → Option (String × CacheRecord)
  | .missed environmentId, s =>
    (call.source.describe (Text.strip call.object) s).1.toOption.map (call.record environmentId)
  | .answered environmentId schema, _ => some (call.record environmentId schema)
  | .ended _, _ => none

/-- How far a call has come once it has asked the cache. -/
def stageIn (c : Cache) (x : Progress σ ε) : Stage ε := x.stage.getD (call.look c).2

/-- What a call comes to that finds the cache like this. -/
def outcome (c : Cache) (x : Progress σ ε) : Except (Error ε) ObjectSchema × σ :=
  call.finish (call.stageIn c x) x.state

/-- What it has yet to put into the cache. -/
def pending (c : Cache) (x : Progress σ ε) : Option (String × CacheRecord) :=
  if c.isDisabled then none else call.due (call.stageIn c x) x.state

/-! ## One step -/

variable {call}

theorem look_of_identified (hname : Text.strip call.object ≠ "") {environmentId : String}
    (hid : call.source.environmentId = some environmentId) (c : Cache) :
    call.look c = ((c.get? call.asks (call.key environmentId) recordType).2.1,
      stageOf environmentId (c.answer? call.asks (call.key environmentId) recordType)) := by
  simp only [look, hid, Cache.get?_fst]

/-- Asking changes nothing that can be told. -/
theorem look_fst (call : Caller σ ε) (c : Cache) :
    (call.look c).1.entries = c.entries ∧ (call.look c).1.file = c.file ∧
      (call.look c).1.minutes = c.minutes := by
  rw [look]
  split
  · exact ⟨rfl, rfl, rfl⟩
  · exact ⟨rfl, rfl, rfl⟩
  · exact ⟨Cache.entries_get? .., Cache.file_get? .., Cache.minutes_get? ..⟩

/-- The two caches hold the same for the call. -/
def Agrees (call : Caller σ ε) (c d : Cache) : Prop :=
  ∀ environmentId, call.source.environmentId = some environmentId →
    c.entries.get? (call.key environmentId) = d.entries.get? (call.key environmentId)

theorem look_congr {c d : Cache} (hminutes : c.minutes = d.minutes) (h : call.Agrees c d) :
    (call.look c).2 = (call.look d).2 := by
  by_cases hname : Text.strip call.object = ""
  · simp only [look, hname]
  cases hid : call.source.environmentId with
  | none => simp only [look, hid]
  | some environmentId =>
    rw [look_of_identified hname hid, look_of_identified hname hid, Cache.answer?, Cache.answer?,
      Cache.isDisabled, Cache.isDisabled, hminutes, h environmentId hid]

theorem stageOf_of_ne {environmentId : String} {v : Value} (hv : v ≠ .null) :
    (stageOf environmentId (some v) : Stage ε) = .ended (ofHeld v) := by
  cases v with
  | null => exact absurd rfl hv
  | _ => rfl

theorem stageOf_of_null {environmentId : String} {v : Option Value}
    (h : ∀ w, v = some w → w = .null) :
    (stageOf environmentId v : Stage ε) = .missed environmentId := by
  cases v with
  | none => rfl
  | some v =>
    rw [h v rfl]
    rfl

theorem ofHeld_ne_fault (v : Value) (e : Cache.Fault) :
    (ofHeld v : Except (Error ε) ObjectSchema) ≠ .error (.cache e) := by
  intro h
  rw [ofHeld] at h
  split at h
  · cases h
  · cases h

/-- Nothing is lost while the cache is only asked. -/
theorem stageOf_cases (environmentId : String) (v : Option Value) :
    (stageOf environmentId v : Stage ε) = .missed environmentId ∨
      ∃ result, (∀ e, result ≠ .error (.cache e)) ∧
        (stageOf environmentId v : Stage ε) = .ended result := by
  rcases held_or_not v with ⟨w, rfl, hw⟩ | hnull
  · exact .inr ⟨_, ofHeld_ne_fault w, stageOf_of_ne hw⟩
  · exact .inl (stageOf_of_null hnull)

theorem stageOf_eq_missed_iff {environmentId : String} {v : Option Value} :
    (stageOf environmentId v : Stage ε) = .missed environmentId ↔ ∀ w, v = some w → w = .null := by
  refine ⟨fun h w hw => Classical.byContradiction fun hne => ?_, stageOf_of_null⟩
  rw [hw, stageOf_of_ne hne] at h
  exact absurd h nofun

theorem look_cases (call : Caller σ ε) (c : Cache) :
    (∃ environmentId, Text.strip call.object ≠ "" ∧
      call.source.environmentId = some environmentId ∧
      (call.look c).2 = .missed environmentId) ∨
    ∃ result, (∀ e, result ≠ .error (.cache e)) ∧ (call.look c).2 = .ended result := by
  by_cases hname : Text.strip call.object = ""
  · exact .inr ⟨.error .missingName, nofun, by simp only [look, hname]⟩
  cases hid : call.source.environmentId with
  | none => exact .inr ⟨.error .unidentified, nofun, by simp only [look, hid]⟩
  | some environmentId =>
    rw [look_of_identified hname hid]
    exact (stageOf_cases ..).imp_left fun hstage => ⟨environmentId, hname, rfl, hstage⟩

/-- A call that begins will put into the cache what its source answers, under its own key, if the
cache is on and has no answer. -/
theorem pending_eq_some_iff {c : Cache} {s : σ} {m : String × CacheRecord} :
    call.pending c ⟨none, s⟩ = some m ↔
      c.isDisabled = false ∧ Text.strip call.object ≠ "" ∧
        ∃ environmentId schema t, call.source.environmentId = some environmentId ∧
          (∀ v, c.answer? call.asks (call.key environmentId) recordType = some v → v = .null) ∧
          call.source.describe (Text.strip call.object) s = (.ok schema, t) ∧
          m = call.record environmentId schema := by
  rw [pending, stageIn, Option.getD_none]
  constructor
  · intro h
    split at h
    · exact absurd h nofun
    next hon =>
    rcases call.look_cases c with ⟨environmentId, hname, hid, hstage⟩ | ⟨result, -, hstage⟩
    · rw [hstage] at h
      obtain ⟨schema, hschema, rfl⟩ := Option.map_eq_some_iff.1 h
      rw [look_of_identified hname hid] at hstage
      rcases hdescribe : call.source.describe (Text.strip call.object) s with ⟨e | said, t⟩
      · rw [hdescribe] at hschema
        exact absurd hschema nofun
      · rw [hdescribe] at hschema
        cases hschema
        exact ⟨Bool.not_eq_true _ ▸ hon, hname, environmentId, schema, t, hid,
          stageOf_eq_missed_iff.1 hstage, rfl, rfl⟩
    · rw [hstage] at h
      exact absurd h nofun
  · rintro ⟨hon, hname, environmentId, schema, t, hid, hcold, hdescribe, rfl⟩
    rw [hon, look_of_identified hname hid, stageOf_of_null hcold, if_neg Bool.false_ne_true, due,
      hdescribe]
    rfl

/-- What a step does, told from a cache that the call would find the same in. -/
inductive Moves (call : Caller σ ε) (start c : Cache) (x : Progress σ ε) :
    Cache × Progress σ ε → Prop where
  /-- Nothing that others can notice. -/
  | quiet (c' : Cache) (x' : Progress σ ε) (hminutes : c'.minutes = c.minutes)
    (hentries : c'.entries = c.entries) (hfile : c'.file = c.file)
    (hstage : x'.stage ≠ none) (hfault : x.IsFaulted → x'.IsFaulted)
    (houtcome : call.outcome start x' = call.outcome start x)
    (hpending : call.pending start x' = call.pending start x) : Moves call start c x (c', x')
  /-- What was pending is put into the cache. -/
  | kept (c' : Cache) (x' : Progress σ ε) (m : String × CacheRecord)
    (hminutes : c'.minutes = c.minutes) (hentries : c'.entries = c.entries.set m.1 m.2)
    (hstage : x'.stage ≠ none) (hfault : ¬ x.IsFaulted) (hpending : call.pending start x = some m)
    (hpending' : call.pending start x' = none)
    (hwritten : ¬ x'.IsFaulted → call.outcome start x' = call.outcome start x ∧ c'.IsWritten) :
    Moves call start c x (c', x')

theorem step_none (c : Cache) (t : σ) :
    call.step c ⟨none, t⟩ = ((call.look c).1, ⟨some (call.look c).2, t⟩) := by
  rw [step]

theorem step_ended (c : Cache) (result : Except (Error ε) ObjectSchema) (t : σ) :
    call.step c ⟨some (.ended result), t⟩ = (c, ⟨some (.ended result), t⟩) := rfl

theorem step_missed_error {environmentId : String} {s t : σ} {e : ε}
    (h : call.source.describe (Text.strip call.object) s = (.error e, t)) (c : Cache) :
    call.step c ⟨some (.missed environmentId), s⟩ =
      (c, ⟨some (.ended (.error (.source e))), t⟩) := by
  simp only [step, h]

theorem step_missed_ok {environmentId : String} {s t : σ} {schema : ObjectSchema}
    (h : call.source.describe (Text.strip call.object) s = (.ok schema, t)) (c : Cache) :
    call.step c ⟨some (.missed environmentId), s⟩ =
      (c, ⟨some (.answered environmentId schema), t⟩) := by
  simp only [step, h]

/-- Asking the source leaves the cache alone, and changes nothing in what the call will come to. -/
theorem exists_step_missed (call : Caller σ ε) (c : Cache) (environmentId : String) (s : σ) :
    ∃ stage t, call.step c ⟨some (.missed environmentId), s⟩ = (c, ⟨some stage, t⟩) ∧
      call.finish stage t = call.finish (.missed environmentId) s ∧
      call.due stage t = call.due (.missed environmentId) s ∧
      ¬ (⟨some stage, t⟩ : Progress σ ε).IsFaulted ∧
      (⟨some stage, t⟩ : Progress σ ε).distance ≤ 1 := by
  rcases hdescribe : call.source.describe (Text.strip call.object) s with ⟨e | schema, t⟩
  · refine ⟨_, _, step_missed_error hdescribe c, ?_, ?_, fun ⟨_, he⟩ => absurd he nofun,
      Nat.zero_le _⟩
    · simp only [finish, hdescribe]
      rfl
    · simp only [due, hdescribe]
      rfl
  · refine ⟨_, _, step_missed_ok hdescribe c, ?_, ?_, not_isFaulted rfl, Nat.le_refl _⟩
    · simp only [finish, hdescribe]
      rfl
    · simp only [due, hdescribe]
      rfl

theorem step_answered (c : Cache) (environmentId : String) (schema : ObjectSchema) (t : σ) :
    call.step c ⟨some (.answered environmentId schema), t⟩ =
      let kept := c.set call.keeps (call.key environmentId) recordType (Document.ofSchema schema)
      (kept.2.1, ⟨some (.ended (ofFault schema kept.1)), t⟩) := rfl

theorem moves_answered {start c : Cache} (hminutes : c.minutes = start.minutes)
    (environmentId : String) (schema : ObjectSchema) (t : σ) :
    Moves call start c ⟨some (.answered environmentId schema), t⟩
      (call.step c ⟨some (.answered environmentId schema), t⟩) := by
  have hdisabled : start.isDisabled = c.isDisabled := by
    rw [Cache.isDisabled, Cache.isDisabled, hminutes]
  rw [step_answered]
  cases hoff : c.isDisabled with
  | true =>
    have hset : c.set call.keeps (call.key environmentId) recordType (Document.ofSchema schema) =
        (none, c, []) := by
      rw [Cache.set, if_pos hoff]
    rw [hset]
    refine .quiet _ _ rfl rfl rfl (Option.some_ne_none _)
      (fun h => absurd h (not_isFaulted rfl)) rfl ?_
    rw [pending, pending, hdisabled, hoff]
    rfl
  | false =>
    have hkeptMinutes := c.minutes_set call.keeps (call.key environmentId) recordType
      (Document.ofSchema schema)
    have hentries := c.entries_set call.keeps (call.key environmentId) recordType
      (Document.ofSchema schema)
    have hwritten := @Cache.set_of_ok c (Cache.pos_of_isDisabled hoff) call.keeps
      (call.key environmentId) recordType (Document.ofSchema schema)
    rw [hoff, if_neg Bool.false_ne_true] at hentries
    rw [hoff] at hdisabled
    generalize c.set call.keeps (call.key environmentId) recordType (Document.ofSchema schema) =
      kept at hkeptMinutes hentries hwritten
    obtain ⟨fault, c', events⟩ := kept
    refine .kept _ _ (call.record environmentId schema) hkeptMinutes hentries
      (Option.some_ne_none _) (not_isFaulted rfl) ?_ ?_ ?_
    · rw [pending, hdisabled]
      rfl
    · rw [pending, hdisabled]
      rfl
    · intro hfault
      cases fault with
      | some e => exact absurd ⟨e, rfl⟩ hfault
      | none =>
        obtain ⟨file, hwrite, rfl⟩ := hwritten rfl
        exact ⟨rfl, c.file, hwrite⟩

theorem moves {start c : Cache} {x : Progress σ ε} (hminutes : c.minutes = start.minutes)
    (hagrees : x.stage = none → call.Agrees c start) :
    Moves call start c x (call.step c x) := by
  obtain ⟨stage, t⟩ := x
  cases stage with
  | none =>
    obtain ⟨hentries, hfile, hkeptMinutes⟩ := call.look_fst c
    rw [step_none, look_congr hminutes (hagrees rfl)]
    refine .quiet _ _ hkeptMinutes hentries hfile nofun
      (fun h => absurd h (not_isFaulted rfl)) ?_ ?_
    · rw [outcome, outcome, stageIn, stageIn, Option.getD_some, Option.getD_none]
    · rw [pending, pending, stageIn, stageIn, Option.getD_some, Option.getD_none]
  | some stage =>
    cases stage with
    | missed environmentId =>
      obtain ⟨stage, u, hstep, hfinish, hdue, -, -⟩ := call.exists_step_missed c environmentId t
      rw [hstep]
      refine .quiet _ _ rfl rfl rfl nofun (fun h => absurd h (not_isFaulted rfl)) hfinish ?_
      simp only [pending, stageIn, Option.getD_some, hdue]
    | answered environmentId schema => exact moves_answered hminutes environmentId schema t
    | ended result =>
      rw [step_ended]
      exact .quiet _ _ rfl rfl rfl nofun id rfl rfl

theorem not_isFaulted_look (call : Caller σ ε) (c : Cache) (t : σ) :
    ¬ (⟨some (call.look c).2, t⟩ : Progress σ ε).IsFaulted := by
  rcases call.look_cases c with ⟨environmentId, -, -, hstage⟩ | ⟨result, hresult, hstage⟩
  · rw [hstage]
    exact not_isFaulted rfl
  · rw [hstage]
    exact fun ⟨e, he⟩ => hresult e (Option.some.inj he)

/-- No answer is lost where nothing stands in the way of a change. -/
theorem isOpen_step (call : Caller σ ε) {c : Cache} {x : Progress σ ε} (h : c.IsOpen)
    (hx : ¬ x.IsFaulted) : (call.step c x).1.IsOpen ∧ ¬ (call.step c x).2.IsFaulted := by
  obtain ⟨stage, t⟩ := x
  cases stage with
  | none =>
    rw [step_none]
    refine ⟨?_, call.not_isFaulted_look c t⟩
    obtain ⟨hentries, hfile, -⟩ := call.look_fst c
    refine ⟨?_, ?_⟩
    · rw [hfile]
      exact h.file
    · rw [hentries]
      exact h.entries
  | some stage =>
    cases stage with
    | missed environmentId =>
      obtain ⟨stage, u, hstep, -, -, hfault, -⟩ := call.exists_step_missed c environmentId t
      rw [hstep]
      exact ⟨h, hfault⟩
    | answered environmentId schema =>
      rw [step_answered]
      obtain ⟨hopen, hfault⟩ := h.set call.keeps (call.key environmentId) recordType
        (Document.isStorable_ofSchema schema)
      dsimp only
      rw [hfault]
      exact ⟨hopen, fun ⟨_, he⟩ => absurd he nofun⟩
    | ended result =>
      rw [step_ended]
      exact ⟨h, hx⟩

/-! ## All steps -/

/-- Every step brings a call nearer to its end. -/
theorem distance_step (c : Cache) (x : Progress σ ε) :
    (call.step c x).2.distance ≤ x.distance - 1 := by
  obtain ⟨stage, t⟩ := x
  cases stage with
  | none =>
    rw [step_none]
    rcases call.look_cases c with ⟨environmentId, -, -, hstage⟩ | ⟨result, -, hstage⟩
    · rw [hstage]
      exact Nat.le_refl _
    · rw [hstage]
      exact Nat.zero_le _
  | some stage =>
    cases stage with
    | missed environmentId =>
      obtain ⟨stage, u, hstep, -, -, -, hdistance⟩ := call.exists_step_missed c environmentId t
      rw [hstep]
      exact hdistance
    | answered environmentId schema => exact Nat.zero_le _
    | ended result => exact Nat.zero_le _

variable (call) in
/-- All steps of a call without a break. -/
def perform (c : Cache) (s : σ) : Cache × Progress σ ε :=
  let first := call.step c ⟨none, s⟩
  let second := call.step first.1 first.2
  call.step second.1 second.2

theorem perform_eq {c first second third : Cache} {s : σ} {x y z : Progress σ ε}
    (h : call.step c ⟨none, s⟩ = (first, x)) (h' : call.step first x = (second, y))
    (h'' : call.step second y = (third, z)) : call.perform c s = (third, z) := by
  simp only [perform, h, h', h'']

/-- Without a break, and while the clock shows the same, the steps are a description. -/
theorem perform_eq_describe {now : Binary64} (hasks : call.asks = now) (hkeeps : call.keeps = now)
    (c : Cache) (s : σ) :
    let o := describe call.source c now call.object s
    call.perform c s = (o.cache, ⟨some (.ended o.result), o.state⟩) := by
  intro o
  by_cases hname : Text.strip call.object = ""
  · have hlook : call.look c = (c, .ended (.error .missingName)) := by
      simp only [look, hname]
    have ho : o = ⟨.error .missingName, c, s, []⟩ := describe_blank hname now s
    rw [ho]
    exact perform_eq (by rw [step_none, hlook]) (step_ended ..) (step_ended ..)
  cases hid : call.source.environmentId with
  | none =>
    have hlook : call.look c = (c, .ended (.error .unidentified)) := by
      simp only [look, hid]
    have ho : o = ⟨.error .unidentified, c, s, []⟩ := by
      simp only [o, describe, hid]
    rw [ho]
    exact perform_eq (by rw [step_none, hlook]) (step_ended ..) (step_ended ..)
  | some environmentId =>
    have hlook := look_of_identified hname hid c
    have hfirst : call.step c ⟨none, s⟩ = ((call.look c).1, ⟨some (call.look c).2, s⟩) :=
      step_none c s
    rw [hlook, hasks] at hfirst
    rcases held_or_not (c.answer? now (call.key environmentId) recordType) with
      ⟨v, hanswer, hv⟩ | hanswer
    · have ho : o = _ := describe_of_held hname hid hanswer hv s
      rw [hanswer, stageOf_of_ne hv] at hfirst
      rw [ho]
      exact perform_eq hfirst (step_ended ..) (step_ended ..)
    · have ho : o = _ := describe_of_not_held hname hid hanswer s
      rw [stageOf_of_null hanswer] at hfirst
      rw [ho]
      rcases hdescribe : call.source.describe (Text.strip call.object) s with ⟨e | schema, t⟩
      · simp only [fetch, hdescribe]
        exact perform_eq hfirst (step_missed_error hdescribe _) (step_ended ..)
      · simp only [fetch, hdescribe]
        refine perform_eq hfirst (step_missed_ok hdescribe _) ?_
        rw [step_answered, hkeeps]
        rfl

end Caller

end Discovery
end CrossCheck
