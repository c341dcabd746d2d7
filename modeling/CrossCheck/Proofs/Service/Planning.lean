import CrossCheck.Proofs.Discovery.Interleaving
import CrossCheck.Proofs.Service

/-!
Planning while both environments describe the object side by side.  The two descriptions share the
cache of the service, and their steps come in any order.  A plan comes out as if one description had
followed the other, and the cache and its file end up with everything that there was and all that
was learnt.
-/

namespace CrossCheck
namespace Service

open Discovery Session Joint

variable {σ ε : Type}

/-! ## After both descriptions -/

theorem isBlind_report (events : List Event) : IsBlind (report (ε := ε) events) :=
  fun _ _ => rfl

theorem isBlind_resolveIn (s : ObjectSchema) (environment : String) (metrics : List Metric) :
    IsBlind (resolveIn (ε := ε) s environment metrics) :=
  (isBlind_ofExcept _ _).bind fun _ => (isBlind_report _).bind fun _ => isBlind_pure _

/-- What has been reported before means nothing to a plan. -/
theorem isBlind_planFrom (metrics : List Metric) (source target : ObjectSchema) (r : Request) :
    IsBlind (planFrom (ε := ε) metrics source target r) :=
  (isBlind_resolveIn _ _ _).bind fun _ => (isBlind_resolveIn _ _ _).bind fun _ =>
    (isBlind_report _).bind fun _ => (isBlind_ofExcept _ _).bind fun _ =>
      (isBlind_ofExcept _ _).bind fun _ => (isBlind_report _).bind fun _ => isBlind_pure _

/-- What two descriptions come to.  The source has the word where both fail. -/
def bothOf (source target : Except (Discovery.Error ε) ObjectSchema) :
    Except (Error ε) (ObjectSchema × ObjectSchema) :=
  match source, target with
  | .error e, _ => .error (.description e)
  | _, .error e => .error (.description e)
  | .ok s, .ok t => .ok (s, t)

/-- What a request comes to after two descriptions. -/
def planOf (metrics : List Metric) (source target : Except (Discovery.Error ε) ObjectSchema)
    (r : Request) : Except (Error ε) Planned :=
  match bothOf source target with
  | .error e => .error e
  | .ok (s, t) => (planFrom metrics s t r []).1

theorem describeBoth_fst (v : Service σ ε) (now : Binary64) (object : String) :
    let s := describe v.source.toSchemaSource v.cache now object v.sourceState
    let t := describe v.target.toSchemaSource s.cache now object v.targetState
    (v.describeBoth now object).1 = bothOf s.result t.result := by
  simp only [describeBoth]
  generalize describe v.source.toSchemaSource v.cache now object v.sourceState = s
  generalize describe v.target.toSchemaSource s.cache now object v.targetState = t
  obtain ⟨source, _, _, _⟩ := s
  obtain ⟨target, _, _, _⟩ := t
  cases source <;> cases target <;> rfl

theorem plan_of_metrics {v : Service σ ε} {r : Request} {metrics : List Metric}
    (hmetrics : Metric.ofTokens r.tokens = .ok metrics) (now : Binary64) :
    let s := describe v.source.toSchemaSource v.cache now r.object v.sourceState
    let t := describe v.target.toSchemaSource s.cache now r.object v.targetState
    (v.plan now r).1 = planOf metrics s.result t.result r := by
  intro s t
  have hboth : (v.describeBoth now r.object).1 = bothOf s.result t.result :=
    describeBoth_fst v now r.object
  rw [planOf, ← hboth, plan, hmetrics]
  dsimp only
  rcases v.describeBoth now r.object with ⟨both, w⟩
  cases both with
  | error e => rfl
  | ok schemas => exact isBlind_planFrom metrics schemas.1 schemas.2 r w.events []

/-! ## Side by side -/

inductive Side where
  | source
  | target
deriving DecidableEq

def environment (v : Service σ ε) : Side → Environment σ ε
  | .source => v.source
  | .target => v.target

def states (v : Service σ ε) : Side → σ
  | .source => v.sourceState
  | .target => v.targetState

/-- The two descriptions.  `asks` and `keeps` tell what the clock shows to each of them when it asks
the cache and when it keeps an answer. -/
def calls (v : Service σ ε) (object : String) (asks keeps : Side → Binary64) (side : Side) :
    Caller σ ε :=
  ⟨(v.environment side).toSchemaSource, object, asks side, keeps side⟩

/-- What the descriptions have come to when they have taken the steps of a schedule. -/
def sideBySide (v : Service σ ε) (object : String) (asks keeps : Side → Binary64)
    (schedule : List Side) : Joint Side σ ε :=
  (Joint.begin v.cache v.states).run (v.calls object asks keeps) schedule

/-- One description after the other. -/
def inOrder (first second : Side) : List Side := List.replicate 3 first ++ List.replicate 3 second

/-- What a request comes to once both descriptions have ended. -/
def planAfter (w : Joint Side σ ε) (r : Request) : Option (Except (Error ε) Planned) :=
  match Metric.ofTokens r.tokens with
  | .error e => some (.error (.token e))
  | .ok metrics =>
    match (w.progress .source).result?, (w.progress .target).result? with
    | some source, some target => some (planOf metrics source target r)
    | _, _ => none

/-- The two descriptions have different keys in the cache. -/
def HaveOwnKeys (v : Service σ ε) (object : String) : Prop :=
  ∀ e e', v.source.environmentId = some e → v.target.environmentId = some e' →
    keyIn v.source.toSchemaSource object e ≠ keyIn v.target.toSchemaSource object e'

variable {v : Service σ ε} {object : String} {asks keeps : Side → Binary64}

theorem HaveOwnKeys.haveKeys (h : v.HaveOwnKeys object) : HaveKeys (v.calls object asks keeps) := by
  intro i j e e' he he' hkeys
  cases i with
  | source =>
    cases j with
    | source => rfl
    | target => exact absurd hkeys (h e e' he he')
  | target =>
    cases j with
    | source => exact absurd hkeys.symm (h e' e he' he)
    | target => rfl

theorem three_le_count_inOrder {first second : Side} (h : first ≠ second) (side : Side) :
    3 ≤ (inOrder first second).count side := by
  cases first <;> cases second <;> cases side <;> first | exact absurd rfl h | decide

theorem isSound_sideBySide (h : v.cache.IsOpen) (schedule : List Side) :
    (v.sideBySide object asks keeps schedule).IsSound := isSound_run h v.states schedule

theorem exists_result_sideBySide {schedule : List Side} (h : ∀ side, 3 ≤ schedule.count side)
    (side : Side) :
    ∃ result, ((v.sideBySide object asks keeps schedule).progress side).result? = some result :=
  exists_result_of_count (v.calls object asks keeps) v.cache v.states (h side)

/-- One after the other, while the clock shows the same, they are what the service does. -/
theorem results_inOrder {now : Binary64} (hclock : ∀ side, asks side = now ∧ keeps side = now) :
    let s := describe v.source.toSchemaSource v.cache now object v.sourceState
    let t := describe v.target.toSchemaSource s.cache now object v.targetState
    let w := v.sideBySide object asks keeps (inOrder .source .target)
    (w.progress .source).result? = some s.result ∧
      (w.progress .target).result? = some t.result := by
  intro s t w
  have hs : (v.calls object asks keeps .source).perform v.cache v.sourceState =
      (s.cache, ⟨some (.ended s.result), s.state⟩) :=
    Caller.perform_eq_describe (hclock .source).1 (hclock .source).2 v.cache v.sourceState
  have ht : (v.calls object asks keeps .target).perform s.cache v.targetState =
      (t.cache, ⟨some (.ended t.result), t.state⟩) :=
    Caller.perform_eq_describe (hclock .target).1 (hclock .target).2 s.cache v.targetState
  obtain ⟨hsource, htarget⟩ := Joint.run_inOrder (v.calls object asks keeps) v.cache v.states
    (show Side.source ≠ .target by decide)
  rw [show v.states .source = v.sourceState from rfl, hs] at hsource htarget
  rw [show v.states .target = v.targetState from rfl, ht] at htarget
  rw [show w.progress .source = _ from hsource, show w.progress .target = _ from htarget]
  exact ⟨rfl, rfl⟩

/-- A request comes to the same, and nothing is lost, in whatever order the descriptions take their
steps. -/
structure Interleaves (v : Service σ ε) (r : Request) (asks keeps : Side → Binary64)
    (w : Joint Side σ ε) : Prop where
  /-- Both descriptions end as they do one after the other, and leave their environments alike. -/
  inOrder : ∀ first second, first ≠ second →
    w.progress = (v.sideBySide r.object asks keeps (inOrder first second)).progress
  plan : ∃ outcome, planAfter w r = some outcome ∧ ∀ first second, first ≠ second →
    planAfter (v.sideBySide r.object asks keeps (Service.inOrder first second)) r = some outcome
  planned : ∀ now, (∀ side, asks side = now ∧ keeps side = now) →
    planAfter w r = some (v.plan now r).1
  precedence : ∀ metrics e e', Metric.ofTokens r.tokens = .ok metrics →
    (w.progress .source).result? = some (.error e) →
    (w.progress .target).result? = some (.error e') →
      planAfter w r = some (.error (.description e))
  leaves : Leaves v.cache (Joint.recordsOf (v.calls r.object asks keeps) v.cache v.states) w.cache

theorem planAfter_of_results {w : Joint Side σ ε} {r : Request} {metrics : List Metric}
    (hmetrics : Metric.ofTokens r.tokens = .ok metrics)
    {source target : Except (Discovery.Error ε) ObjectSchema}
    (hs : (w.progress .source).result? = some source)
    (ht : (w.progress .target).result? = some target) :
    planAfter w r = some (planOf metrics source target r) := by
  rw [planAfter, hmetrics]
  simp only [hs, ht]

theorem exists_planAfter {w : Joint Side σ ε}
    (h : ∀ side, ∃ result, (w.progress side).result? = some result) (r : Request) :
    ∃ outcome, planAfter w r = some outcome := by
  cases hmetrics : Metric.ofTokens r.tokens with
  | error e => exact ⟨_, by rw [planAfter, hmetrics]⟩
  | ok metrics =>
    obtain ⟨source, hs⟩ := h .source
    obtain ⟨target, ht⟩ := h .target
    exact ⟨_, planAfter_of_results hmetrics hs ht⟩

theorem planAfter_congr {w u : Joint Side σ ε} (h : w.progress = u.progress) (r : Request) :
    planAfter w r = planAfter u r := by
  rw [planAfter, planAfter, h]

theorem planAfter_inOrder {now : Binary64} {r : Request}
    (hclock : ∀ side, asks side = now ∧ keeps side = now) :
    planAfter (v.sideBySide r.object asks keeps (inOrder .source .target)) r =
      some (v.plan now r).1 := by
  cases hmetrics : Metric.ofTokens r.tokens with
  | error e => simp only [planAfter, plan, hmetrics]
  | ok metrics =>
    obtain ⟨hs, ht⟩ := results_inOrder (v := v) hclock
    rw [planAfter_of_results hmetrics hs ht, plan_of_metrics hmetrics]

/-- However the steps of the two descriptions of a request come, if these have keys of their own and
no answer is lost on the way to the file, the request comes to what it comes to when one follows the
other, and the cache and its file end up with everything that there was and all that was learnt. -/
theorem plan_interleaves (v : Service σ ε) (r : Request) (asks keeps : Side → Binary64)
    (hkeys : v.HaveOwnKeys r.object)
    (hsound : ∀ schedule, (v.sideBySide r.object asks keeps schedule).IsSound)
    {schedule : List Side} (hended : ∀ side, ∃ result,
      ((v.sideBySide r.object asks keeps schedule).progress side).result? = some result) :
    Interleaves v r asks keeps (v.sideBySide r.object asks keeps schedule) := by
  have hfollows (schedule : List Side) : Joint.Follows (v.calls r.object asks keeps) v.cache
      v.states (v.sideBySide r.object asks keeps schedule) :=
    Joint.follows_begin.run hkeys.haveKeys schedule
  have hinOrder : ∀ first second, first ≠ second →
      (v.sideBySide r.object asks keeps schedule).progress =
        (v.sideBySide r.object asks keeps (inOrder first second)).progress := by
    intro first second hne
    funext side
    obtain ⟨result, hresult⟩ := hended side
    obtain ⟨result', hresult'⟩ : ∃ result,
        ((v.sideBySide r.object asks keeps (inOrder first second)).progress side).result? =
          some result :=
      exists_result_sideBySide (three_le_count_inOrder hne) side
    rw [(hfollows schedule).progress_eq (hsound schedule side) hresult,
      (hfollows _).progress_eq (hsound _ side) hresult']
  obtain ⟨outcome, houtcome⟩ := exists_planAfter hended r
  refine ⟨hinOrder, ⟨outcome, houtcome, fun first second hne => ?_⟩, fun now hclock => ?_,
    fun metrics e e' hmetrics hs ht => planAfter_of_results hmetrics hs ht,
    (hfollows schedule).leaves (hsound schedule) hended⟩
  · rw [← planAfter_congr (hinOrder first second hne) r]
    exact houtcome
  · rw [planAfter_congr (hinOrder .source .target (by decide)) r]
    exact planAfter_inOrder hclock

/-- A backend of which nothing is asked but what an object looks like. -/
def describing (source : SchemaSource Unit String) : Environment Unit String :=
  { source with aggregate := fun _ => pure [], sample := fun _ => pure [], name := "" }

/-- Each description finds the cache empty before the other puts something into it. -/
theorem plan_interleaves_missed :
    let v : Service Unit String :=
      ⟨describing (speaking "crm" "58" "Deal"), describing (speaking "erp" "58" "Deal"), (), (),
        .open' 10 .missing, none, []⟩
    let clock : Side → Binary64 := fun _ => .zero false
    let w := v.sideBySide "Deal" clock clock
      [.source, .target, .source, .target, .source, .target]
    let record : CacheRecord := ⟨.zero false, recordType, Document.ofSchema ⟨"Deal", none, []⟩⟩
    (planAfter w ⟨"Deal", [], none, 0⟩ = some (v.plan (.zero false) ⟨"Deal", [], none, 0⟩).1) ∧
      w.cache.entries.get? "crm:58:sobject:deal" = some record ∧
      w.cache.entries.get? "erp:58:sobject:deal" = some record ∧
      Cache.entriesOf? w.cache.file = some w.cache.entries := by
  intro v clock w record
  have hname : Text.strip "Deal" ≠ "" ∧ keyIn v.source.toSchemaSource "Deal" "crm" =
      "crm:58:sobject:deal" ∧ keyIn v.target.toSchemaSource "Deal" "erp" =
      "erp:58:sobject:deal" := by decide +kernel
  obtain ⟨hname, hcrm, herp⟩ := hname
  have hkeys : v.HaveOwnKeys "Deal" := by
    rintro _ _ ⟨⟩ ⟨⟩
    rw [hcrm, herp]
    decide
  have hopen : v.cache.IsOpen := ⟨nofun, nofun⟩
  have hthree : ∀ side : Side,
      3 ≤ [Side.source, .target, .source, .target, .source, .target].count side :=
    fun side => by cases side <;> decide
  have h : Interleaves v ⟨"Deal", [], none, 0⟩ clock clock w :=
    plan_interleaves v ⟨"Deal", [], none, 0⟩ clock clock hkeys (isSound_sideBySide hopen)
      (exists_result_sideBySide hthree)
  have hplanned := h.planned (.zero false) fun _ => ⟨rfl, rfl⟩
  have hleaves := h.leaves
  clear_value w
  have hcold : ∀ key value, v.cache.answer? (.zero false) key recordType = some value →
      value = .null := by
    intro key value hvalue
    have hnone : v.cache.answer? (.zero false) key recordType = none :=
      Cache.answer?_of_nil (.zero false) key recordType rfl
    exact absurd (hnone.symm.trans hvalue) nofun
  have hsource : recordsOf (v.calls "Deal" clock clock) v.cache v.states .source =
      some ("crm:58:sobject:deal", record) := by
    refine Caller.pending_eq_some_iff.2
      ⟨rfl, hname, "crm", ⟨"Deal", none, []⟩, (), rfl, hcold _, rfl, ?_⟩
    rw [Caller.record]
    exact Prod.ext hcrm.symm rfl
  have htarget : recordsOf (v.calls "Deal" clock clock) v.cache v.states .target =
      some ("erp:58:sobject:deal", record) := by
    refine Caller.pending_eq_some_iff.2
      ⟨rfl, hname, "erp", ⟨"Deal", none, []⟩, (), rfl, hcold _, rfl, ?_⟩
    rw [Caller.record]
    exact Prod.ext herp.symm rfl
  refine ⟨hplanned, hleaves.stored .source _ hsource, hleaves.stored .target _ htarget, ?_⟩
  have hjson : Json.IsJson record.data :=
    ⟨by decide, by decide, show Json.IsUnhalved "Deal" by decide, by decide, trivial, by decide,
      trivial, trivial⟩
  have hdata : ∀ key, Json.IsUnhalved key → Cache.IsKept key recordType record.data :=
    fun key hkey => ⟨⟨hkey, by decide, hjson, rfl⟩, by decide⟩
  refine hleaves.reread .source (fun hnone => absurd (hsource.symm.trans hnone) nofun) .nil nofun
    fun side m hm => ?_
  cases side with
  | source =>
    cases hsource.symm.trans hm
    exact hdata _ (by decide)
  | target =>
    cases htarget.symm.trans hm
    exact hdata _ (by decide)

end Service
end CrossCheck
