import CrossCheck.Proofs.Discovery.Caller
import Mathlib.Logic.Function.Basic

/-!
Calls that run side by side on one cache, in steps that come in any order.  The steps of other
calls, under other keys, change neither what a call will come to nor what it will put into the
cache: this is the invariant, and at the end nothing is left of the order.
-/

namespace CrossCheck
namespace Discovery

variable {σ ε : Type}

/-! ## What is put into the cache -/

variable {ι : Type}

section

/-- A cache into which some of the records have been put, one for each index at most.  The others
are ahead. -/
structure Stores (start : Cache) (records ahead : ι → Option (String × CacheRecord)) (c : Cache) :
    Prop where
  minutes : c.minutes = start.minutes
  either : ∀ i, ahead i = records i ∨ ahead i = none
  stored : ∀ i m, records i = some m → ahead i = none → c.entries.get? m.1 = some m.2
  /-- What is under other keys is there as before. -/
  others : ∀ key, (∀ i m, records i = some m → m.1 = key → ahead i ≠ none) →
    c.entries.get? key = start.entries.get? key
  members : ∀ m ∈ c.entries, m ∈ start.entries ∨ ∃ i, records i = some m
  names : (start.entries.map (·.1)).Nodup → (c.entries.map (·.1)).Nodup

/-- The file shows what has been put into the cache. -/
structure Shows (start : Cache) (records ahead : ι → Option (String × CacheRecord)) (c : Cache) :
    Prop where
  untouched : (∀ i, records i ≠ none → ahead i ≠ none) → c.file = start.file
  written : ∀ i, records i ≠ none → ahead i = none → c.IsWritten

variable {start c c' : Cache} {records ahead : ι → Option (String × CacheRecord)}

theorem stores_start : Stores start records records start where
  minutes := rfl
  either _ := .inl rfl
  stored _ _ hm hnone := absurd (hm.symm.trans hnone) nofun
  others _ _ := rfl
  members _ hm := .inl hm
  names := id

theorem shows_start : Shows start records records start where
  untouched _ := rfl
  written _ hsome hnone := absurd hnone hsome

theorem Stores.congr (h : Stores start records ahead c) (hminutes : c'.minutes = c.minutes)
    (hentries : c'.entries = c.entries) : Stores start records ahead c' := by
  obtain ⟨hm, heither, hstored, hothers, hmembers, hnames⟩ := h
  rw [← hminutes] at hm
  rw [← hentries] at hstored hothers hmembers hnames
  exact ⟨hm, heither, hstored, hothers, hmembers, hnames⟩

theorem Shows.congr (h : Shows start records ahead c) (hfile : c'.file = c.file)
    (hentries : c'.entries = c.entries) : Shows start records ahead c' := by
  obtain ⟨huntouched, hwritten⟩ := h
  rw [← hfile] at huntouched
  refine ⟨huntouched, fun i hi hnone => ?_⟩
  obtain ⟨file, hwrite⟩ := hwritten i hi hnone
  exact ⟨file, by rw [hentries, hfile, hwrite]⟩

/-- A record that is ahead is one of those told at the start. -/
theorem Stores.eq_of_ahead (h : Stores start records ahead c) {i : ι} {m : String × CacheRecord}
    (hm : ahead i = some m) : records i = some m := by
  rcases h.either i with heq | hnone
  · exact heq.symm.trans hm
  · exact absurd (hm.symm.trans hnone) nofun

variable [DecidableEq ι]

/-- Records of different keys are put into the cache in any order. -/
theorem Stores.set (h : Stores start records ahead c)
    (hdistinct : ∀ i j m n, records i = some m → records j = some n → m.1 = n.1 → i = j) {i : ι}
    {m : String × CacheRecord} (hm : ahead i = some m) (hminutes : c'.minutes = c.minutes)
    (hentries : c'.entries = c.entries.set m.1 m.2) :
    Stores start records (Function.update ahead i none) c' := by
  have hrecord := h.eq_of_ahead hm
  refine ⟨hminutes.trans h.minutes, fun j => ?_, fun j n hn hnone => ?_, fun key hkey => ?_,
    fun n hn => ?_, fun hnames => ?_⟩
  · by_cases hj : j = i
    · rw [hj, Function.update_self]
      exact .inr rfl
    · rw [Function.update_of_ne hj]
      exact h.either j
  · rw [hentries, Named.get?_set]
    by_cases hj : j = i
    · rw [hj, hrecord, Option.some.injEq] at hn
      rw [hn, if_pos rfl]
    · rw [Function.update_of_ne hj] at hnone
      rw [if_neg fun heq => hj (hdistinct j i n m hn hrecord heq)]
      exact h.stored j n hn hnone
  · have hother : key ≠ m.1 := by
      intro heq
      exact hkey i m hrecord heq.symm (Function.update_self i none ahead)
    rw [hentries, Named.get?_set, if_neg hother]
    refine h.others key fun j n hn heq hnone => ?_
    refine hkey j n hn heq ?_
    by_cases hj : j = i
    · rw [hj, Function.update_self]
    · rw [Function.update_of_ne hj, hnone]
  · rw [hentries] at hn
    rcases Named.mem_of_mem_set hn with rfl | hmem
    · exact .inr ⟨i, hrecord⟩
    · exact h.members n hmem
  · rw [hentries]
    exact Named.nodup_set (h.names hnames) m.1 m.2

theorem shows_set {i : ι} {m : String × CacheRecord} (hrecord : records i = some m)
    (hwritten : c'.IsWritten) : Shows start records (Function.update ahead i none) c' where
  untouched h := absurd (Function.update_self i none ahead)
    (h i fun hnone => absurd (hrecord.symm.trans hnone) nofun)
  written _ _ _ := hwritten

end

/-! ## All calls together -/

/-- How far each call has come, and the cache that they share. -/
structure Joint (ι σ ε : Type) where
  cache : Cache
  progress : ι → Progress σ ε

namespace Joint

/-- No call has done anything yet. -/
def begin (c : Cache) (states : ι → σ) : Joint ι σ ε := ⟨c, fun i => ⟨none, states i⟩⟩

def step [DecidableEq ι] (calls : ι → Caller σ ε) (w : Joint ι σ ε) (i : ι) : Joint ι σ ε :=
  let moved := (calls i).step w.cache (w.progress i)
  ⟨moved.1, Function.update w.progress i moved.2⟩

/-- The calls take their steps in the order of the schedule. -/
def run [DecidableEq ι] (calls : ι → Caller σ ε) (w : Joint ι σ ε) (schedule : List ι) :
    Joint ι σ ε :=
  schedule.foldl (step calls) w

end Joint

/-- No two calls have one key. -/
def HaveKeys (calls : ι → Caller σ ε) : Prop :=
  ∀ i j e e', (calls i).source.environmentId = some e → (calls j).source.environmentId = some e' →
    (calls i).key e = (calls j).key e' → i = j

namespace Joint

open Progress

variable {calls : ι → Caller σ ε} {start : Cache} {states : ι → σ} {w : Joint ι σ ε}

/-- What each call will put into the cache, told at the start. -/
def recordsOf (calls : ι → Caller σ ε) (start : Cache) (states : ι → σ) :
    ι → Option (String × CacheRecord) :=
  fun i => (calls i).pending start ⟨none, states i⟩

/-- What each call has yet to put into the cache. -/
def aheadOf (calls : ι → Caller σ ε) (start : Cache) (w : Joint ι σ ε) :
    ι → Option (String × CacheRecord) :=
  fun i => (calls i).pending start (w.progress i)

/-- No answer was lost on the way to the file. -/
def IsSound (w : Joint ι σ ε) : Prop := ∀ i, ¬ (w.progress i).IsFaulted

/-- The calls come to what they would have come to at the start. -/
structure Follows (calls : ι → Caller σ ε) (start : Cache) (states : ι → σ) (w : Joint ι σ ε) :
    Prop where
  stores : Stores start (recordsOf calls start states) (aheadOf calls start w) w.cache
  before : ∀ i, (w.progress i).stage = none → w.progress i = ⟨none, states i⟩
  outcome : ∀ i, ¬ (w.progress i).IsFaulted →
    (calls i).outcome start (w.progress i) = (calls i).outcome start ⟨none, states i⟩
  shows : w.IsSound → Shows start (recordsOf calls start states) (aheadOf calls start w) w.cache

theorem follows_begin : Follows calls start states (begin start states) where
  stores := stores_start
  before _ _ := rfl
  outcome _ _ := rfl
  shows _ := shows_start

theorem distinct_recordsOf (hkeys : HaveKeys calls) (start : Cache) (states : ι → σ) :
    ∀ i j m n, recordsOf calls start states i = some m → recordsOf calls start states j = some n →
      m.1 = n.1 → i = j := by
  intro i j m n hm hn heq
  obtain ⟨-, -, e, _, _, he, -, -, rfl⟩ := Caller.pending_eq_some_iff.1 hm
  obtain ⟨-, -, e', _, _, he', -, -, rfl⟩ := Caller.pending_eq_some_iff.1 hn
  exact hkeys i j e e' he he' heq

/-- A call that has not asked the cache will find what it would have found at the start. -/
theorem Follows.agrees (hkeys : HaveKeys calls) (h : Follows calls start states w) {i : ι}
    (hstage : (w.progress i).stage = none) : (calls i).Agrees w.cache start := by
  intro e he
  refine h.stores.others _ fun j m hm hkey hnone => ?_
  obtain ⟨-, -, e', _, _, he', -, -, rfl⟩ := Caller.pending_eq_some_iff.1 hm
  obtain rfl := hkeys j i e' e he' he hkey
  rw [aheadOf, h.before j hstage] at hnone
  exact absurd (hm.symm.trans hnone) nofun

theorem isSound_begin : (begin start states : Joint ι σ ε).IsSound :=
  fun _ => not_isFaulted rfl

/-- A call that has ended came to what it would have come to at the start. -/
theorem Follows.progress_eq (h : Follows calls start states w) {i : ι}
    (hsound : ¬ (w.progress i).IsFaulted) {result : Except (Error ε) ObjectSchema}
    (hresult : (w.progress i).result? = some result) :
    w.progress i = ⟨some (.ended ((calls i).outcome start ⟨none, states i⟩).1),
      ((calls i).outcome start ⟨none, states i⟩).2⟩ := by
  have houtcome := h.outcome i hsound
  generalize w.progress i = x at hresult houtcome ⊢
  rw [← houtcome, stage_of_result? hresult]
  rfl

theorem aheadOf_eq_none {i : ι} {result : Except (Error ε) ObjectSchema}
    (hresult : (w.progress i).result? = some result) :
    aheadOf calls start w i = none := by
  rw [aheadOf, stage_of_result? hresult]
  exact ite_self _

/-- What all calls together leave behind, told from what each of them puts into the cache. -/
structure Leaves (start : Cache) (records : ι → Option (String × CacheRecord)) (c : Cache) :
    Prop where
  stored : ∀ i m, records i = some m → c.entries.get? m.1 = some m.2
  earlier : ∀ key, (∀ i m, records i = some m → m.1 ≠ key) →
    c.entries.get? key = start.entries.get? key
  members : ∀ m ∈ c.entries, m ∈ start.entries ∨ ∃ i, records i = some m
  untouched : (∀ i, records i = none) → c.file = start.file
  /-- All entries stand in the file. -/
  written : ∀ i, records i ≠ none →
    c.file = .text (Json.writeLine (Document.ofCacheEntries c.entries))
  /-- They are found there again, if they are such as a file can keep. -/
  reread : ∀ i, records i ≠ none → (start.entries.map (·.1)).Nodup →
    (∀ m ∈ start.entries, Cache.IsKept m.1 m.2.type m.2.data) →
    (∀ j m, records j = some m → Cache.IsKept m.1 m.2.type m.2.data) →
      Cache.entriesOf? c.file = some c.entries

theorem Follows.leaves (h : Follows calls start states w) (hsound : w.IsSound)
    (hended : ∀ i, ∃ result, (w.progress i).result? = some result) :
    Leaves start (recordsOf calls start states) w.cache := by
  have hnone : ∀ i, aheadOf calls start w i = none :=
    fun i => aheadOf_eq_none (hended i).choose_spec
  have hshows := h.shows hsound
  have hwritten : ∀ i, recordsOf calls start states i ≠ none → w.cache.IsWritten :=
    fun i hi => hshows.written i hi (hnone i)
  refine ⟨fun i m hm => h.stores.stored i m hm (hnone i), fun key hkey => ?_, h.stores.members,
    fun hrecords => hshows.untouched fun i hi => absurd (hrecords i) hi,
    fun i hi => (hwritten i hi).file_eq, fun i hi hnames hkept hkepts => ?_⟩
  · exact h.stores.others key fun i m hm heq => absurd heq (hkey i m hm)
  · obtain ⟨file, hwrite⟩ := hwritten i hi
    refine Cache.entriesOf?_of_writeFile hwrite (h.stores.names hnames) fun m hm => ?_
    rcases h.stores.members m hm with hmem | ⟨j, hj⟩
    · exact hkept m hmem
    · exact hkepts j m hj

variable [DecidableEq ι]

theorem aheadOf_update (c : Cache) (i : ι) (x : Progress σ ε) :
    aheadOf calls start ⟨c, Function.update w.progress i x⟩ =
      Function.update (aheadOf calls start w) i ((calls i).pending start x) := by
  funext j
  exact Function.apply_update (fun j => (calls j).pending start) w.progress i x j

theorem isSound_update_iff {c : Cache} {i : ι} {x : Progress σ ε} :
    (⟨c, Function.update w.progress i x⟩ : Joint ι σ ε).IsSound ↔
      ¬ x.IsFaulted ∧ ∀ j, j ≠ i → ¬ (w.progress j).IsFaulted :=
  Function.forall_update_iff w.progress (p := fun _ y => ¬ y.IsFaulted)

/-- No step of one call makes a difference to what any of them will come to. -/
theorem Follows.step (hkeys : HaveKeys calls) (h : Follows calls start states w) (i : ι) :
    Follows calls start states (w.step calls i) := by
  -- Other keys are no matter to the call, so the step can be told from the start.
  have hmoves := Caller.moves h.stores.minutes (h.agrees hkeys (i := i))
  rw [Joint.step]
  generalize (calls i).step w.cache (w.progress i) = moved at hmoves ⊢
  have hbefore {x : Progress σ ε} (hx : x.stage ≠ none) :
      ∀ j, (Function.update w.progress i x j).stage = none →
        Function.update w.progress i x j = ⟨none, states j⟩ :=
    (Function.forall_update_iff w.progress
      (p := fun j y => y.stage = none → y = ⟨none, states j⟩)).2
      ⟨fun hnone => absurd hnone hx, fun j _ => h.before j⟩
  have houtcomes {x : Progress σ ε} (hx : ¬ x.IsFaulted →
        (calls i).outcome start x = (calls i).outcome start ⟨none, states i⟩) :
      ∀ j, ¬ (Function.update w.progress i x j).IsFaulted →
        (calls j).outcome start (Function.update w.progress i x j) =
          (calls j).outcome start ⟨none, states j⟩ :=
    (Function.forall_update_iff w.progress (p := fun j y => ¬ y.IsFaulted →
      (calls j).outcome start y = (calls j).outcome start ⟨none, states j⟩)).2
      ⟨hx, fun j _ => h.outcome j⟩
  cases hmoves with
  | quiet c' x' hminutes hentries hfile hstage hfault houtcome hpending =>
    have hahead : aheadOf calls start ⟨c', Function.update w.progress i x'⟩ =
        aheadOf calls start w := by
      rw [aheadOf_update, hpending]
      exact Function.update_eq_self i _
    refine ⟨?_, hbefore hstage, houtcomes fun hx' => ?_, fun hsound => ?_⟩
    · rw [hahead]
      exact h.stores.congr hminutes hentries
    · exact houtcome.trans (h.outcome i fun hx => hx' (hfault hx))
    · rw [isSound_update_iff] at hsound
      rw [hahead]
      refine (h.shows fun j hj => ?_).congr hfile hentries
      by_cases hji : j = i
      · exact hsound.1 (hfault (hji ▸ hj))
      · exact hsound.2 j hji hj
  | kept c' x' m hminutes hentries hstage hfault hpending hpending' hwritten =>
    have hahead : aheadOf calls start ⟨c', Function.update w.progress i x'⟩ =
        Function.update (aheadOf calls start w) i none := by
      rw [aheadOf_update, hpending']
    have hrecord := h.stores.eq_of_ahead hpending
    refine ⟨?_, hbefore hstage, houtcomes fun hx' => ?_, fun hsound => ?_⟩
    · rw [hahead]
      exact h.stores.set (distinct_recordsOf hkeys start states) hpending hminutes hentries
    · exact (hwritten hx').1.trans (h.outcome i hfault)
    · rw [hahead]
      exact shows_set hrecord (hwritten (isSound_update_iff.1 hsound).1).2

theorem run_cons (calls : ι → Caller σ ε) (w : Joint ι σ ε) (i : ι) (schedule : List ι) :
    w.run calls (i :: schedule) = (w.step calls i).run calls schedule := rfl

theorem Follows.run (hkeys : HaveKeys calls) (h : Follows calls start states w)
    (schedule : List ι) : Follows calls start states (w.run calls schedule) := by
  induction schedule generalizing w with
  | nil => exact h
  | cons i schedule ih =>
    rw [run_cons]
    exact ih (h.step hkeys i)

theorem isSound_run (h : start.IsOpen) (states : ι → σ) (schedule : List ι) :
    ((begin start states).run calls schedule).IsSound := by
  have hbegin : (begin start states : Joint ι σ ε).cache.IsOpen := h
  have hsound : (begin start states : Joint ι σ ε).IsSound := isSound_begin
  generalize (begin start states : Joint ι σ ε) = w at hbegin hsound
  induction schedule generalizing w with
  | nil => exact hsound
  | cons i schedule ih =>
    obtain ⟨hopen, hfault⟩ := (calls i).isOpen_step hbegin (hsound i)
    exact ih _ hopen (isSound_update_iff.2 ⟨hfault, fun j _ => hsound j⟩)

/-! ## Ends -/

theorem progress_step_of_ne {i j : ι} (h : j ≠ i) :
    (w.step calls i).progress j = w.progress j := Function.update_of_ne h ..

theorem distance_run (schedule : List ι) (i : ι) :
    ((w.run calls schedule).progress i).distance ≤ (w.progress i).distance - schedule.count i := by
  induction schedule generalizing w with
  | nil => exact Nat.le_refl _
  | cons j schedule ih =>
    rw [run_cons]
    refine (ih (w := w.step calls j)).trans ?_
    by_cases hj : i = j
    · obtain rfl := hj
      have hstep : ((w.step calls i).progress i).distance ≤ (w.progress i).distance - 1 := by
        rw [show (w.step calls i).progress i = _ from Function.update_self ..]
        exact Caller.distance_step _ _
      rw [List.count_cons_self]
      omega
    · rw [progress_step_of_ne hj, List.count_cons_of_ne fun heq => hj heq.symm]

/-- Three steps are enough for every call. -/
theorem exists_result_of_count (calls : ι → Caller σ ε) (start : Cache) (states : ι → σ)
    {schedule : List ι} {i : ι} (h : 3 ≤ schedule.count i) :
    ∃ result, (((begin start states).run calls schedule).progress i).result? = some result := by
  have hdistance := @distance_run _ _ _ calls (begin start states) _ schedule i
  have hbegin : ((begin start states : Joint ι σ ε).progress i).distance = 3 := rfl
  exact exists_result_of_distance (by omega)

/-! ## One call after the other -/

/-- The steps of a call without a break. -/
theorem run_replicate {i : ι} {s : σ} (h : w.progress i = ⟨none, s⟩) :
    w.run calls (List.replicate 3 i) =
      ⟨((calls i).perform w.cache s).1,
        Function.update w.progress i ((calls i).perform w.cache s).2⟩ := by
  simp only [List.replicate, run, List.foldl, step, Function.update_self, Function.update_idem, h]
  rfl

theorem run_append (schedule later : List ι) :
    w.run calls (schedule ++ later) = (w.run calls schedule).run calls later :=
  List.foldl_append

/-- Two calls of which one begins when the other has ended. -/
theorem run_inOrder (calls : ι → Caller σ ε) (c : Cache) (states : ι → σ) {i j : ι} (h : i ≠ j) :
    let x := (calls i).perform c (states i)
    let y := (calls j).perform x.1 (states j)
    let w := (begin c states).run calls (List.replicate 3 i ++ List.replicate 3 j)
    w.progress i = x.2 ∧ w.progress j = y.2 := by
  intro x y w
  have hfirst : (begin c states).run calls (List.replicate 3 i) =
      ⟨x.1, Function.update (begin c states).progress i x.2⟩ := run_replicate rfl
  have hw : w = ⟨y.1, Function.update (Function.update (begin c states).progress i x.2) j y.2⟩ := by
    rw [show w = _ from run_append .., hfirst]
    exact run_replicate (Function.update_of_ne h.symm ..)
  rw [hw]
  exact ⟨(Function.update_of_ne h ..).trans (Function.update_self ..), Function.update_self ..⟩

end Joint

end Discovery
end CrossCheck
