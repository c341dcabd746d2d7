import CrossCheck.Cache
import CrossCheck.Proofs.Json.Depth
import CrossCheck.Proofs.Number.Difference

/-!
What a cache answers over any course of use.  Its answers are those of the last change under each
key, and its file holds all that they depend on: this is one invariant, which every operation
keeps, and it rests on the round trip of the entries through the file.  The round trip has limits,
so a value beyond them is answered only until the file is opened again.
-/

namespace CrossCheck

namespace Document

/-! ## The document of the entries -/

theorem cacheRecord?_ofCacheRecord {r : CacheRecord} (hr : stored r.data = r.data) :
    cacheRecord? (ofCacheRecord r) = some r := by
  obtain ⟨fetchedAt, type, data⟩ := r
  simp only [cacheRecord?, ofCacheRecord, record?, required, Named.get?, Option.bind_eq_bind,
    Option.bind_some, Option.pure_def]
  rw [show stored data = data from hr]
  rfl

theorem cacheFile?_ofCacheEntries {entries : Named CacheRecord}
    (h : ∀ m ∈ entries, stored m.2.data = m.2.data) :
    cacheFile? (ofCacheEntries entries) = some entries := by
  have hentries : cacheEntries? (.record (entries.map fun m => (m.1, ofCacheRecord m.2))) =
      some entries := by
    rw [cacheEntries?, record?, Option.bind_eq_bind, Option.bind_some]
    induction entries with
    | nil => rfl
    | cons m entries ih =>
      obtain ⟨key, r⟩ := m
      have hr := cacheRecord?_ofCacheRecord (h (key, r) List.mem_cons_self)
      have hrest := ih fun m hm => h m (List.mem_cons_of_mem _ hm)
      simp only [List.map_cons, List.mapM_cons, hr, hrest]
      rfl
  have hmember : withDefault [("version", .int cacheVersion),
      ("entries", .record (entries.map fun m => (m.1, ofCacheRecord m.2)))] "entries" []
      cacheEntries? = some entries := hentries
  have hversion : withDefault [("version", .int cacheVersion),
      ("entries", .record (entries.map fun m => (m.1, ofCacheRecord m.2)))] "version"
      cacheVersion int? = some cacheVersion := rfl
  rw [cacheFile?, ofCacheEntries, record?, Option.bind_eq_bind, Option.bind_some, hversion,
    Option.bind_eq_bind, Option.bind_some, hmember]
  rfl

end Document

namespace Cache

open Json

/-! ## What the file can keep -/

/-- JSON data, under a key and with a type that are whole texts. -/
structure IsJsonEntry (key type : String) (data : Value) : Prop where
  key : IsUnhalved key
  type : IsUnhalved type
  json : IsJson data
  /-- No number is infinite or none. -/
  stored : Document.stored data = data

/-- What comes back from the file: data that is not nested too deeply, since three records of the
file lie around it. -/
structure IsKept (key type : String) (data : Value) : Prop extends IsJsonEntry key type data where
  nesting : nesting data + 3 ≤ maxDepth

theorem isJson_ofCacheEntries {entries : Named CacheRecord} (hnames : (entries.map (·.1)).Nodup)
    (h : ∀ m ∈ entries, IsJsonEntry m.1 m.2.type m.2.data) :
    IsJson (Document.ofCacheEntries entries) := by
  have hmembers : MembersAreJson (entries.map fun m => (m.1, Document.ofCacheRecord m.2)) := by
    clear hnames
    induction entries with
    | nil => trivial
    | cons m entries ih =>
      obtain ⟨key, r⟩ := m
      have hm := h (key, r) List.mem_cons_self
      have hdistinct : ["fetched_at", "type", "data"].Nodup := by decide
      refine ⟨hm.key, ⟨hdistinct, ?_⟩, ih fun m hm => h m (List.mem_cons_of_mem _ hm)⟩
      refine ⟨by decide, trivial, by decide, hm.type, by decide, ?_, trivial⟩
      rw [hm.stored]
      exact hm.json
  have hdistinct : ["version", "entries"].Nodup := by decide
  refine ⟨hdistinct, by decide, trivial, by decide, ⟨?_, hmembers⟩, trivial⟩
  rw [List.map_map]
  exact hnames

theorem nesting_ofCacheRecord (r : CacheRecord) :
    nesting (Document.ofCacheRecord r) = nesting (Document.stored r.data) + 1 := by
  show max (0 + 1) (max (0 + 1) (max (nesting (Document.stored r.data) + 1) 0)) = _
  omega

theorem nesting_ofCacheEntries {entries : Named CacheRecord}
    (h : ∀ m ∈ entries, IsKept m.1 m.2.type m.2.data) :
    nesting (Document.ofCacheEntries entries) ≤ maxDepth := by
  have hmax : maxDepth = 200 := rfl
  have hmembers :
      nestingMembers (entries.map fun m => (m.1, Document.ofCacheRecord m.2)) ≤ 199 := by
    induction entries with
    | nil => decide
    | cons m entries ih =>
      have hm := h m List.mem_cons_self
      have hdeep : nesting m.2.data + 3 ≤ 200 := hm.nesting
      have hrecord := nesting_ofCacheRecord m.2
      rw [hm.stored] at hrecord
      exact Nat.max_le.2 ⟨by omega, ih fun m hm => h m (List.mem_cons_of_mem _ hm)⟩
  exact Nat.max_le.2 ⟨by decide, Nat.max_le.2 ⟨Nat.succ_le_succ hmembers, by decide⟩⟩

theorem lt_nesting_ofCacheEntries {entries : Named CacheRecord} {m : String × CacheRecord}
    (hm : m ∈ entries) (hstored : Document.stored m.2.data = m.2.data) :
    nesting m.2.data + 3 ≤ nesting (Document.ofCacheEntries entries) := by
  have hmembers : nesting m.2.data + 2 ≤
      nestingMembers (entries.map fun m => (m.1, Document.ofCacheRecord m.2)) := by
    induction entries with
    | nil => exact absurd hm List.not_mem_nil
    | cons first entries ih =>
      rcases List.mem_cons.1 hm with rfl | hm
      · have hrecord := nesting_ofCacheRecord m.2
        rw [hstored] at hrecord
        exact Nat.le_trans (by omega) (Nat.le_max_left _ _)
      · exact Nat.le_trans (ih hm) (Nat.le_max_right _ _)
  exact Nat.le_trans (Nat.succ_le_succ hmembers)
    (Nat.le_trans (Nat.le_max_left _ _) (Nat.le_max_right _ _))

theorem writeFile_ok {file file' : CacheFile} {entries : Named CacheRecord}
    (h : writeFile file entries = .ok file') :
    file' = .text (writeLine (Document.ofCacheEntries entries)) ∧
      isStorable (Document.ofCacheEntries entries) = true := by
  unfold writeFile at h
  dsimp only at h
  split at h
  · exact absurd h nofun
  · exact absurd h nofun
  · exact absurd h nofun
  · next hstorable => exact ⟨(Except.ok.inj h).symm, hstorable⟩

theorem isStorable_ofCacheEntries {entries : Named CacheRecord}
    (h : ∀ m ∈ entries, isStorable (Document.stored m.2.data) = true) :
    isStorable (Document.ofCacheEntries entries) = true := by
  have hmembers : membersAreWritable isReadable
      (entries.map fun m => (m.1, Document.ofCacheRecord m.2)) = true := by
    induction entries with
    | nil => rfl
    | cons m entries ih =>
      have hrecord : isWritableWith isReadable (Document.ofCacheRecord m.2) =
        (isStorable (Document.stored m.2.data) && true) := rfl
      rw [List.map_cons, membersAreWritable, hrecord, h m List.mem_cons_self,
        ih fun m hm => h m (List.mem_cons_of_mem _ hm)]
      rfl
  have hversion : isReadable Document.cacheVersion = true := by decide
  rw [isStorable, Document.ofCacheEntries, isWritableWith, membersAreWritable, isWritableWith,
    hversion, membersAreWritable, isWritableWith, hmembers]
  rfl

theorem writeFile_of_isStorable {file : CacheFile} (hfile : ∀ o, file ≠ .blocked o)
    {entries : Named CacheRecord} (h : isStorable (Document.ofCacheEntries entries) = true) :
    writeFile file entries = .ok (.text (writeLine (Document.ofCacheEntries entries))) := by
  simp only [writeFile, h]

/-- The file that is written holds the entries. -/
theorem entriesOf?_of_writeFile {file file' : CacheFile} {entries : Named CacheRecord}
    (hwrite : writeFile file entries = .ok file') (hnames : (entries.map (·.1)).Nodup)
    (h : ∀ m ∈ entries, IsKept m.1 m.2.type m.2.data) : entriesOf? file' = some entries := by
  obtain ⟨rfl, hstorable⟩ := writeFile_ok hwrite
  have hjson := isJson_ofCacheEntries hnames fun m hm => (h m hm).toIsJsonEntry
  rw [entriesOf?, read?_writeLine_eq hjson hstorable, if_pos (nesting_ofCacheEntries h),
    Option.bind_some]
  exact Document.cacheFile?_ofCacheEntries fun m hm => (h m hm).stored

/-- One value that is nested too deeply makes the whole file unreadable. -/
theorem entriesOf?_of_writeFile_deep {file file' : CacheFile} {entries : Named CacheRecord}
    (hwrite : writeFile file entries = .ok file') (hnames : (entries.map (·.1)).Nodup)
    (h : ∀ m ∈ entries, IsJsonEntry m.1 m.2.type m.2.data) {m : String × CacheRecord}
    (hm : m ∈ entries) (hdeep : maxDepth < nesting m.2.data + 3) : entriesOf? file' = none := by
  obtain ⟨rfl, hstorable⟩ := writeFile_ok hwrite
  have hnesting := lt_nesting_ofCacheEntries hm (h m hm).stored
  rw [entriesOf?, read?_writeLine_eq (isJson_ofCacheEntries hnames h) hstorable,
    if_neg (by omega), Option.bind_none]

/-! ## Single operations -/

/-- What an entry answers: its value, if it is of the type that is asked for and fresh. -/
def answerOf (minutes : Int) (now : Binary64) (type : String) (r : Option CacheRecord) :
    Option Value :=
  (r.filter fun r => r.type = type && (now.sub r.fetchedAt).leInt (minutes * 60)).map (·.data)

/-- Where no more time has passed than the clock had shown, nothing is lost in telling whether an
entry is fresh. -/
theorem isFresh_iff (c : Cache) {now fetchedAt : Fin Binary64.finiteCount}
    (hle : Binary64.units fetchedAt ≤ Binary64.units now)
    (hnear : Binary64.units now ≤ 2 * Binary64.units fetchedAt) (type : String) (data : Value) :
    c.isFresh (.finite false now) ⟨.finite false fetchedAt, type, data⟩ = true ↔
      (Binary64.units now : Int) - Binary64.units fetchedAt ≤
        c.minutes * 60 * Binary64.unitsPerOne :=
  Binary64.leInt_sub_iff hle hnear _

theorem entries_some (minutes : Int) (entries : Named CacheRecord) (file : CacheFile) :
    Cache.entries ⟨minutes, some entries, file⟩ = entries := rfl

theorem not_isDisabled {c : Cache} (hpos : 0 < c.minutes) : c.isDisabled = false := by
  rw [isDisabled, decide_eq_false_iff_not]
  omega

/-- Asking gives what the entry of the key answers and reads the file, no more. -/
theorem exists_get?_eq {c : Cache} (hpos : 0 < c.minutes) (now : Binary64) (key type : String) :
    ∃ events, c.get? now key type =
      (answerOf c.minutes now type (c.entries.get? key), { c with loaded := some c.entries },
        events) := by
  have hfind : ({ c with loaded := some c.entries } : Cache).find? key type =
    (c.entries.get? key).filter (·.type = type) := rfl
  rw [get?, not_isDisabled hpos]
  simp only [Bool.false_eq_true, if_false, load, hfind, isFresh, seconds, answerOf]
  cases c.entries.get? key with
  | none => exact ⟨_, rfl⟩
  | some r =>
    by_cases htype : r.type = type
    · by_cases hfresh : (now.sub r.fetchedAt).leInt (c.minutes * 60) = true
      · simp [Option.filter, htype, hfresh]
      · simp [Option.filter, htype, hfresh]
    · simp [Option.filter, htype]

/-- A change that reaches the file. -/
theorem set_of_ok {c : Cache} (hpos : 0 < c.minutes) {now : Binary64} {key type : String}
    {data : Value} (h : (c.set now key type data).1 = none) :
    ∃ file, writeFile c.file (c.entries.set key ⟨now, type, data⟩) = .ok file ∧
      (c.set now key type data).2.1 =
        { c with loaded := some (c.entries.set key ⟨now, type, data⟩), file } := by
  rw [set, not_isDisabled hpos] at h ⊢
  simp only [Bool.false_eq_true, if_false, load, entries_some] at h ⊢
  cases hwrite : writeFile c.file (c.entries.set key ⟨now, type, data⟩) with
  | error e =>
    rw [hwrite] at h
    exact absurd h nofun
  | ok file => exact ⟨file, rfl, rfl⟩

theorem isStorable_set {entries : Named CacheRecord}
    (hentries : ∀ m ∈ entries, isStorable (Document.stored m.2.data) = true) {data : Value}
    (hdata : isStorable (Document.stored data) = true) (now : Binary64) (key type : String) :
    ∀ m ∈ entries.set key ⟨now, type, data⟩, isStorable (Document.stored m.2.data) = true := by
  intro m hm
  rcases Named.mem_of_mem_set hm with rfl | hmem
  · exact hdata
  · exact hentries m hmem

/-- A change that nothing stands in the way of. -/
theorem set_of_isStorable {c : Cache} (hpos : 0 < c.minutes) (hfile : ∀ o, c.file ≠ .blocked o)
    (hentries : ∀ m ∈ c.entries, isStorable (Document.stored m.2.data) = true) {data : Value}
    (hdata : isStorable (Document.stored data) = true) (now : Binary64) (key type : String) :
    c.set now key type data =
      (none, { c with
        loaded := some (c.entries.set key ⟨now, type, data⟩)
        file := .text (writeLine (Document.ofCacheEntries (c.entries.set key ⟨now, type, data⟩))) },
        c.load.2) := by
  have hwrite := writeFile_of_isStorable hfile
    (isStorable_ofCacheEntries (isStorable_set hentries hdata now key type))
  rw [set, not_isDisabled hpos]
  simp only [Bool.false_eq_true, if_false, load, entries_some, hwrite]

/-- A change that does not reach the file because there can be none. -/
theorem set_of_blocked {c : Cache} (hpos : 0 < c.minutes) {o : Folder.Obstacle}
    (hfile : c.file = .blocked o)
    (hentries : ∀ m ∈ c.entries, isStorable (Document.stored m.2.data) = true) {data : Value}
    (hdata : isStorable (Document.stored data) = true) (now : Binary64) (key type : String) :
    c.set now key type data =
      (some (.blocked o), { c with loaded := some (c.entries.set key ⟨now, type, data⟩) },
        c.load.2) := by
  have hstorable := isStorable_ofCacheEntries (isStorable_set hentries hdata now key type)
  have hwrite : writeFile (.blocked o) (c.entries.set key ⟨now, type, data⟩) =
      .error (.blocked o) := by
    simp only [writeFile, hstorable]
  rw [set, not_isDisabled hpos]
  simp only [Bool.false_eq_true, if_false, load, entries_some, hfile, hwrite]

/-! ## Courses of use -/

/-- A cache and what its clock shows. -/
structure Clocked where
  cache : Cache
  now : Binary64

/-- What may be done with a cache. -/
inductive Step where
  | get (key type : String)
  | set (key type : String) (data : Value)
  | advance (now : Binary64)
  /-- The cache is dropped and another one is made on its file. -/
  | reopen

namespace Clocked

def answer (s : Clocked) (key type : String) : Option Value := (s.cache.get? s.now key type).1

def step (s : Clocked) : Step → Clocked
  | .get key type => { s with cache := (s.cache.get? s.now key type).2.1 }
  | .set key type data => { s with cache := (s.cache.set s.now key type data).2.1 }
  | .advance now => { s with now }
  | .reopen => { s with cache := s.cache.reopen s.cache.minutes }

def fault? (s : Clocked) : Step → Option Fault
  | .set key type data => (s.cache.set s.now key type data).1
  | _ => none

def run (s : Clocked) (steps : List Step) : Clocked := steps.foldl step s

/-- All changes reach the file. -/
def Succeeds : Clocked → List Step → Prop
  | _, [] => True
  | s, step :: steps => s.fault? step = none ∧ (s.step step).Succeeds steps

end Clocked

/-- The last change under a key, and when it was made.  `r` is the last one before the steps, which
begin at `now`. -/
def lastSet (key : String) : Option CacheRecord → Binary64 → List Step → Option CacheRecord
  | r, _, [] => r
  | r, now, .set k type data :: steps =>
    lastSet key (if key = k then some ⟨now, type, data⟩ else r) now steps
  | r, _, .advance now :: steps => lastSet key r now steps
  | r, now, _ :: steps => lastSet key r now steps

/-- A cache answers by what was last put under each key, and its file knows as much. -/
structure Tracks (minutes : Int) (s : Clocked) (last : String → Option CacheRecord) : Prop where
  minutes : s.cache.minutes = minutes
  last : ∀ key, s.cache.entries.get? key = last key
  file : (entriesOf? s.cache.file).getD [] = s.cache.entries
  names : (s.cache.entries.map (·.1)).Nodup
  kept : ∀ m ∈ s.cache.entries, IsKept m.1 m.2.type m.2.data

theorem Tracks.get {minutes : Int} {s : Clocked} {last : String → Option CacheRecord}
    (hpos : 0 < minutes) (h : Tracks minutes s last) (key type : String) :
    Tracks minutes (s.step (.get key type)) last := by
  obtain ⟨events, heq⟩ := exists_get?_eq (h.minutes.symm ▸ hpos) s.now key type
  have hcache : (s.step (.get key type)).cache = { s.cache with loaded := some s.cache.entries } :=
    congrArg (·.2.1) heq
  constructor <;> rw [hcache]
  · exact h.minutes
  · exact h.last
  · exact h.file
  · exact h.names
  · exact h.kept

theorem Tracks.set {minutes : Int} {s : Clocked} {last : String → Option CacheRecord}
    (hpos : 0 < minutes) (h : Tracks minutes s last) {key type : String} {data : Value}
    (hkept : IsKept key type data) (hok : s.fault? (.set key type data) = none) :
    Tracks minutes (s.step (.set key type data))
      fun k => if k = key then some ⟨s.now, type, data⟩ else last k := by
  obtain ⟨file, hwrite, hcache⟩ := set_of_ok (h.minutes.symm ▸ hpos) hok
  have hstep : (s.step (.set key type data)).cache = _ := hcache
  have hnames := Named.nodup_set h.names key ⟨s.now, type, data⟩
  have hkepts : ∀ m ∈ s.cache.entries.set key ⟨s.now, type, data⟩,
      IsKept m.1 m.2.type m.2.data := by
    intro m hm
    rcases Named.mem_of_mem_set hm with rfl | hmem
    · exact hkept
    · exact h.kept m hmem
  constructor <;> rw [hstep]
  · exact h.minutes
  · intro k
    rw [entries_some, Named.get?_set, h.last]
  · rw [entriesOf?_of_writeFile hwrite hnames hkepts]
    rfl
  · exact hnames
  · exact hkepts

theorem Tracks.advance {minutes : Int} {s : Clocked} {last : String → Option CacheRecord}
    (h : Tracks minutes s last) (now : Binary64) : Tracks minutes (s.step (.advance now)) last :=
  ⟨h.minutes, h.last, h.file, h.names, h.kept⟩

/-- The new cache finds in the file what the old one knew. -/
theorem Tracks.reopen {minutes : Int} {s : Clocked} {last : String → Option CacheRecord}
    (h : Tracks minutes s last) : Tracks minutes (s.step .reopen) last := by
  have hentries : (s.step .reopen).cache.entries = s.cache.entries := h.file
  refine ⟨h.minutes, ?_, h.file.trans hentries.symm, ?_, ?_⟩
  · rw [hentries]
    exact h.last
  · rw [hentries]
    exact h.names
  · rw [hentries]
    exact h.kept

theorem Tracks.run {minutes : Int} {s : Clocked} {last : String → Option CacheRecord}
    (hpos : 0 < minutes) (h : Tracks minutes s last) {steps : List Step}
    (hkept : ∀ key type data, .set key type data ∈ steps → IsKept key type data)
    (hok : s.Succeeds steps) :
    Tracks minutes (s.run steps) fun key => lastSet key (last key) s.now steps := by
  induction steps generalizing s last with
  | nil => exact h
  | cons step steps ih =>
    have hrest := fun key type data hmem => hkept key type data (List.mem_cons_of_mem step hmem)
    cases step with
    | get key type => exact ih (h.get hpos key type) hrest hok.2
    | set key type data =>
      exact ih (h.set hpos (hkept key type data List.mem_cons_self) hok.1) hrest hok.2
    | advance now => exact ih (h.advance now) hrest hok.2
    | reopen => exact ih h.reopen hrest hok.2

/-! ## Asking changes nothing -/

/-- Whatever is done with two caches, they answer alike and leave the same file. -/
def Equivalent (s t : Clocked) : Prop :=
  ∀ later, (s.run later).cache.file = (t.run later).cache.file ∧
    ∀ key type, (s.run later).answer key type = (t.run later).answer key type

/-- Nothing tells two caches apart once their files are read. -/
structure Alike (s t : Clocked) : Prop where
  minutes : s.cache.minutes = t.cache.minutes
  file : s.cache.file = t.cache.file
  entries : s.cache.entries = t.cache.entries
  now : s.now = t.now

theorem Alike.load {s t : Clocked} (h : Alike s t) : s.cache.load.1 = t.cache.load.1 := by
  rw [Cache.load, Cache.load, h.minutes, h.file, h.entries]

theorem alike_of_load {s t : Clocked} (hload : s.cache.load.1 = t.cache.load.1)
    (hnow : s.now = t.now) : Alike s t := by
  have hminutes : s.cache.load.1.minutes = t.cache.load.1.minutes := by rw [hload]
  have hfile : s.cache.load.1.file = t.cache.load.1.file := by rw [hload]
  have hentries : s.cache.load.1.entries = t.cache.load.1.entries := by rw [hload]
  exact ⟨hminutes, hfile, hentries, hnow⟩

theorem set_load (c : Cache) (now : Binary64) (key type : String) (data : Value) :
    (c.load.1.set now key type data).2.1.load.1 = (c.set now key type data).2.1.load.1 := by
  have hsame : c.load.1.isDisabled = c.isDisabled := rfl
  have hload : c.load.1.load.1 = c.load.1 := rfl
  rw [set, set, hsame]
  split
  · exact hload
  · simp only [hload]
    split <;> rfl

theorem get?_load {c : Cache} (hpos : 0 < c.minutes) (now : Binary64) (key type : String) :
    (c.get? now key type).2.1.load.1 = c.load.1 := by
  obtain ⟨events, heq⟩ := exists_get?_eq hpos now key type
  rw [heq]
  rfl

theorem Alike.step {s t : Clocked} (hpos : 0 < s.cache.minutes) (h : Alike s t) (step : Step) :
    Alike (s.step step) (t.step step) := by
  cases step with
  | get key type =>
    refine alike_of_load ?_ h.now
    show (s.cache.get? s.now key type).2.1.load.1 = (t.cache.get? t.now key type).2.1.load.1
    rw [get?_load hpos, get?_load (h.minutes ▸ hpos), h.load]
  | set key type data =>
    refine alike_of_load ?_ h.now
    show (s.cache.set s.now key type data).2.1.load.1 = (t.cache.set t.now key type data).2.1.load.1
    rw [← set_load, ← set_load t.cache, h.load, h.now]
  | advance now => exact ⟨h.minutes, h.file, h.entries, rfl⟩
  | reopen =>
    have hcache : s.cache.reopen s.cache.minutes = t.cache.reopen t.cache.minutes := by
      rw [reopen, reopen, h.minutes, h.file]
    exact alike_of_load (congrArg (·.load.1) hcache) h.now

theorem minutes_step {s : Clocked} (hpos : 0 < s.cache.minutes) (step : Step) :
    (s.step step).cache.minutes = s.cache.minutes := by
  cases step with
  | get key type =>
    obtain ⟨events, heq⟩ := exists_get?_eq hpos s.now key type
    exact congrArg (·.2.1.minutes) heq
  | set key type data =>
    show (s.cache.set s.now key type data).2.1.minutes = s.cache.minutes
    rw [set, not_isDisabled hpos, if_neg Bool.false_ne_true]
    dsimp only
    split <;> rfl
  | advance now => rfl
  | reopen => rfl

theorem Alike.answer {s t : Clocked} (hpos : 0 < s.cache.minutes) (h : Alike s t)
    (key type : String) : s.answer key type = t.answer key type := by
  obtain ⟨events, hs⟩ := exists_get?_eq hpos s.now key type
  obtain ⟨events', ht⟩ := exists_get?_eq (h.minutes ▸ hpos) t.now key type
  rw [Clocked.answer, Clocked.answer, hs, ht, h.minutes, h.entries, h.now]

theorem Alike.equivalent {s t : Clocked} (hpos : 0 < s.cache.minutes) (h : Alike s t) :
    Equivalent s t := by
  intro later
  induction later generalizing s t with
  | nil => exact ⟨h.file, h.answer hpos⟩
  | cons step later ih =>
    have hstep := minutes_step hpos step
    exact ih (hstep.symm ▸ hpos) (h.step hpos step)

/-! ## The answers of a course of use -/

/-- Over any course of use that begins with a file in which nothing can be found, and in which all
changes reach the file, a cache answers by the last change under each key; asking leaves the file
as it is and changes no later answer; and a cache that is made on the file does as this one. -/
theorem answers_lastSet {minutes : Int} (hpos : 0 < minutes) {file : CacheFile}
    (hcold : (entriesOf? file).getD [] = []) (now : Binary64) (steps : List Step)
    (hkept : ∀ key type data, .set key type data ∈ steps → IsKept key type data)
    (hok : Clocked.Succeeds ⟨open' minutes file, now⟩ steps) {s : Clocked}
    (hs : s = Clocked.run ⟨open' minutes file, now⟩ steps) :
    (∀ key type, s.answer key type = answerOf minutes s.now type (lastSet key none now steps)) ∧
      (∀ key type, Equivalent (s.step (.get key type)) s) ∧
      Equivalent ⟨open' minutes s.cache.file, s.now⟩ s := by
  have hstart : Tracks minutes ⟨open' minutes file, now⟩ fun _ => none := by
    have hentries : (open' minutes file).entries = [] := hcold
    refine ⟨rfl, ?_, rfl, ?_, ?_⟩
    · intro key
      rw [hentries]
      rfl
    · rw [hentries]
      exact List.nodup_nil
    · rw [hentries]
      exact fun m hm => absurd hm List.not_mem_nil
  have htracks := hstart.run hpos hkept hok
  rw [← hs] at htracks
  have hminutes : 0 < s.cache.minutes := htracks.minutes.symm ▸ hpos
  refine ⟨fun key type => ?_, fun key type => ?_, ?_⟩
  · obtain ⟨events, heq⟩ := exists_get?_eq hminutes s.now key type
    rw [Clocked.answer, heq, htracks.minutes, htracks.last]
  · have hstep := minutes_step hminutes (.get key type)
    have halike : Alike (s.step (.get key type)) s :=
      alike_of_load (get?_load hminutes s.now key type) rfl
    exact halike.equivalent (hstep.symm ▸ hminutes)
  · have hentries : (open' minutes s.cache.file).entries = s.cache.entries := htracks.file
    exact Alike.equivalent hpos ⟨htracks.minutes.symm, rfl, hentries, rfl⟩

/-- Ten minutes to the second after a change, in a cache that was made anew meanwhile. -/
theorem answers_lastSet_reopened :
    let start : Clocked := ⟨open' 10 .missing, .ofRatio false 1000000 1⟩
    let steps : List Step := [.set "k" "describeObject" (.record [("a", .int 1)]), .reopen,
      .advance (.ofRatio false 1000600 1)]
    start.Succeeds steps ∧
      (start.run steps).answer "k" "describeObject" = some (.record [("a", .int 1)]) ∧
      (start.run steps).answer "k" "describeGlobal" = none := by
  intro start steps
  have hok : start.Succeeds steps := ⟨rfl, rfl, rfl, trivial⟩
  have hkept : ∀ key type data, .set key type data ∈ steps → IsKept key type data := by
    intro key type data hmem
    rcases List.mem_cons.1 hmem with hset | hmem
    · cases hset
      exact ⟨⟨by decide, by decide, ⟨by decide, by decide, trivial, trivial⟩, rfl⟩, by decide⟩
    · exact absurd hmem (by simp)
  have hcold : (entriesOf? .missing).getD [] = [] := rfl
  have hanswer := (answers_lastSet (by decide) hcold (.ofRatio false 1000000 1) steps hkept hok
    rfl).1
  have hfresh : ((Binary64.ofRatio false 1000600 1).sub (.ofRatio false 1000000 1)).leInt 600 =
      true := by decide +kernel
  have hlast : lastSet "k" none (.ofRatio false 1000000 1) steps =
      some ⟨.ofRatio false 1000000 1, "describeObject", .record [("a", .int 1)]⟩ := by
    simp [steps, lastSet]
  have hnow : (start.run steps).now = .ofRatio false 1000600 1 := by
    simp only [steps, Clocked.run, List.foldl_cons, List.foldl_nil, Clocked.step]
  refine ⟨hok, ?_, ?_⟩
  · rw [hanswer, hlast, hnow]
    simp [answerOf, Option.filter, hfresh]
  · rw [hanswer, hlast]
    simp [answerOf, Option.filter]

/-! ## Data that is nested too deeply -/

/-- Lists in one another. -/
def nested : Nat → Value
  | 0 => .list []
  | n + 1 => .list [nested n]

theorem isJsonEntry_nested (n : Nat) : IsJsonEntry "k" "t" (nested n) := by
  refine ⟨by decide, by decide, ?_, ?_⟩
  · induction n with
    | zero => trivial
    | succ n ih => exact ⟨ih, trivial⟩
  · induction n with
    | zero => rfl
    | succ n ih => rw [nested, Document.stored, Document.storedAll, Document.storedAll, ih]

theorem nesting_nested (n : Nat) : nesting (nested n) = n := by
  induction n with
  | zero => rfl
  | succ n ih =>
    show max (nesting (nested n) + 1) 0 = n + 1
    rw [ih]
    exact Nat.max_eq_left (Nat.zero_le _)

theorem isWritable_nested (n : Nat) (fits : Int → Bool) :
    isWritableWith fits (nested n) = true := by
  induction n with
  | zero => rfl
  | succ n ih => rw [nested, isWritableWith, areWritable, areWritable, ih, Bool.and_self]

/-- The first change in a cache, if its data is nested too deeply: the cache answers by it until it
is made anew. -/
theorem answers_nested {n : Nat} (hdeep : maxDepth < n + 3) {minutes : Int} (hpos : 0 < minutes)
    {now : Binary64} (hfresh : (now.sub now).leInt (minutes * 60) = true) :
    let start : Clocked := ⟨open' minutes .missing, now⟩
    start.fault? (.set "k" "t" (nested n)) = none ∧
      (start.run [.set "k" "t" (nested n)]).answer "k" "t" = some (nested n) ∧
      (start.run [.set "k" "t" (nested n), .reopen]).answer "k" "t" = none := by
  intro start
  have hjson := isJsonEntry_nested n
  have hstorable : isStorable (Document.stored (nested n)) = true := by
    rw [hjson.stored]
    exact isWritable_nested n isReadable
  have hset := set_of_isStorable (c := start.cache) hpos (fun _ => nofun)
    (fun m hm => absurd hm List.not_mem_nil) hstorable now "k" "t"
  obtain ⟨file, hwrite, hcache⟩ := set_of_ok (c := start.cache) hpos (congrArg (·.1) hset)
  have hone : ∀ m ∈ start.cache.entries.set "k" ⟨now, "t", nested n⟩,
      m = ("k", ⟨now, "t", nested n⟩) := fun m hm => List.mem_singleton.1 hm
  refine ⟨congrArg (·.1) hset, ?_, ?_⟩
  · obtain ⟨events, hget⟩ := exists_get?_eq (c := (start.cache.set now "k" "t" (nested n)).2.1)
      (by rw [hcache]; exact hpos) now "k" "t"
    show ((start.cache.set now "k" "t" (nested n)).2.1.get? now "k" "t").1 = _
    rw [hget, hcache, entries_some, Named.get?_set, if_pos rfl]
    simp [answerOf, Option.filter, hfresh, start, open']
  · have hunreadable : entriesOf? file = none := by
      refine entriesOf?_of_writeFile_deep hwrite (List.pairwise_singleton _ "k") ?_
        (List.mem_singleton.2 rfl) ?_
      · intro m hm
        rw [hone m hm]
        exact hjson
      · rwa [nesting_nested]
    obtain ⟨events, hget⟩ := exists_get?_eq (c := open' minutes file) hpos now "k" "t"
    show (((start.cache.set now "k" "t" (nested n)).2.1.reopen
      (start.cache.set now "k" "t" (nested n)).2.1.minutes).get? now "k" "t").1 = none
    rw [hcache]
    show ((open' minutes file).get? now "k" "t").1 = none
    rw [hget, entries, open', hunreadable]
    rfl

/-- Two hundred and one lists in one another are answered, but not by a cache that is made anew. -/
theorem answers_nested_forgotten :
    let start : Clocked := ⟨open' 10 .missing, .ofRatio false 1000000 1⟩
    let steps : List Step := [.set "k" "t" (nested 200), .reopen]
    start.Succeeds steps ∧ IsJsonEntry "k" "t" (nested 200) ∧
      (start.run steps).answer "k" "t" = none ∧
      answerOf 10 (start.run steps).now "t" (lastSet "k" none start.now steps) =
        some (nested 200) := by
  intro start steps
  have hfresh : ((Binary64.ofRatio false 1000000 1).sub (.ofRatio false 1000000 1)).leInt 600 =
      true := by decide +kernel
  obtain ⟨hok, -, hforgotten⟩ := answers_nested (n := 200) (by decide) (show 0 < 10 by decide)
    hfresh
  refine ⟨⟨hok, rfl, trivial⟩, isJsonEntry_nested 200, hforgotten, ?_⟩
  have hlast : lastSet "k" none start.now steps =
      some ⟨.ofRatio false 1000000 1, "t", nested 200⟩ := by
    simp [start, steps, lastSet]
  have hnow : (start.run steps).now = .ofRatio false 1000000 1 := by
    simp only [start, steps, Clocked.run, List.foldl_cons, List.foldl_nil, Clocked.step]
  rw [hlast, hnow]
  simp [answerOf, Option.filter, hfresh]

end Cache
end CrossCheck
