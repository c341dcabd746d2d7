import CrossCheck.Proofs.Discovery.Sharing

/-!
What a cache costs whose file is no good.  A file that cannot be read, or that is of another
version, is as good as none: the sources are asked, and their answers are given and kept.  Only two
things stand in the way of an answer.  One is an entry in the file that passes for a schema and is
none, while it is fresh.  The other is a place where there can be no file, for then an answer is
lost when it is to be kept.
-/

namespace CrossCheck
namespace Discovery

variable {σ ε : Type}

/-- Under the key the file holds something that passes for a schema and is none. -/
def IsDamaged (file : CacheFile) (key : String) : Prop :=
  ∃ r, Named.get? ((Cache.entriesOf? file).getD []) key = some r ∧ r.type = recordType ∧
    r.data ≠ .null ∧ Document.schema? r.data = none

namespace Shared

/-! ## What is left of the file -/

/-- What there was in the place of the file still shows in the cache. -/
structure Keeps (minutes : Int) (file : CacheFile) (s : Shared σ ε) : Prop where
  minutes : s.cache.minutes = minutes
  blocked : ∀ o, s.cache.file = .blocked o ↔ file = .blocked o
  storable : ∀ m ∈ s.cache.entries, Json.isStorable (Document.stored m.2.data) = true
  /-- What is not a schema was in the file. -/
  entries : ∀ key r, s.cache.entries.get? key = some r →
    (∃ schema, r.data = Document.ofSchema schema) ∨
      Named.get? ((Cache.entriesOf? file).getD []) key = some r

theorem keeps_open (minutes : Int) (file : CacheFile) (now : Binary64) (state : σ) :
    Keeps minutes file (⟨.open' minutes file, now, [], state⟩ : Shared σ ε) :=
  ⟨rfl, fun _ => Iff.rfl, Cache.isStorable_entriesOf? file, fun _ _ => .inr⟩

variable {minutes : Int} {file : CacheFile} {s : Shared σ ε}

theorem Keeps.describe (h : Keeps minutes file s) (source : SchemaSource σ ε) (object : String) :
    Keeps minutes file (s.step (.describe source object)) := by
  have hcache := cache_describe s source object
  generalize s.step (.describe source object) = later at hcache ⊢
  refine ⟨?_, fun o => ?_, ?_, fun key r hr => ?_⟩
  · rw [hcache, minutes_ask]
    exact h.minutes
  · rw [hcache, blocked_ask]
    exact h.blocked o
  · rw [hcache]
    rcases s.entries_ask source object with hsame | ⟨environmentId, schema, -, -, hset⟩
    · rw [hsame]
      exact h.storable
    · rw [hset]
      exact Cache.isStorable_set h.storable (Document.isStorable_ofSchema schema) _ _ _
  · rw [hcache] at hr
    rcases s.entries_ask source object with hsame | ⟨environmentId, schema, -, -, hset⟩
    · rw [hsame] at hr
      exact h.entries key r hr
    · rw [hset, Named.get?_set] at hr
      split at hr
      · cases hr
        exact .inl ⟨schema, rfl⟩
      · exact h.entries key r hr

theorem Keeps.run (h : Keeps minutes file s) (steps : List (Step σ ε)) :
    Keeps minutes file (s.run steps) := by
  induction steps generalizing s with
  | nil => exact h
  | cons step steps ih =>
    rw [run_cons]
    cases step with
    | describe source object => exact ih (h.describe source object)
    | advance now => exact ih (s := { s with now }) ⟨h.minutes, h.blocked, h.storable, h.entries⟩

variable {source : SchemaSource σ ε} {object environmentId : String}

/-- A fresh entry that is no schema was in the file. -/
theorem Keeps.isDamaged (h : Keeps minutes file s) {v : Value}
    (hanswer : s.answer? source object environmentId = some v) (hv : v ≠ .null)
    (hschema : Document.schema? v = none) :
    IsDamaged file (keyIn source object environmentId) := by
  rw [answer?, Cache.answer?] at hanswer
  split at hanswer
  · cases hanswer
  obtain ⟨r, hr, rfl⟩ := Option.map_eq_some_iff.1 hanswer
  obtain ⟨hentry, hfits⟩ := Option.filter_eq_some_iff.1 hr
  rw [Bool.and_eq_true, decide_eq_true_eq] at hfits
  rcases h.entries _ r hentry with ⟨schema, hdata⟩ | hfile
  · rw [hdata, Document.schema?_ofSchema] at hschema
    cases hschema
  · exact ⟨r, hfile, hfits.1, hv, hschema⟩

theorem Keeps.keep (h : Keeps minutes file s) (hpos : 0 < minutes) (source : SchemaSource σ ε)
    (object environmentId : String) (schema : ObjectSchema) :
    (∀ o, file = .blocked o → (s.keep source object environmentId schema).1 = some (.blocked o)) ∧
      ((∀ o, file ≠ .blocked o) → (s.keep source object environmentId schema).1 = none) := by
  have hlooked : 0 < (s.looked source object environmentId).minutes := by
    rw [minutes_looked, h.minutes]
    exact hpos
  have hentries : ∀ m ∈ (s.looked source object environmentId).entries,
      Json.isStorable (Document.stored m.2.data) = true := by
    rw [entries_looked]
    exact h.storable
  have hdata := Document.isStorable_ofSchema schema
  constructor
  · intro o ho
    have hfile : (s.looked source object environmentId).file = .blocked o := by
      rw [file_looked]
      exact (h.blocked o).2 ho
    rw [Shared.keep, Cache.set_of_blocked hlooked hfile hentries hdata]
  · intro hopen
    have hfile : ∀ o, (s.looked source object environmentId).file ≠ .blocked o := by
      intro o ho
      rw [file_looked] at ho
      exact hopen o ((h.blocked o).1 ho)
    rw [Shared.keep, Cache.set_of_isStorable hlooked hfile hentries hdata]

end Shared

/-! ## How calls end -/

/-- How a call for an object ends, and the questions that it leads to, over a file that was there
before. -/
inductive Ends (file : CacheFile) (s : Shared σ ε) (source : SchemaSource σ ε) (object : String) :
    Except (Error ε) ObjectSchema → List (Call ε) → Prop where
  | unidentified (hid : source.environmentId = none) :
    Ends file s source object (.error .unidentified) []
  /-- A fresh schema is given out. -/
  | held (environmentId : String) (v : Value) (schema : ObjectSchema)
    (hid : source.environmentId = some environmentId)
    (hanswer : s.answer? source object environmentId = some v)
    (hschema : Document.schema? v = some schema) :
    Ends file s source object (.ok schema) []
  /-- What is fresh is no schema, and was in the file. -/
  | damaged (environmentId : String) (v : Value) (hid : source.environmentId = some environmentId)
    (hanswer : s.answer? source object environmentId = some v) (hv : v ≠ .null)
    (hschema : Document.schema? v = none)
    (hdamaged : IsDamaged file (keyIn source object environmentId)) :
    Ends file s source object (.error .invalidSchema) []
  /-- The source fails. -/
  | failed (environmentId : String) (e : ε) (t : σ)
    (hid : source.environmentId = some environmentId)
    (hanswer : ∀ v, s.answer? source object environmentId = some v → v = .null)
    (hfailed : source.describe (Text.strip object) s.state = (.error e, t)) :
    Ends file s source object (.error (.source e)) [⟨s.now, Text.strip object, .error e⟩]
  /-- The source answers. -/
  | answered (environmentId : String) (schema : ObjectSchema) (t : σ)
    (hid : source.environmentId = some environmentId)
    (hanswer : ∀ v, s.answer? source object environmentId = some v → v = .null)
    (hanswered : source.describe (Text.strip object) s.state = (.ok schema, t))
    (hfile : ∀ o, file ≠ .blocked o) :
    Ends file s source object (.ok schema) [⟨s.now, Text.strip object, .ok schema⟩]
  /-- The source answers, and there can be no file. -/
  | unkept (environmentId : String) (schema : ObjectSchema) (t : σ) (o : Folder.Obstacle)
    (hid : source.environmentId = some environmentId)
    (hanswer : ∀ v, s.answer? source object environmentId = some v → v = .null)
    (hanswered : source.describe (Text.strip object) s.state = (.ok schema, t))
    (hfile : file = .blocked o) :
    Ends file s source object (.error (.cache (.blocked o)))
      [⟨s.now, Text.strip object, .ok schema⟩]

theorem Shared.Keeps.ends {minutes : Int} {file : CacheFile} {s : Shared σ ε}
    (h : Keeps minutes file s) (hpos : 0 < minutes) (source : SchemaSource σ ε) {object : String}
    (hname : Text.strip object ≠ "") :
    Ends file s source object (s.ask source object).result (s.ask source object).state.1 := by
  have hcomes := s.comes_ask source object
  generalize s.ask source object = o at hcomes
  cases hcomes with
  | blank hblank => exact absurd hblank hname
  | unidentified _ hid => exact .unidentified hid
  | held environmentId v events _ hid hanswer hv =>
    dsimp only [ofHeld]
    split
    · next schema hschema => exact .held environmentId v schema hid hanswer hschema
    · next hschema =>
      exact .damaged environmentId v hid hanswer hv hschema (h.isDamaged hanswer hv hschema)
  | failed environmentId e t events _ hid hanswer hfailed =>
    exact .failed environmentId e t hid hanswer hfailed
  | answered environmentId schema t events _ hid hanswer hanswered =>
    obtain ⟨hblocked, hopen⟩ := h.keep hpos source object environmentId schema
    dsimp only
    by_cases hfile : ∃ o, file = .blocked o
    · obtain ⟨o, hfile⟩ := hfile
      rw [hblocked o hfile]
      exact .unkept environmentId schema t o hid hanswer hanswered hfile
    · have hfile : ∀ o, file ≠ .blocked o := fun o ho => hfile ⟨o, ho⟩
      rw [hopen hfile]
      exact .answered environmentId schema t hid hanswer hanswered hfile

/-- Nothing but the source decides how a call ends: it is given what is fresh, or else exactly what
the source answers. -/
inductive Recovers (s : Shared σ ε) (source : SchemaSource σ ε) (object environmentId : String) :
    Prop where
  | held (v : Value) (schema : ObjectSchema)
    (hanswer : s.answer? source object environmentId = some v)
    (hschema : Document.schema? v = some schema) (hserves : s.Serves source object schema)
  | asked (answer : Except ε ObjectSchema) (t : σ)
    (hanswer : source.describe (Text.strip object) s.state = (answer, t))
    (hresult : (s.ask source object).result = answer.mapError .source)
    (hcalls : (s.ask source object).state.1 = [⟨s.now, Text.strip object, answer⟩])

theorem Ends.recovers {file : CacheFile} {s : Shared σ ε} {source : SchemaSource σ ε}
    {object environmentId : String}
    (h : Ends file s source object (s.ask source object).result (s.ask source object).state.1)
    (hid : source.environmentId = some environmentId) (hfile : ∀ o, file ≠ .blocked o)
    (hsound : ¬ IsDamaged file (keyIn source object environmentId)) :
    Recovers s source object environmentId := by
  generalize hresult : (s.ask source object).result = result at h
  generalize hcalls : (s.ask source object).state.1 = calls at h
  cases h with
  | unidentified hnone => exact absurd (hid.symm.trans hnone) nofun
  | held environmentId' v schema hid' hanswer hschema =>
    cases hid.symm.trans hid'
    exact .held v schema hanswer hschema ⟨hresult, hcalls⟩
  | damaged environmentId' v hid' hanswer hv hschema hdamaged =>
    cases hid.symm.trans hid'
    exact absurd hdamaged hsound
  | failed environmentId' e t _ _ hfailed => exact .asked (.error e) t hfailed hresult hcalls
  | answered environmentId' schema t _ _ hanswered =>
    exact .asked (.ok schema) t hanswered hresult hcalls
  | unkept environmentId' schema t o _ _ _ hblocked => exact absurd hblocked (hfile o)

/-- Over any course of calls that began with anything in the place of the file, a call comes to
nothing but what the cache holds or the source answers, except that an entry which is no schema
ends it, and that an answer is lost where there can be no file. -/
theorem describe_recovers {minutes : Int} (hpos : 0 < minutes) (file : CacheFile) (now : Binary64)
    (state : σ) {steps : List (Shared.Step σ ε)} {s : Shared σ ε}
    (hs : s = Shared.run ⟨.open' minutes file, now, [], state⟩ steps) (source : SchemaSource σ ε)
    {object : String} (hname : Text.strip object ≠ "") :
    Ends file s source object (s.ask source object).result (s.ask source object).state.1 ∧
      ∀ environmentId, source.environmentId = some environmentId → (∀ o, file ≠ .blocked o) →
        ¬ IsDamaged file (keyIn source object environmentId) →
          Recovers s source object environmentId := by
  have hkeeps := (Shared.keeps_open minutes file now state).run (ε := ε) steps
  rw [← hs] at hkeeps
  have hends := hkeeps.ends hpos source hname
  exact ⟨hends, fun _ hid hfile hsound => hends.recovers hid hfile hsound⟩

/-- A source is asked although there is no telling what the file was. -/
theorem describe_recovers_garbled :
    let start : Shared Unit String := ⟨.open' 10 (.text "\x7bnot json"), .zero false, [], ()⟩
    let deal := speaking "crm" "58" "Deal"
    (start.ask deal " Deal ").result = .ok ⟨"Deal", none, []⟩ := by
  intro start deal
  have hunreadable : (Cache.entriesOf? (.text "\x7bnot json")).isNone = true := by decide +kernel
  have hempty : (Cache.entriesOf? (.text "\x7bnot json")).getD [] = [] := by
    rw [Option.isNone_iff_eq_none.1 hunreadable, Option.getD_none]
  have hname : Text.strip " Deal " ≠ "" := by decide +kernel
  obtain ⟨-, hrecovers⟩ := describe_recovers (by decide) (.text "\x7bnot json") (.zero false) ()
    (show start = Shared.run start [] from rfl) deal hname
  have hsound : ¬ IsDamaged (.text "\x7bnot json") (keyIn deal " Deal " "crm") := by
    rintro ⟨r, hr, -⟩
    rw [hempty] at hr
    exact absurd hr nofun
  cases hrecovers "crm" rfl nofun hsound with
  | held v schema hanswer =>
    have hnone : start.answer? deal " Deal " "crm" = none := Cache.answer?_of_nil _ _ _ hempty
    exact absurd (hnone.symm.trans hanswer) nofun
  | asked answer t hanswer hresult =>
    cases hanswer
    exact hresult

/-- A fresh entry that is no schema ends a call for which the source has an answer, and so does a
directory in the place of the file. -/
theorem describe_fails :
    let entry := "\x7b\"entries\": \x7b\"crm:58:sobject:deal\": \x7b\"fetched_at\": 0, " ++
      "\"type\": \"describeObject\", \"data\": 5\x7d\x7d\x7d"
    let damaged : Shared Unit String := ⟨.open' 10 (.text entry), .zero false, [], ()⟩
    let blocked : Shared Unit String := ⟨.open' 10 (.blocked .directory), .zero false, [], ()⟩
    let deal := speaking "crm" "58" "Deal"
    (damaged.ask deal "Deal").result = .error .invalidSchema ∧
      (blocked.ask deal "Deal").result = .error (.cache (.blocked .directory)) ∧
      (deal.describe "Deal" ()).1 = .ok ⟨"Deal", none, []⟩ := by
  decide +kernel

end Discovery
end CrossCheck
