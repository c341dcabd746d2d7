import CrossCheck.Proofs.Cache.Operations
import CrossCheck.Proofs.Discovery

/-!
Descriptions by any number of sources that share a cache.  A course of calls keeps what each source
was asked and what it answered, with the environment and the version that the source spoke for at
the time.
-/

namespace CrossCheck
namespace Discovery

variable {σ ε : Type}

/-- A source of one environment that answers everything with an object of one name. -/
def speaking (environmentId schemaVersion object : String) : SchemaSource Unit String :=
  ⟨some environmentId, schemaVersion, fun _ s => (.ok ⟨object, none, []⟩, s)⟩

/-- A question to one of the sources, and what came of it. -/
structure Exchange (ε : Type) where
  environmentId : Option String
  schemaVersion : String
  call : Call ε

/-- What sources of different environments have come to.  `σ` is what all of them remember. -/
structure Shared (σ ε : Type) where
  cache : Cache
  now : Binary64
  /-- The last one first. -/
  exchanges : List (Exchange ε)
  state : σ

namespace Shared

/-- A source may speak for another environment or version in every call. -/
inductive Step (σ ε : Type) where
  | describe (source : SchemaSource σ ε) (object : String)
  | advance (now : Binary64)

/-- A call, and the questions that it led to. -/
def ask (s : Shared σ ε) (source : SchemaSource σ ε) (object : String) :
    Outcome (List (Call ε) × σ) ε :=
  describe (recorded source s.now) s.cache s.now object ([], s.state)

def step (s : Shared σ ε) : Step σ ε → Shared σ ε
  | .describe source object =>
    let o := s.ask source object
    { s with
      cache := o.cache
      exchanges := o.state.1.map (⟨source.environmentId, source.schemaVersion, ·⟩) ++ s.exchanges
      state := o.state.2 }
  | .advance now => { s with now }

def run (s : Shared σ ε) (steps : List (Step σ ε)) : Shared σ ε := steps.foldl step s

theorem cache_describe (s : Shared σ ε) (source : SchemaSource σ ε) (object : String) :
    (s.step (.describe source object)).cache = (s.ask source object).cache := rfl

theorem exchanges_describe (s : Shared σ ε) (source : SchemaSource σ ε) (object : String) :
    (s.step (.describe source object)).exchanges =
      (s.ask source object).state.1.map (⟨source.environmentId, source.schemaVersion, ·⟩) ++
        s.exchanges := rfl

theorem run_cons (s : Shared σ ε) (step : Step σ ε) (steps : List (Step σ ε)) :
    s.run (step :: steps) = (s.step step).run steps := rfl

/-- The schema is given without a question to the source. -/
def Serves (s : Shared σ ε) (source : SchemaSource σ ε) (object : String)
    (schema : ObjectSchema) : Prop :=
  (s.ask source object).result = .ok schema ∧ (s.ask source object).state.1 = []

end Shared

/-- The key of an object in the cache. -/
def keyIn (source : SchemaSource σ ε) (object environmentId : String) : String :=
  cacheKey environmentId source.schemaVersion (Text.strip object)

theorem held_or_not (answer : Option Value) :
    (∃ v, answer = some v ∧ v ≠ .null) ∨ ∀ v, answer = some v → v = .null := by
  cases answer with
  | none => exact .inr nofun
  | some v =>
    by_cases hv : v = .null
    · exact .inr fun w hw => Option.some.inj hw ▸ hv
    · exact .inl ⟨v, rfl, hv⟩

/-- How a call ends for which the cache holds something. -/
def ofHeld (v : Value) : Except (Error ε) ObjectSchema :=
  match Document.schema? v with
  | some schema => .ok schema
  | none => .error .invalidSchema

/-- How a call ends for which the source has an answer, unless the answer cannot be kept. -/
def ofFault (schema : ObjectSchema) : Option Cache.Fault → Except (Error ε) ObjectSchema
  | none => .ok schema
  | some e => .error (.cache e)

section

variable {source : SchemaSource σ ε} {object environmentId : String} {c : Cache} {now : Binary64}

theorem describe_of_held (hname : Text.strip object ≠ "")
    (hid : source.environmentId = some environmentId) {v : Value}
    (hanswer : c.answer? now (keyIn source object environmentId) recordType = some v)
    (hv : v ≠ .null) (s : σ) :
    describe source c now object s =
      let got := c.get? now (keyIn source object environmentId) recordType
      ⟨ofHeld v, got.2.1, s, got.2.2⟩ := by
  rw [← Cache.get?_fst, keyIn] at hanswer
  cases hschema : Document.schema? v <;>
    simp only [describe, hid, hanswer, hschema, ofHeld, keyIn]

theorem describe_of_not_held (hname : Text.strip object ≠ "")
    (hid : source.environmentId = some environmentId)
    (hanswer : ∀ v, c.answer? now (keyIn source object environmentId) recordType = some v →
      v = .null) (s : σ) :
    describe source c now object s =
      let got := c.get? now (keyIn source object environmentId) recordType
      let fetched := fetch source environmentId got.2.1 now (keyIn source object environmentId)
        (Text.strip object) s
      { fetched with events := got.2.2 ++ fetched.events } := by
  rw [← Cache.get?_fst, keyIn] at hanswer
  cases hfound : (c.get? now (cacheKey environmentId source.schemaVersion (Text.strip object))
      recordType).1 with
  | none => simp only [describe, hid, hfound, keyIn]
  | some v =>
    obtain rfl := hanswer v hfound
    simp only [describe, hid, hfound, keyIn]

end

namespace Shared

variable (s : Shared σ ε) (source : SchemaSource σ ε) (object : String)

/-- The cache after it was asked for the object. -/
def looked (environmentId : String) : Cache :=
  (s.cache.get? s.now (keyIn source object environmentId) recordType).2.1

/-- What the cache answers for the object. -/
def answer? (environmentId : String) : Option Value :=
  s.cache.answer? s.now (keyIn source object environmentId) recordType

/-- Keeping an answer for the object. -/
def keep (environmentId : String) (schema : ObjectSchema) :
    Option Cache.Fault × Cache × List Event :=
  (s.looked source object environmentId).set s.now (keyIn source object environmentId) recordType
    (Document.ofSchema schema)

/-- All that a call can come to. -/
inductive Comes : Outcome (List (Call ε) × σ) ε → Prop where
  | blank (hname : Text.strip object = "") :
    Comes ⟨.error .missingName, s.cache, ([], s.state), []⟩
  | unidentified (hname : Text.strip object ≠ "") (hid : source.environmentId = none) :
    Comes ⟨.error .unidentified, s.cache, ([], s.state), []⟩
  /-- The cache answers. -/
  | held (environmentId : String) (v : Value) (events : List Event)
    (hname : Text.strip object ≠ "") (hid : source.environmentId = some environmentId)
    (hanswer : s.answer? source object environmentId = some v) (hv : v ≠ .null) :
    Comes ⟨ofHeld v, s.looked source object environmentId, ([], s.state), events⟩
  /-- The source fails. -/
  | failed (environmentId : String) (e : ε) (t : σ) (events : List Event)
    (hname : Text.strip object ≠ "") (hid : source.environmentId = some environmentId)
    (hanswer : ∀ v, s.answer? source object environmentId = some v → v = .null)
    (hfailed : source.describe (Text.strip object) s.state = (.error e, t)) :
    Comes ⟨.error (.source e), s.looked source object environmentId,
      ([⟨s.now, Text.strip object, .error e⟩], t), events⟩
  /-- The source answers, and its answer is kept. -/
  | answered (environmentId : String) (schema : ObjectSchema) (t : σ) (events : List Event)
    (hname : Text.strip object ≠ "") (hid : source.environmentId = some environmentId)
    (hanswer : ∀ v, s.answer? source object environmentId = some v → v = .null)
    (hanswered : source.describe (Text.strip object) s.state = (.ok schema, t)) :
    Comes ⟨ofFault schema (s.keep source object environmentId schema).1,
      (s.keep source object environmentId schema).2.1,
      ([⟨s.now, Text.strip object, .ok schema⟩], t), events⟩

variable {s source object} {environmentId : String}

theorem ask_of_held (hname : Text.strip object ≠ "")
    (hid : source.environmentId = some environmentId) {v : Value}
    (hanswer : s.answer? source object environmentId = some v) (hv : v ≠ .null) :
    ∃ events, s.ask source object =
      ⟨ofHeld v, s.looked source object environmentId, ([], s.state), events⟩ := by
  have hrecorded : (recorded source s.now).environmentId = some environmentId := hid
  exact ⟨_, describe_of_held hname hrecorded hanswer hv ([], s.state)⟩

theorem ask_of_not_held (hname : Text.strip object ≠ "")
    (hid : source.environmentId = some environmentId)
    (hanswer : ∀ v, s.answer? source object environmentId = some v → v = .null) :
    ∃ events, s.ask source object =
      let fetched := fetch (recorded source s.now) environmentId
        (s.looked source object environmentId) s.now (keyIn source object environmentId)
        (Text.strip object) ([], s.state)
      { fetched with events } := by
  have hrecorded : (recorded source s.now).environmentId = some environmentId := hid
  exact ⟨_, describe_of_not_held hname hrecorded hanswer ([], s.state)⟩

theorem ask_of_failed (hname : Text.strip object ≠ "")
    (hid : source.environmentId = some environmentId)
    (hanswer : ∀ v, s.answer? source object environmentId = some v → v = .null) {e : ε} {t : σ}
    (hfailed : source.describe (Text.strip object) s.state = (.error e, t)) :
    ∃ events, s.ask source object = ⟨.error (.source e), s.looked source object environmentId,
      ([⟨s.now, Text.strip object, .error e⟩], t), events⟩ := by
  obtain ⟨events, hask⟩ := ask_of_not_held hname hid hanswer
  refine ⟨events, ?_⟩
  rw [hask, fetch_recorded_error hfailed]

theorem ask_of_answered (hname : Text.strip object ≠ "")
    (hid : source.environmentId = some environmentId)
    (hanswer : ∀ v, s.answer? source object environmentId = some v → v = .null)
    {schema : ObjectSchema} {t : σ}
    (hanswered : source.describe (Text.strip object) s.state = (.ok schema, t)) :
    ∃ events, s.ask source object =
      ⟨ofFault schema (s.keep source object environmentId schema).1,
        (s.keep source object environmentId schema).2.1,
        ([⟨s.now, Text.strip object, .ok schema⟩], t), events⟩ := by
  obtain ⟨events, hask⟩ := ask_of_not_held hname hid hanswer
  refine ⟨events, ?_⟩
  rw [hask]
  simp only [fetch, recorded, hanswered]
  rfl

variable (s source object) in
/-- Every call comes to one of these. -/
theorem comes_ask : Comes s source object (s.ask source object) := by
  by_cases hname : Text.strip object = ""
  · rw [ask, describe_blank hname]
    exact .blank hname
  cases hid : source.environmentId with
  | none =>
    have hrecorded : (recorded source s.now).environmentId = none := hid
    have hask : s.ask source object = ⟨.error .unidentified, s.cache, ([], s.state), []⟩ := by
      simp only [ask, describe, hrecorded]
    rw [hask]
    exact .unidentified hname hid
  | some environmentId =>
    rcases held_or_not (s.answer? source object environmentId) with ⟨v, hanswer, hv⟩ | hanswer
    · obtain ⟨events, hask⟩ := ask_of_held hname hid hanswer hv
      rw [hask]
      exact .held environmentId v events hname hid hanswer hv
    rcases hdescribe : source.describe (Text.strip object) s.state with ⟨e | schema, t⟩
    · obtain ⟨events, hask⟩ := ask_of_failed hname hid hanswer hdescribe
      rw [hask]
      exact .failed environmentId e t events hname hid hanswer hdescribe
    · obtain ⟨events, hask⟩ := ask_of_answered hname hid hanswer hdescribe
      rw [hask]
      exact .answered environmentId schema t events hname hid hanswer hdescribe

/-! ## What a call does to the cache -/

theorem minutes_looked : (s.looked source object environmentId).minutes = s.cache.minutes :=
  Cache.minutes_get? ..

theorem entries_looked : (s.looked source object environmentId).entries = s.cache.entries :=
  Cache.entries_get? ..

theorem file_looked : (s.looked source object environmentId).file = s.cache.file :=
  Cache.file_get? ..

variable (s source object)

theorem minutes_ask : (s.ask source object).cache.minutes = s.cache.minutes := by
  have h := s.comes_ask source object
  generalize s.ask source object = o at h
  cases h with
  | blank => rfl
  | unidentified => rfl
  | held => exact minutes_looked
  | failed => exact minutes_looked
  | answered => exact (Cache.minutes_set ..).trans minutes_looked

theorem blocked_ask (b : Folder.Obstacle) :
    (s.ask source object).cache.file = .blocked b ↔ s.cache.file = .blocked b := by
  have h := s.comes_ask source object
  generalize s.ask source object = o at h
  cases h with
  | blank => rfl
  | unidentified => rfl
  | held => rw [file_looked]
  | failed => rw [file_looked]
  | answered => rw [keep, Cache.blocked_set, file_looked]

/-- Only an answer of the source adds to the cache. -/
theorem entries_ask : (s.ask source object).cache.entries = s.cache.entries ∨
    ∃ environmentId schema, source.environmentId = some environmentId ∧
      (s.ask source object).state.1 = [⟨s.now, Text.strip object, .ok schema⟩] ∧
      (s.ask source object).cache.entries = s.cache.entries.set
        (keyIn source object environmentId) ⟨s.now, recordType, Document.ofSchema schema⟩ := by
  have h := s.comes_ask source object
  generalize s.ask source object = o at h
  cases h with
  | blank => exact .inl rfl
  | unidentified => exact .inl rfl
  | held => exact .inl entries_looked
  | failed => exact .inl entries_looked
  | answered environmentId schema t events hname hid =>
    by_cases hoff : (s.looked source object environmentId).isDisabled = true
    · left
      rw [keep, Cache.entries_set, if_pos hoff, entries_looked]
    · refine .inr ⟨environmentId, schema, hid, rfl, ?_⟩
      rw [keep, Cache.entries_set, if_neg hoff, entries_looked]

end Shared

end Discovery
end CrossCheck
