import CrossCheck.Discovery
import CrossCheck.Proofs.Cache
import CrossCheck.Proofs.Number.Difference

/-!
What describing gives over any course of calls to one source.  The source is asked when it has
said nothing of an object for the time that entries are valid, and what it said last is the
answer.  A call is followed through a source that takes down what it is asked, and the cache holds
exactly the last of its answers on each object.
-/

namespace CrossCheck

namespace Document

theorem stored_ofField (f : Field) : stored (ofField f) = ofField f := by
  obtain ⟨name, label, type, aggregatable, filterable⟩ := f
  cases label <;> rfl

theorem storedAll_map_ofField (fs : List Field) :
    storedAll (fs.map ofField) = fs.map ofField := by
  induction fs with
  | nil => rfl
  | cons f fs ih => rw [List.map_cons, storedAll, stored_ofField, ih]

/-- Nothing of a schema is lost in a file. -/
theorem stored_ofSchema (s : ObjectSchema) : stored (ofSchema s) = ofSchema s := by
  obtain ⟨name, label, fields⟩ := s
  have hfields := storedAll_map_ofField fields
  cases label <;> simp [ofSchema, stored, storedMembers, ofText?, ofOption, hfields]

theorem areWritable_map_ofField (fits : Int → Bool) (fs : List Field) :
    Json.areWritable fits (fs.map ofField) = true := by
  induction fs with
  | nil => rfl
  | cons f fs ih =>
    obtain ⟨name, label, type, aggregatable, filterable⟩ := f
    rw [List.map_cons, Json.areWritable, ih]
    cases label <;> rfl

theorem isStorable_ofSchema (s : ObjectSchema) : Json.isStorable (stored (ofSchema s)) = true := by
  rw [stored_ofSchema]
  obtain ⟨name, label, fields⟩ := s
  have hfields := areWritable_map_ofField Json.isReadable fields
  cases label <;> simp [Json.isStorable, ofSchema, Json.isWritableWith, Json.membersAreWritable,
    ofText?, ofOption, hfields]

end Document

namespace Discovery

variable {σ ε : Type}

/-! ## What the source is asked -/

/-- A question to the source, and what came of it. -/
structure Call (ε : Type) where
  time : Binary64
  name : String
  answer : Except ε ObjectSchema

/-- A source that takes down what it is asked, the last call first. -/
def recorded (source : SchemaSource σ ε) (now : Binary64) :
    SchemaSource (List (Call ε) × σ) ε where
  environmentId := source.environmentId
  schemaVersion := source.schemaVersion
  describe name := fun (calls, s) =>
    let (answer, s) := source.describe name s
    (answer, ⟨now, name, answer⟩ :: calls, s)

/-- Taking down what is asked changes nothing else. -/
theorem describe_recorded (source : SchemaSource σ ε) (c : Cache) (now : Binary64)
    (object : String) (calls : List (Call ε)) (s : σ) :
    describe source c now object s =
      let o := describe (recorded source now) c now object (calls, s)
      ⟨o.result, o.cache, o.state.2, o.events⟩ := by
  have hfetch (environmentId : String) (c : Cache) (key name : String) :
      fetch source environmentId c now key name s =
        let o := fetch (recorded source now) environmentId c now key name (calls, s)
        ⟨o.result, o.cache, o.state.2, o.events⟩ := by
    simp only [fetch, recorded]
    rcases source.describe name s with ⟨_ | _, _⟩ <;> rfl
  have hid : (recorded source now).environmentId = source.environmentId := rfl
  have hversion : (recorded source now).schemaVersion = source.schemaVersion := rfl
  simp only [describe, hfetch, hid, hversion]
  split
  · rfl
  · rfl
  · split
    · rfl
    · rfl
    · split <;> rfl

/-- The source said something of the object. -/
def Call.Answers (call : Call ε) (object : String) : Prop :=
  (∃ schema, call.answer = .ok schema) ∧ Text.lower call.name = Text.lower object

/-- What the source said last of an object, and when. -/
def lastAnswer? (object : String) : List (Call ε) → Option (Binary64 × ObjectSchema)
  | [] => none
  | ⟨time, name, .ok schema⟩ :: calls =>
    if Text.lower name = Text.lower object then some (time, schema) else lastAnswer? object calls
  | ⟨_, _, .error _⟩ :: calls => lastAnswer? object calls

/-- Calls in the order of their times, the last one first. -/
def InOrder (now : Binary64) : List (Call ε) → Prop
  | [] => True
  | call :: calls => call.time.AtMost now ∧ InOrder call.time calls

theorem InOrder.advance {now later : Binary64} {calls : List (Call ε)} (h : InOrder now calls)
    (hlater : now.AtMost later) : InOrder later calls := by
  cases calls with
  | nil => trivial
  | cons call calls => exact ⟨h.1.trans hlater, h.2⟩

theorem InOrder.atMost_of_mem {now : Binary64} {calls : List (Call ε)} (h : InOrder now calls)
    {call : Call ε} (hcall : call ∈ calls) : call.time.AtMost now := by
  induction calls generalizing now with
  | nil => exact absurd hcall List.not_mem_nil
  | cons first calls ih =>
    rcases List.mem_cons.1 hcall with rfl | hcall
    · exact h.1
    · exact (ih h.2 hcall).trans h.1

/-- If anything that the source said of an object is fresh, what it said last is. -/
theorem lastAnswer?_of_answers {now : Binary64} {calls : List (Call ε)} (h : InOrder now calls)
    {call : Call ε} (hcall : call ∈ calls) {object : String} (hanswers : call.Answers object)
    {seconds : Int} (hfresh : (now.sub call.time).leInt seconds = true) :
    ∃ time schema, lastAnswer? object calls = some (time, schema) ∧
      (now.sub time).leInt seconds = true := by
  induction calls with
  | nil => exact absurd hcall List.not_mem_nil
  | cons first calls ih =>
    have hrest := ih (h.2.advance h.1)
    rcases first with ⟨time, name, e | schema⟩
    · rcases List.mem_cons.1 hcall with rfl | hcall
      · exact absurd hanswers.1 nofun
      · exact hrest hcall
    · by_cases hname : Text.lower name = Text.lower object
      · refine ⟨time, schema, if_pos hname, ?_⟩
        rcases List.mem_cons.1 hcall with rfl | hcall
        · exact hfresh
        · exact Binary64.leInt_sub_of_atMost (h.2.atMost_of_mem hcall) h.1 hfresh
      · rw [lastAnswer?, if_neg hname]
        rcases List.mem_cons.1 hcall with rfl | hcall
        · exact absurd hanswers.2 hname
        · exact hrest hcall

theorem answers_of_lastAnswer? {calls : List (Call ε)} {object : String} {time : Binary64}
    {schema : ObjectSchema} (h : lastAnswer? object calls = some (time, schema)) :
    ∃ call ∈ calls, call.Answers object ∧ call.time = time := by
  induction calls with
  | nil => exact absurd h nofun
  | cons first calls ih =>
    have hrest (hlast : lastAnswer? object calls = some (time, schema)) :
        ∃ call ∈ first :: calls, call.Answers object ∧ call.time = time := by
      obtain ⟨call, hcall, hanswers⟩ := ih hlast
      exact ⟨call, List.mem_cons_of_mem _ hcall, hanswers⟩
    rcases first with ⟨at', name, e | said⟩
    · exact hrest h
    · rw [lastAnswer?] at h
      split at h
      · next hname =>
        cases h
        exact ⟨_, List.mem_cons_self, ⟨⟨schema, rfl⟩, hname⟩, rfl⟩
      · exact hrest h

/-! ## A single call -/

theorem cacheKey_inj {environmentId schemaVersion object object' : String} :
    cacheKey environmentId schemaVersion object = cacheKey environmentId schemaVersion object' ↔
      Text.lower object = Text.lower object' := by
  rw [cacheKey, cacheKey, String.append_right_inj]

variable {source : SchemaSource σ ε} {environmentId : String} {c : Cache} {object : String}

theorem describe_blank (h : Text.strip object = "") (now : Binary64) (s : σ) :
    describe source c now object s = ⟨.error .missingName, c, s, []⟩ := by
  simp only [describe, h]

section Found

variable {now : Binary64} {c' : Cache} {events : List Event}
variable (hid : source.environmentId = some environmentId) (hname : Text.strip object ≠ "")

include hid hname

theorem describe_of_found {schema : ObjectSchema}
    (hget : c.get? now (cacheKey environmentId source.schemaVersion (Text.strip object))
      recordType =
      (some (Document.ofSchema schema), c', events)) (s : σ) :
    describe source c now object s = ⟨.ok schema, c', s, events⟩ := by
  have hschema := Document.schema?_ofSchema schema
  rw [Document.ofSchema] at hget hschema
  simp only [describe, hid, hget, hschema]

theorem describe_of_not_found
    (hget : c.get? now (cacheKey environmentId source.schemaVersion (Text.strip object))
      recordType =
      (none, c', events)) (s : σ) :
    describe source c now object s =
      let fetched := fetch source environmentId c' now
        (cacheKey environmentId source.schemaVersion (Text.strip object)) (Text.strip object) s
      { fetched with events := events ++ fetched.events } := by
  simp only [describe, hid, hget]

end Found

/-- Asking a source that fails. -/
theorem fetch_recorded_error {name : String} {s t : σ} {e : ε}
    (h : source.describe name s = (.error e, t)) (now : Binary64) (key : String)
    (calls : List (Call ε)) :
    fetch (recorded source now) environmentId c now key name (calls, s) =
      ⟨.error (.source e), c, (⟨now, name, .error e⟩ :: calls, t), []⟩ := by
  simp only [fetch, recorded, h]

/-- Asking a source that answers.  The answer is kept, also where it does not reach the file. -/
theorem exists_fetch_recorded_ok {name : String} {s t : σ} {schema : ObjectSchema}
    (h : source.describe name s = (.ok schema, t)) (hpos : 0 < c.minutes)
    (hstorable : ∀ m ∈ c.entries, Json.isStorable (Document.stored m.2.data) = true)
    (environmentId : String) (now : Binary64) (key : String) (calls : List (Call ε)) :
    ∃ result cache events, fetch (recorded source now) environmentId c now key name (calls, s) =
        ⟨result, cache, (⟨now, name, .ok schema⟩ :: calls, t), events⟩ ∧
      ((∀ o, c.file ≠ .blocked o) → result = .ok schema) ∧
      (∀ o, c.file = .blocked o → result = .error (.cache (.blocked o))) ∧
      cache.minutes = c.minutes ∧
      cache.entries = c.entries.set key ⟨now, recordType, Document.ofSchema schema⟩ := by
  have hschema := Document.isStorable_ofSchema schema
  simp only [fetch, recorded, h]
  refine ⟨_, _, _, rfl, ?_⟩
  by_cases hfile : ∃ o, c.file = .blocked o
  · obtain ⟨o, hfile⟩ := hfile
    rw [Cache.set_of_blocked hpos hfile hstorable hschema]
    refine ⟨fun h => absurd hfile (h o), fun o' h => ?_, rfl, rfl⟩
    cases hfile.symm.trans h
    rfl
  · rw [Cache.set_of_isStorable hpos (fun o h => hfile ⟨o, h⟩) hstorable hschema]
    exact ⟨fun _ => rfl, fun o h => absurd ⟨o, h⟩ hfile, rfl, rfl⟩

/-! ## Courses of calls -/

/-- A cache and its clock, a source and what it has been asked. -/
structure Course (σ ε : Type) where
  cache : Cache
  now : Binary64
  calls : List (Call ε)
  state : σ

inductive Step where
  | describe (object : String)
  | advance (now : Binary64)

/-- The clock is never set back. -/
def IsForward : Binary64 → List Step → Prop
  | _, [] => True
  | now, .describe _ :: steps => IsForward now steps
  | now, .advance later :: steps => now.AtMost later ∧ IsForward later steps

namespace Course

def ask (source : SchemaSource σ ε) (s : Course σ ε) (object : String) :
    Outcome (List (Call ε) × σ) ε :=
  Discovery.describe (recorded source s.now) s.cache s.now object (s.calls, s.state)

def step (source : SchemaSource σ ε) (s : Course σ ε) : Step → Course σ ε
  | .describe object =>
    let o := s.ask source object
    { s with cache := o.cache, calls := o.state.1, state := o.state.2 }
  | .advance now => { s with now }

def run (source : SchemaSource σ ε) (s : Course σ ε) (steps : List Step) : Course σ ε :=
  steps.foldl (step source) s

/-- The source said something of the object within so many minutes. -/
def IsKnown (s : Course σ ε) (minutes : Int) (object : String) : Prop :=
  ∃ call ∈ s.calls, call.Answers object ∧ (s.now.sub call.time).leInt (minutes * 60) = true

end Course

/-- The cache holds what the source said last of each object. -/
structure Remembers (schemaVersion environmentId : String) (minutes : Int) (s : Course σ ε) :
    Prop where
  minutes : s.cache.minutes = minutes
  storable : ∀ m ∈ s.cache.entries, Json.isStorable (Document.stored m.2.data) = true
  last : ∀ object, s.cache.entries.get? (cacheKey environmentId schemaVersion object) =
    (lastAnswer? object s.calls).map fun (time, schema) =>
      ⟨time, recordType, Document.ofSchema schema⟩
  now : s.now ≠ .nan
  order : InOrder s.now s.calls

section Single

variable {minutes : Int} {s : Course σ ε}
variable (h : Remembers source.schemaVersion environmentId minutes s) (hpos : 0 < minutes)
variable (hid : source.environmentId = some environmentId) (hname : Text.strip object ≠ "")

include h hpos in
theorem get?_of_known (hknown : s.IsKnown minutes object) :
    ∃ time schema events, lastAnswer? object s.calls = some (time, schema) ∧
      s.cache.get? s.now (cacheKey environmentId source.schemaVersion object) recordType =
        (some (Document.ofSchema schema), { s.cache with loaded := some s.cache.entries },
          events) := by
  obtain rfl := h.minutes
  obtain ⟨call, hcall, hanswers, hfresh⟩ := hknown
  obtain ⟨time, schema, hlast, hfresh⟩ := lastAnswer?_of_answers h.order hcall hanswers hfresh
  obtain ⟨events, hget⟩ := Cache.exists_get?_eq hpos s.now
    (cacheKey environmentId source.schemaVersion object) recordType
  refine ⟨time, schema, events, hlast, ?_⟩
  rw [hget, h.last, hlast]
  simp [Cache.answerOf, Option.filter, hfresh]

include h hpos in
theorem get?_of_not_known (hknown : ¬ s.IsKnown minutes object) :
    ∃ events, s.cache.get? s.now (cacheKey environmentId source.schemaVersion object) recordType =
      (none, { s.cache with loaded := some s.cache.entries }, events) := by
  obtain rfl := h.minutes
  obtain ⟨events, hget⟩ := Cache.exists_get?_eq hpos s.now
    (cacheKey environmentId source.schemaVersion object) recordType
  refine ⟨events, ?_⟩
  rw [hget, h.last]
  cases hlast : lastAnswer? object s.calls with
  | none => rfl
  | some last =>
    obtain ⟨call, hcall, hanswers, htime⟩ := answers_of_lastAnswer? hlast
    have hstale : ¬ (s.now.sub last.1).leInt (s.cache.minutes * 60) = true := fun hfresh =>
      hknown ⟨call, hcall, hanswers, htime ▸ hfresh⟩
    simp [Cache.answerOf, Option.filter, hstale]

include h hpos hid hname

/-- What was said in time is said again. -/
theorem ask_of_known (hknown : s.IsKnown minutes (Text.strip object)) :
    ∃ time schema events, lastAnswer? (Text.strip object) s.calls = some (time, schema) ∧
      s.ask source object = ⟨.ok schema, { s.cache with loaded := some s.cache.entries },
        (s.calls, s.state), events⟩ := by
  obtain ⟨time, schema, events, hlast, hget⟩ := get?_of_known h hpos hknown
  have hrecorded : (recorded source s.now).environmentId = some environmentId := hid
  refine ⟨time, schema, events, hlast, ?_⟩
  rw [Course.ask, describe_of_found hrecorded hname hget]

/-- A failure of the source is passed on. -/
theorem ask_of_error (hknown : ¬ s.IsKnown minutes (Text.strip object)) {e : ε} {t : σ}
    (herror : source.describe (Text.strip object) s.state = (.error e, t)) :
    ∃ events, s.ask source object =
      ⟨.error (.source e), { s.cache with loaded := some s.cache.entries },
        (⟨s.now, Text.strip object, .error e⟩ :: s.calls, t), events⟩ := by
  obtain ⟨events, hget⟩ := get?_of_not_known h hpos hknown
  have hrecorded : (recorded source s.now).environmentId = some environmentId := hid
  refine ⟨events ++ [], ?_⟩
  rw [Course.ask, describe_of_not_found hrecorded hname hget, fetch_recorded_error herror]

/-- An answer of the source is kept, also where it does not reach the file. -/
theorem ask_of_ok (hknown : ¬ s.IsKnown minutes (Text.strip object)) {schema : ObjectSchema}
    {t : σ} (hok : source.describe (Text.strip object) s.state = (.ok schema, t)) :
    ∃ result cache events, s.ask source object =
        ⟨result, cache, (⟨s.now, Text.strip object, .ok schema⟩ :: s.calls, t), events⟩ ∧
      ((∀ o, s.cache.file ≠ .blocked o) → result = .ok schema) ∧
      (∀ o, s.cache.file = .blocked o → result = .error (.cache (.blocked o))) ∧
      cache.minutes = s.cache.minutes ∧
      cache.entries = s.cache.entries.set
        (cacheKey environmentId source.schemaVersion (Text.strip object))
        ⟨s.now, recordType, Document.ofSchema schema⟩ := by
  obtain ⟨events, hget⟩ := get?_of_not_known h hpos hknown
  have hrecorded : (recorded source s.now).environmentId = some environmentId := hid
  obtain ⟨result, cache, fetched, hfetch, hkept⟩ := exists_fetch_recorded_ok
    (c := { s.cache with loaded := some s.cache.entries }) hok (h.minutes.symm ▸ hpos)
    h.storable environmentId s.now
    (cacheKey environmentId source.schemaVersion (Text.strip object)) s.calls
  refine ⟨result, cache, events ++ fetched, ?_, hkept⟩
  have hversion : (recorded source s.now).schemaVersion = source.schemaVersion := rfl
  rw [Course.ask, describe_of_not_found hrecorded hname hget, hversion, hfetch]

end Single

/-! ## What every step keeps -/

section Course

variable {minutes : Int} {s : Course σ ε}

theorem Remembers.advance {schemaVersion : String}
    (h : Remembers schemaVersion environmentId minutes s) (source : SchemaSource σ ε)
    {later : Binary64} (hlater : s.now.AtMost later) :
    Remembers schemaVersion environmentId minutes (s.step source (.advance later)) :=
  ⟨h.minutes, h.storable, h.last, hlater.ne_nan, h.order.advance hlater⟩

theorem Remembers.describe (h : Remembers source.schemaVersion environmentId minutes s)
    (hpos : 0 < minutes) (hid : source.environmentId = some environmentId) (object : String) :
    Remembers source.schemaVersion environmentId minutes (s.step source (.describe object)) := by
  have hstep : s.step source (.describe object) =
    ⟨(s.ask source object).cache, s.now, (s.ask source object).state.1,
      (s.ask source object).state.2⟩ := rfl
  have hnow := Binary64.atMost_refl h.now
  rw [hstep]
  by_cases hname : Text.strip object = ""
  · rw [Course.ask, describe_blank hname]
    exact h
  by_cases hknown : s.IsKnown minutes (Text.strip object)
  · obtain ⟨time, schema, events, -, hask⟩ := ask_of_known h hpos hid hname hknown
    rw [hask]
    exact ⟨h.minutes, h.storable, h.last, h.now, h.order⟩
  cases hanswer : source.describe (Text.strip object) s.state with
  | mk answer t =>
  cases answer with
  | error e =>
    obtain ⟨events, hask⟩ := ask_of_error h hpos hid hname hknown hanswer
    rw [hask]
    exact ⟨h.minutes, h.storable, h.last, h.now, hnow, h.order⟩
  | ok schema =>
    obtain ⟨result, cache, events, hask, -, -, hminutes, hentries⟩ :=
      ask_of_ok h hpos hid hname hknown hanswer
    rw [hask]
    refine ⟨?_, ?_, ?_, h.now, hnow, h.order⟩
    · exact hminutes.trans h.minutes
    · rw [hentries]
      exact Cache.isStorable_set h.storable (Document.isStorable_ofSchema schema) _ _ _
    · intro other
      rw [hentries, Named.get?_set, h.last, lastAnswer?]
      by_cases hother : Text.lower (Text.strip object) = Text.lower other
      · rw [if_pos (cacheKey_inj.2 hother.symm), if_pos hother]
        rfl
      · rw [if_neg fun heq => hother (cacheKey_inj.1 heq).symm, if_neg hother]

theorem Remembers.run (h : Remembers source.schemaVersion environmentId minutes s)
    (hpos : 0 < minutes) (hid : source.environmentId = some environmentId) {steps : List Step}
    (hforward : IsForward s.now steps) :
    Remembers source.schemaVersion environmentId minutes (s.run source steps) := by
  induction steps generalizing s with
  | nil => exact h
  | cons step steps ih =>
    cases step with
    | describe object =>
      have hnow : (s.step source (.describe object)).now = s.now := rfl
      rw [IsForward, ← hnow] at hforward
      exact ih (h.describe hpos hid object) hforward
    | advance later => exact ih (h.advance source hforward.1) hforward.2

end Course

/-! ## The answers of a course of calls -/

/-- How a call ends, given what the source has been asked before. -/
structure Faithful (source : SchemaSource σ ε) (minutes : Int) (s : Course σ ε) (object : String) :
    Prop where
  /-- Nothing is due to the source taking down what it is asked. -/
  unrecorded : describe source s.cache s.now object s.state =
    ⟨(s.ask source object).result, (s.ask source object).cache, (s.ask source object).state.2,
      (s.ask source object).events⟩
  /-- A blank name is refused before the cache or the source is used. -/
  blank : Text.strip object = "" →
    s.ask source object = ⟨.error .missingName, s.cache, (s.calls, s.state), []⟩
  /-- The source is not asked again for what it said in time. -/
  known : Text.strip object ≠ "" → s.IsKnown minutes (Text.strip object) →
    (s.ask source object).state = (s.calls, s.state) ∧
      ∃ time schema, lastAnswer? (Text.strip object) s.calls = some (time, schema) ∧
        (s.ask source object).result = .ok schema
  /-- Otherwise it is asked, once. -/
  asked : Text.strip object ≠ "" → ¬ s.IsKnown minutes (Text.strip object) →
    (s.ask source object).state =
      (⟨s.now, Text.strip object, (source.describe (Text.strip object) s.state).1⟩ :: s.calls,
        (source.describe (Text.strip object) s.state).2)
  /-- What it says comes back, if the cache can have a file. -/
  answered : Text.strip object ≠ "" → ¬ s.IsKnown minutes (Text.strip object) → ∀ schema,
    (source.describe (Text.strip object) s.state).1 = .ok schema →
      ((∀ o, s.cache.file ≠ .blocked o) → (s.ask source object).result = .ok schema) ∧
      (∀ o, s.cache.file = .blocked o →
        (s.ask source object).result = .error (.cache (.blocked o)))
  /-- A failure of the source comes back as well, and the cache has read its file, no more. -/
  failed : Text.strip object ≠ "" → ¬ s.IsKnown minutes (Text.strip object) → ∀ e,
    (source.describe (Text.strip object) s.state).1 = .error e →
      (s.ask source object).result = .error (.source e) ∧
      (s.ask source object).cache = { s.cache with loaded := some s.cache.entries }

/-- After any course of calls that began with an empty cache, under a clock that is never set back,
the next call ends as it should, whatever the source does. -/
theorem describe_faithful {source : SchemaSource σ ε} {environmentId : String}
    (hid : source.environmentId = some environmentId) {c : Cache} (hpos : 0 < c.minutes)
    (hempty : c.entries = []) {now : Binary64} (hnow : now ≠ .nan) (state : σ) {steps : List Step}
    (hforward : IsForward now steps) {s : Course σ ε}
    (hs : s = Course.run source ⟨c, now, [], state⟩ steps) (object : String) :
    Faithful source c.minutes s object := by
  have hstart : Remembers source.schemaVersion environmentId c.minutes
      (⟨c, now, [], state⟩ : Course σ ε) := by
    refine ⟨rfl, ?_, ?_, hnow, trivial⟩
    · rw [hempty]
      exact fun m hm => absurd hm List.not_mem_nil
    · rw [hempty]
      exact fun object => rfl
  have h := hstart.run hpos hid hforward
  rw [← hs] at h
  refine ⟨?_, fun hblank => ?_, fun hname hknown => ?_, fun hname hknown => ?_,
    fun hname hknown schema hok => ?_, fun hname hknown e herror => ?_⟩
  · exact describe_recorded source s.cache s.now object s.calls s.state
  · rw [Course.ask, describe_blank hblank]
  · obtain ⟨time, schema, events, hlast, hask⟩ := ask_of_known h hpos hid hname hknown
    rw [hask]
    exact ⟨rfl, time, schema, hlast, rfl⟩
  · rcases hanswer : source.describe (Text.strip object) s.state with ⟨e | schema, t⟩
    · obtain ⟨events, hask⟩ := ask_of_error h hpos hid hname hknown hanswer
      rw [hask]
    · obtain ⟨result, cache, events, hask, -⟩ := ask_of_ok h hpos hid hname hknown hanswer
      rw [hask]
  · obtain ⟨result, cache, events, hask, hkept, hblocked, -⟩ :=
      ask_of_ok h hpos hid hname hknown (Prod.ext hok rfl)
    rw [hask]
    exact ⟨hkept, hblocked⟩
  · obtain ⟨events, hask⟩ := ask_of_error h hpos hid hname hknown (Prod.ext herror rfl)
    rw [hask]
    exact ⟨rfl, rfl⟩

/-- A source that answers once and then fails.  Ten minutes to the second after its answer that is
still given, also for another spelling of the name. -/
theorem describe_faithful_deal :
    let source : SchemaSource Nat String :=
      ⟨some "env", "1", fun _ n => (if n = 0 then .ok ⟨"Deal", none, []⟩ else .error "down", n + 1)⟩
    let start : Course Nat String :=
      ⟨.open' 10 .missing, .ofRatio false 1000000 1, [], 0⟩
    let steps : List Step := [.describe " Deal ", .advance (.ofRatio false 1000600 1)]
    let s := start.run source steps
    IsForward start.now steps ∧ (s.ask source "deal").result = .ok ⟨"Deal", none, []⟩ ∧
      (s.ask source "deal").state.2 = 1 := by
  have hclock : Binary64.ofRatio false 1000000 1 ≠ .nan ∧
      (Binary64.ofRatio false 1000000 1).AtMost (.ofRatio false 1000600 1) ∧
      ((Binary64.ofRatio false 1000600 1).sub (.ofRatio false 1000000 1)).leInt (10 * 60) =
        true := by decide +kernel
  -- What the clock shows is not to be computed again.
  generalize Binary64.ofRatio false 1000000 1 = early at *
  generalize Binary64.ofRatio false 1000600 1 = late at *
  obtain ⟨hnow, hlater, hfresh⟩ := hclock
  intro source start steps s
  have hid : source.environmentId = some "env" := rfl
  have hpos : 0 < start.cache.minutes := show (0 : Int) < 10 by decide
  have hforward : IsForward start.now steps := ⟨hlater, trivial⟩
  have hspelled : Text.strip " Deal " = "Deal" ∧ Text.strip "deal" = "deal" ∧
      Text.lower "Deal" = Text.lower "deal" := by decide +kernel
  obtain ⟨hfirstName, hlastName, hsame⟩ := hspelled
  have hs : s = ⟨(start.ask source " Deal ").cache, late, (start.ask source " Deal ").state.1,
    (start.ask source " Deal ").state.2⟩ := rfl
  have hfirst : (start.ask source " Deal ").state =
      ([⟨early, "Deal", .ok ⟨"Deal", none, []⟩⟩], 1) := by
    have hfaithful := describe_faithful hid hpos rfl hnow 0 (show IsForward early [] from trivial)
      (show start = _ from rfl) " Deal "
    have hunknown : ¬ start.IsKnown 10 (Text.strip " Deal ") := fun ⟨_, hcall, _⟩ =>
      absurd hcall List.not_mem_nil
    have hasked := hfaithful.asked (by rw [hfirstName]; decide) hunknown
    rw [hfirstName] at hasked
    exact hasked
  have hcalls : s.calls = [⟨early, "Deal", .ok ⟨"Deal", none, []⟩⟩] := by
    rw [hs, hfirst]
  have hfaithful := describe_faithful hid hpos rfl hnow 0 hforward (show s = _ from rfl) "deal"
  have hknown : s.IsKnown 10 (Text.strip "deal") := by
    have hcall : (⟨early, "Deal", .ok ⟨"Deal", none, []⟩⟩ : Call String) ∈ s.calls :=
      hcalls ▸ List.mem_cons_self
    exact ⟨_, hcall, ⟨⟨_, rfl⟩, hlastName.symm ▸ hsame⟩, hfresh⟩
  obtain ⟨hunasked, time, schema, hschema, hresult⟩ :=
    hfaithful.known (by rw [hlastName]; decide) hknown
  rw [hcalls, hlastName, lastAnswer?, if_pos hsame] at hschema
  cases hschema
  refine ⟨hforward, hresult, ?_⟩
  rw [hunasked, hs, hfirst]

end Discovery
end CrossCheck
