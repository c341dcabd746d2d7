import CrossCheck.Backend
import CrossCheck.Cache
import CrossCheck.Document.Schema

/-!
Describing objects, with a cache in front of the source.  A key of the cache names the
environment, its schema version and the object without regard to case, so an upgrade never meets
a description from before it.
-/

namespace CrossCheck

/-- Where the schemas of one environment come from. -/
structure SchemaSource (σ ε : Type) where
  /-- Missing where the environment stands at a place that can have no name. -/
  environmentId : Option String
  schemaVersion : String
  describe : String → Session σ ε ObjectSchema

namespace Discovery

inductive Error (ε : Type) where
  | missingName
  /-- The environment cannot be told from others. -/
  | unidentified
  | source (e : ε)
  /-- The cache holds something under the key that is no schema. -/
  | invalidSchema
  /-- The description could not be kept. -/
  | cache (e : Cache.Fault)
deriving DecidableEq

def missingNameMessage : String := "Object name must be provided for describe."

def recordType : String := "describeObject"

def cacheKey (environmentId schemaVersion object : String) : String :=
  environmentId ++ ":" ++ schemaVersion ++ ":sobject:" ++ Text.lower object

def describedEvent (environmentId : String) (s : ObjectSchema) : Event :=
  ⟨.info, "object_described",
    [("environment", .text environmentId), ("object", .text s.name),
     ("field_count", .int s.fields.length)]⟩

/-- How a description ended, and what it left behind. -/
structure Outcome (σ ε : Type) where
  result : Except (Error ε) ObjectSchema
  cache : Cache
  state : σ
  events : List Event

variable {σ ε : Type}

/-- Asks the source and keeps its answer. -/
def fetch (source : SchemaSource σ ε) (environmentId : String) (c : Cache) (now : Binary64)
    (key name : String) (s : σ) : Outcome σ ε :=
  match source.describe name s with
  | (.error e, s) => ⟨.error (.source e), c, s, []⟩
  | (.ok schema, s) =>
    let (fault, c, events) := c.set now key recordType (Document.ofSchema schema)
    ⟨match fault with
      | none => .ok schema
      | some e => .error (.cache e), c, s,
      describedEvent environmentId schema :: events⟩

/-- The schema of an object: the cached one while it is fresh, else the answer of the source. -/
def describe (source : SchemaSource σ ε) (c : Cache) (now : Binary64) (object : String) (s : σ) :
    Outcome σ ε :=
  let name := Text.strip object
  match name, source.environmentId with
  | "", _ => ⟨.error .missingName, c, s, []⟩
  | _, none => ⟨.error .unidentified, c, s, []⟩
  | name, some environmentId =>
    let key := cacheKey environmentId source.schemaVersion name
    let (found, c, events) := c.get? now key recordType
    match found with
    | none | some .null =>
      let fetched := fetch source environmentId c now key name s
      { fetched with events := events ++ fetched.events }
    | some v =>
      match Document.schema? v with
      | some schema => ⟨.ok schema, c, s, events⟩
      | none => ⟨.error .invalidSchema, c, s, events⟩

end Discovery
end CrossCheck
