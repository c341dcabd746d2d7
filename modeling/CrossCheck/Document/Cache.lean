import CrossCheck.Document.Scalar

/-!
The file of the cache as a document.
-/

namespace CrossCheck

/-- Something fetched, when, and what sort of thing it is. -/
structure CacheRecord where
  fetchedAt : Binary64
  type : String
  data : Value

namespace Document

/-- Files of another version are taken for empty. -/
def cacheVersion : Int := 1

def cacheRecord? (v : Value) : Option CacheRecord := do
  let r ← record? v
  return ⟨← required r "fetched_at" binary64?, ← required r "type" text?, ← r.get? "data"⟩

def cacheEntries? (v : Value) : Option (Named CacheRecord) := do
  (← record? v).mapM fun (key, v) => (cacheRecord? v).map fun record => (key, record)

def cacheFile? (v : Value) : Option (Named CacheRecord) := do
  let r ← record? v
  let version ← withDefault r "version" cacheVersion int?
  let entries ← withDefault r "entries" [] cacheEntries?
  return if version = cacheVersion then entries else []

mutual

/-- What the file keeps of a value: nothing of a number that is infinite or none. -/
def stored : Value → Value
  | .float x => if x.isFinite then .float x else .null
  | .list vs => .list (storedAll vs)
  | .record ms => .record (storedMembers ms)
  | v => v

def storedAll : List Value → List Value
  | [] => []
  | v :: vs => stored v :: storedAll vs

def storedMembers : List (String × Value) → List (String × Value)
  | [] => []
  | (name, v) :: ms => (name, stored v) :: storedMembers ms

end

def ofCacheRecord (r : CacheRecord) : Value :=
  .record [("fetched_at", .float r.fetchedAt), ("type", .text r.type), ("data", stored r.data)]

def ofCacheEntries (entries : Named CacheRecord) : Value :=
  .record [("version", .int cacheVersion),
    ("entries", .record (entries.map fun (key, r) => (key, ofCacheRecord r)))]

end Document
end CrossCheck
