import CrossCheck.Document.Cache
import CrossCheck.Folder
import CrossCheck.Json.Reader
import CrossCheck.Json.Writer
import CrossCheck.Log.Event

/-!
A cache that lives in a single file.  Its file is read once, before the first use, and written
after every change.  A file that cannot be read is as good as none.
-/

namespace CrossCheck

/-- What lies where the file of a cache belongs. -/
inductive CacheFile where
  | missing
  /-- There can be no file. -/
  | blocked (o : Folder.Obstacle)
  | text (s : String)
  /-- Bytes that are no text. -/
  | binary (bytes : List UInt8)

/-- Entries are valid for so many minutes; a cache that keeps nothing for any time is off. -/
structure Cache where
  minutes : Int
  loaded : Option (Named CacheRecord)
  file : CacheFile

namespace Cache

/-- Why a change does not reach the file. -/
inductive Fault where
  | blocked (o : Folder.Obstacle)
  /-- There are bytes among the entries that are no text, or a whole number is too long. -/
  | unwritable
deriving DecidableEq

/-- A cache on a file that it has not read yet. -/
def open' (minutes : Int) (file : CacheFile) : Cache := ⟨minutes, none, file⟩

def reopen (c : Cache) (minutes : Int) : Cache := open' minutes c.file

def isDisabled (c : Cache) : Bool := c.minutes ≤ 0

def seconds (c : Cache) : Int := c.minutes * 60

def unreadableEvent : Event := ⟨.warning, "metadata_cache_unreadable", []⟩

def hitEvent (key : String) : Event := ⟨.debug, "metadata_cache_hit", [("key", .text key)]⟩

def expiredEvent (key : String) : Event := ⟨.debug, "metadata_cache_expired", [("key", .text key)]⟩

/-- Nesting deeper than this is refused in a file. -/
def maxDepth : Nat := 200

/-- The entries of a file, unless it cannot be read. -/
def entriesOf? : CacheFile → Option (Named CacheRecord)
  | .missing => some []
  | .text s => (Json.read? maxDepth s).bind Document.cacheFile?
  | _ => none

def entries (c : Cache) : Named CacheRecord :=
  match c.loaded with
  | some entries => entries
  | none => (entriesOf? c.file).getD []

/-- The cache with its file read, and what that gave reason to report. -/
def load (c : Cache) : Cache × List Event :=
  ({ c with loaded := some c.entries },
    if c.loaded.isNone && (entriesOf? c.file).isNone then [unreadableEvent] else [])

/-- An entry is fresh up to and including the last second of its time. -/
def isFresh (c : Cache) (now : Binary64) (r : CacheRecord) : Bool :=
  (now.sub r.fetchedAt).leInt c.seconds

/-- The entry of a key, if it is of the type that is asked for. -/
def find? (c : Cache) (key type : String) : Option CacheRecord :=
  (c.entries.get? key).filter (·.type = type)

/-- What a fresh entry holds. -/
def get? (c : Cache) (now : Binary64) (key type : String) : Option Value × Cache × List Event :=
  if c.isDisabled then (none, c, [])
  else
    let (c, events) := c.load
    match c.find? key type with
    | none => (none, c, events)
    | some r =>
      if c.isFresh now r then (some r.data, c, events ++ [hitEvent key])
      else (none, c, events ++ [expiredEvent key])

/-- The file with other entries.  What stands in the way of its directory comes first, then what
the entries hold, and last a directory in the place of the file. -/
def writeFile (file : CacheFile) (entries : Named CacheRecord) : Except Fault CacheFile :=
  let document := Document.ofCacheEntries entries
  match file, Json.isStorable document with
  | .blocked .directory, false => .error .unwritable
  | .blocked o, _ => .error (.blocked o)
  | _, false => .error .unwritable
  | _, true => .ok (.text (Json.writeLine document))

/-- Keeps a value under a key, in memory and, unless there is a fault, in the file. -/
def set (c : Cache) (now : Binary64) (key type : String) (data : Value) :
    Option Fault × Cache × List Event :=
  if c.isDisabled then (none, c, [])
  else
    let (c, events) := c.load
    let entries := c.entries.set key ⟨now, type, data⟩
    match writeFile c.file entries with
    | .error e => (some e, { c with loaded := some entries }, events)
    | .ok file => (none, { c with loaded := some entries, file }, events)

end Cache
end CrossCheck
