import CrossCheck.Calendar.Epoch
import CrossCheck.Document.Database
import CrossCheck.Log.Line
import CrossCheck.Program
import Std.Time.DateTime

/-!
The program.  It takes what a command may look at from the disk, runs the command, and puts back
what has changed.  A database is a file that holds its script as JSON.
-/

namespace CrossCheck
namespace Main

open Program

def contentOf (bytes : ByteArray) : Content :=
  match String.fromUTF8? bytes with
  | some s => .text s
  | none => .bytes bytes.toList

def bytesOf : Content → ByteArray
  | .text s => s.toUTF8
  | .bytes bs => ⟨bs.toArray⟩

/-- What lies under a path on the disk. -/
def readPath (f : Folder) (p : Path) : IO Folder := do
  try
    return f.write p (contentOf (← IO.FS.readBinFile p.text))
  catch _ =>
    try
      if ← (← IO.FS.realPath p.text).isDir then return f.makeDirectory p else return f
    catch _ => return f

def readPaths (f : Folder) (ps : List Path) : IO Folder := ps.foldlM readPath f

def writePath (p : Path) (content : Content) : IO Unit := do
  IO.FS.createDirAll p.parent.text
  IO.FS.writeBinFile p.text (bytesOf content)

/-- The variables of the program, and those that its file of assignments refers to. -/
def readVariables (file : Option String) : IO (List (String × String)) := do
  let mut vars := []
  for name in Settings.variableNames ++ Assignments.references (file.getD "") do
    if let some v ← IO.getEnv name then vars := vars ++ [(name, v)]
  return vars

def readDatabase (path : String) : IO (List (String × Database)) := do
  try
    let script ← IO.FS.readFile path
    return ((Json.read? Cache.maxDepth script).map fun v => (path, Document.databaseOf v)).toList
  catch _ => return []

def translate (query : String) : Except Database.Untranslated String :=
  match Query.translated query with
  | .ok sql => .ok sql
  | .error .malformed => .error (.refused ("This is no query: " ++ query))
  | .error .tooDeep => .error .tooDeep

/-- Microseconds since 1970. -/
def readClock : IO Nat := do
  return (← Std.Time.Timestamp.now).toNanosecondsSinceUnixEpoch.toInt.toNat / 1000

/-- The program and its exit code. -/
def run (arguments : List String) : IO UInt32 := do
  let now ← readClock
  let home := Path.ofText ((← IO.getEnv "HOME").getD "/")
  let working := Path.ofText (← IO.currentDir).toString
  let folder ← readPath (.empty working) Settings.assignmentsFile
  let file := folder.read? Settings.assignmentsFile
  let vars ← readVariables file
  let settings := Settings.ofVariables? home vars file
  let known := do return (← settings, ← Command.ofArguments? arguments)
  let folder ← match known with
    | some (s, c) => readPaths folder (filesOf s c)
    | none => pure folder
  let databases ← match known with
    | some (s, c) => (databasesOf s folder c).mapM readDatabase
    | none => pure []
  let ending := Program.run
    { home, vars
      database? := fun path => databases.flatten.lookup path
      translate
      clock := .ofRatio false now (Nat.pow 10 6)
      date := .ofEpoch (now / Nat.pow 10 6) (now % Nat.pow 10 6) }
    folder arguments
  if let some s := settings then
    (Event.lines s.logLevel s.logJson ending.progress.events).forM IO.eprintln
  for (p, content) in ending.progress.folder.files do
    if folder.files.lookup p ≠ some content then writePath p content
  match ending.printed with
  | some s => IO.print s
  | none => IO.eprintln "The command cannot be run as it is given."
  return UInt32.ofNat (exitCode ending.result)

end Main
end CrossCheck

def main (arguments : List String) : IO UInt32 := CrossCheck.Main.run arguments
