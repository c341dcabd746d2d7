import CrossCheck.Command
import CrossCheck.Console.Report
import CrossCheck.Export.Csv
import CrossCheck.Export.Pdf
import CrossCheck.Problem
import CrossCheck.Query.Statement.Writer
import CrossCheck.Settings

/-!
Running commands.  A run reads settings and the registry, asks the databases, and ends with what
it prints, the files it leaves behind and what each database was told.
-/

namespace CrossCheck
namespace Program

/-- What a run finds around it, files aside. -/
structure Surroundings where
  home : Path
  /-- Variables of the process. -/
  vars : List (String × String)
  /-- The database under a path, if it can be opened. -/
  database? : String → Option Database
  /-- The statement that a query becomes for the databases. -/
  translate : String → Except Database.Untranslated String := .ok
  /-- Seconds, for the age of what is cached. -/
  clock : Binary64
  /-- When reports are made. -/
  date : Timestamp

/-- What a run has come to. -/
structure Progress where
  folder : Folder
  /-- What databases were told, each by its path. -/
  requests : List (String × Database.Request)
  events : List Event

inductive Failure where
  /-- The arguments spell no command. -/
  | usage
  /-- Something the user can mend, told on the console. -/
  | told (message : String)
  | settings
  | registry (e : Registry.Error)
  | service (e : Service.Error Database.Failure)
  /-- A text on the console has tags that cannot be shown. -/
  | markup (e : Markup.Fault)
  /-- The exported file cannot be written. -/
  | blocked (o : Folder.Obstacle)
  /-- A name stands for no environment, and the user cannot be told so. -/
  | unresolved (e : Registry.Unresolved)
  /-- A report holds bytes that are no text. -/
  | unwritable
  /-- The parts of a query lie too deep within one another. -/
  | tangled

/-- How a run ended, with its output or what kept it from one. -/
structure Ending where
  result : Except Failure String
  progress : Progress

def exitCode : Except Failure String → Nat
  | .ok _ => 0
  | .error .usage => 2
  | .error _ => 1

abbrev Run (α : Type) := Session Progress Failure α

/-! ## Failures -/

/-- What the user is told of an error: none for a fault of data or program. -/
def tell? (e : Service.Error Database.Failure) : Option String :=
  (e.problem?.map Problem.line).or (e.databaseMessage?.map ("Query error: " ++ ·))

def ofServiceError (e : Service.Error Database.Failure) : Failure :=
  match tell? e with
  | some message => .told message
  | none => .service e

def outputFileRequired (format : String) : Problem :=
  ⟨"OutputFileRequired", "--output-file is required for " ++ format ++ " output.", []⟩

/-! ## Steps -/

def settings (w : Surroundings) : Run Settings := do
  let file := (← get).folder.read? Settings.assignmentsFile
  match Settings.ofVariables? w.home w.vars file with
  | some s => return s
  | none => throw .settings

def endpoint (w : Surroundings) (working : Path) (e : Registration) : Database.Endpoint :=
  let path := if e.database = "" then Database.memoryPath else e.database
  { Database.Endpoint.make working (some e.database) (some e.name) e.readOnly (w.database? path)
      with translate := w.translate }

def registry (s : Settings) (file : Option Path) : Run Registry := do
  Session.ofExcept .registry (Registry.load (← get).folder (file.getD s.registryFile))

/-- The database of an environment that the registry or a path names. -/
def connect (w : Surroundings) (r : Registry) (name : String) : Run Database.Endpoint := do
  let folder := (← get).folder
  match r.resolve folder name with
  | .ok e => return endpoint w folder.working e
  | .error e =>
    match e.problem? with
    | some p => throw (.told p.line)
    | none => throw (.unresolved e)

def cacheFile (f : Folder) (p : Path) : CacheFile :=
  match f.find p, f.obstacle? p with
  | .file (.text s), _ => .text s
  | .file (.bytes bs), _ => .binary bs
  | _, some o => .blocked o
  | _, none => .missing

def openCache (s : Settings) (minutes : Option Int) : Run Cache := do
  return .open' (minutes.getD s.cacheMinutes) (cacheFile (← get).folder s.cacheFile)

/-- Leaves the file of a cache behind. -/
def keepCache (s : Settings) (c : Cache) : Run Unit :=
  match c.file with
  | .text content => modify fun p => { p with folder := p.folder.write s.cacheFile (.text content) }
  | _ => pure ()

def report (events : List Event) : Run Unit :=
  modify fun p => { p with events := p.events ++ events }

/-- Closes a connection and takes down everything that went over it. -/
def finish (e : Database.Endpoint) (s : Database.State) : Run Unit := do
  let (_, s) := Database.Endpoint.close s
  let path := e.path.getD Database.memoryPath
  report s.events
  modify fun p => { p with requests := p.requests ++ s.requests.map fun r => (path, r) }

def sixty : Binary64 := .ofRatio false 60 1

/-- Seconds from minutes; what is not above zero sets no limit. -/
def limit (s : Settings) (minutes : Option Binary64) : Option Number :=
  match minutes with
  | none => if 0 < s.timeoutMinutes then some (.int (s.timeoutMinutes * 60)) else none
  | some m => if m.leInt 0 || m = .nan then none else some (.float (m.mul sixty))

abbrev DatabaseService := Service Database.State Database.Failure

/-- Runs part of a service on both databases of a selection, and closes them whatever happens. -/
def onService {α : Type} (w : Surroundings) (settings : Settings) (s : Selection)
    (timeout : Option Binary64)
    (step : DatabaseService → Except (Service.Error Database.Failure) α × DatabaseService) :
    Run α := do
  let r ← registry settings s.registryFile
  let source ← connect w r s.source
  let target ← connect w r s.target
  let (result, v) := step
    { source := source.environment
      target := target.environment
      sourceState := .closed
      targetState := .closed
      cache := ← openCache settings s.cacheMinutes
      timeout := limit settings timeout }
  report v.events
  finish source v.sourceState
  finish target v.targetState
  keepCache settings v.cache
  Session.ofExcept ofServiceError result

def request (s : Selection) : Request := ⟨s.object, s.metrics, s.filter, s.sampleSize⟩

/-! ## Commands -/

def formats : List String := ["table", "json", "csv", "pdf"]

def fileFormats : List String := ["csv", "pdf"]

/-- Writes an exported report and tells where it is. -/
def exportTo (file : Path) (content : Content) : Run String := do
  let folder := (← get).folder
  if let some o := folder.obstacle? file then throw (.blocked o)
  modify fun p => { p with folder := folder.write file content }
  let written := (Path.resolve folder.working file).text
  Session.ofExcept .markup (Console.print ("[green]Wrote " ++ Console.escape written ++ "[/green]"))

def showReport (w : Surroundings) (format : String) (outputFile : Option Path)
    (title : Option String) (r : Report) : Run String :=
  let file := outputFile.getD ⟨0, []⟩
  let document := Document.ofReport r
  if format = "json" then
    if Json.isWritable document then return Json.writeIndented document ++ "\n"
    else throw .unwritable
  else if format = "csv" then exportTo file (.text (Csv.ofReport r title w.date))
  else if format = "pdf" then exportTo file (.bytes (Pdf.bytes (Pdf.ofReport r title w.date)))
  else Session.ofExcept .markup (Console.printTables (Console.reportTables r))

def runCompare (w : Surroundings) (s : Selection) (format : String) (outputFile : Option Path)
    (title : Option String) (timeout : Option Binary64) : Run String := do
  let settings ← settings w
  let format := Text.lower format
  if !formats.contains format then
    throw (.told ("Unknown format: " ++ format ++ ". Use: " ++ ", ".intercalate formats))
  if fileFormats.contains format && outputFile.isNone then
    throw (.told (outputFileRequired format).line)
  let r ← onService w settings s timeout fun v => v.compare w.clock (request s)
  showReport w format outputFile title r

/-- The queries of a plan under their titles. -/
def titledQueries (p : Planned) : List (String × String) :=
  (p.plan.query.map fun q => ("Aggregate query", q)).toList ++
    p.plan.conditionals.map (fun c => ("Conditional query (" ++ c.aliasName ++ ")", c.query)) ++
    (p.sampleQuery.map fun q => ("Sample query", q)).toList

def showQueries (p : Planned) (pretty : Bool) : Except Query.Fault String := do
  let shown ← (titledQueries p).mapM fun (title, query) => do
    let query ← if pretty then Console.code <$> Query.readable query else pure query
    return title ++ "\n" ++ query ++ "\n\n"
  return String.join shown

def runPlan (w : Surroundings) (s : Selection) (pretty : Bool) : Run String := do
  let settings ← settings w
  let planned ← onService w settings s none fun v => v.plan w.clock (request s)
  Session.ofExcept (fun _ => .tangled) (showQueries planned pretty)

def runDescribe (w : Surroundings) (environment object : String) (cacheMinutes : Option Int)
    (registryFile : Option Path) : Run String := do
  let settings ← settings w
  let e ← connect w (← registry settings registryFile) environment
  let c ← openCache settings cacheMinutes
  let o := Discovery.describe e.environment.toSchemaSource c w.clock object Database.State.closed
  report o.events
  finish e o.state
  keepCache settings o.cache
  let schema ← Session.ofExcept (ofServiceError ∘ .description) o.result
  Session.ofExcept .markup (Console.printTables [Console.schemaTable e.name schema])

def runCommand (w : Surroundings) : Command → Run String
  | .compare s format outputFile title timeout => runCompare w s format outputFile title timeout
  | .plan s pretty => runPlan w s pretty
  | .describe environment object cacheMinutes registryFile =>
    runDescribe w environment object cacheMinutes registryFile

/-- Runs the command that arguments spell. -/
def run (w : Surroundings) (folder : Folder) (arguments : List String) : Ending :=
  let start : Progress := ⟨folder, [], []⟩
  match Command.ofArguments? arguments with
  | none => ⟨.error .usage, start⟩
  | some c => let (result, progress) := runCommand w c start; ⟨result, progress⟩

/-- The files that a command may look at. -/
def filesOf (s : Settings) : Command → List Path
  | .compare c _ outputFile _ _ =>
    [c.registryFile.getD s.registryFile, .ofText c.source, .ofText c.target, s.cacheFile] ++
      outputFile.toList
  | .plan c _ =>
    [c.registryFile.getD s.registryFile, .ofText c.source, .ofText c.target, s.cacheFile]
  | .describe environment _ _ registryFile =>
    [registryFile.getD s.registryFile, .ofText environment, s.cacheFile]

/-- The environments that a command names. -/
def environmentsOf : Command → List String
  | .compare c _ _ _ _ => [c.source, c.target]
  | .plan c _ => [c.source, c.target]
  | .describe environment _ _ _ => [environment]

/-- The databases behind the environments that a command names. -/
def databasesOf (s : Settings) (f : Folder) (c : Command) : List String :=
  match Registry.load f ((filesOf s c).headD s.registryFile) with
  | .error _ => []
  | .ok r => (environmentsOf c).filterMap fun name =>
      (r.resolve f name).toOption.map (·.database)

/-- What a run prints: its output, or what the user is told. -/
def Ending.printed (e : Ending) : Option String :=
  match e.result with
  | .ok s => some s
  | .error (.told message) =>
    (Console.print ("[red]" ++ Console.escape message ++ "[/red]")).toOption
  | .error _ => none

end Program
end CrossCheck
