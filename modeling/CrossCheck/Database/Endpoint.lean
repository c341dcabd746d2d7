import CrossCheck.Database
import CrossCheck.Database.FieldType
import CrossCheck.Database.Sample
import CrossCheck.Environment
import CrossCheck.Path
import CrossCheck.Query.DateLiteral

/-!
A database as an environment: each table is an object and each column a field.  The connection is
opened by the first statement and can be closed and opened again.
-/

namespace CrossCheck
namespace Database

/-- Why no statement can be made of a query. -/
inductive Untranslated where
  | refused (message : String)
  /-- Too many parts lie within one another. -/
  | tooDeep
deriving DecidableEq

inductive Failure where
  | database (message : String)
  | untranslated (e : Untranslated)
  | objectNotFound (object environment : String)
  /-- A sampled value that signals that it is no number. -/
  | notANumber
  /-- The path can have no name, so the database cannot be told from others. -/
  | unidentified
deriving DecidableEq

namespace Failure

def message : Failure → String
  | database message | untranslated (.refused message) => message
  | objectNotFound object environment =>
    "Object " ++ object ++ " not found in " ++ environment ++ "."
  | untranslated .tooDeep | notANumber | unidentified => ""

end Failure

/-- A place where a database is expected. -/
structure Endpoint where
  name : String
  /-- Missing for a database in memory. -/
  path : Option String
  readOnly : Bool
  /-- Missing where the path can have no name. -/
  environmentId : Option String
  /-- The statement that a query becomes once its dates have types. -/
  translate : String → Except Untranslated String
  /-- Missing if there is none that could be opened. -/
  database : Option Database

/-- What the open connection was told, and everything that has happened. -/
structure State where
  connection : Option (List Request)
  requests : List Request
  events : List Event

namespace State

def closed : State := ⟨none, [], []⟩

def noted (s : State) (r : Request) : State :=
  { s with requests := s.requests ++ [r], connection := s.connection.map (· ++ [r]) }

end State

def memoryPath : String := ":memory:"

/-- The version that the schemas of all databases have. -/
def schemaVersion : String := "0.0.0"

abbrev Step (α : Type) := Session State Failure α

namespace Endpoint

/-- An empty path is no path, and an empty name gives way to the file's.  Queries need no
translation. -/
def make (directory : Path) (path name : Option String) (readOnly : Bool)
    (database : Option Database) : Endpoint :=
  let path := path.filter (· ≠ "")
  let name := match name.filter (· ≠ "") with
    | some name => name
    | none => match path with
      | some p => (Path.ofText p).stem
      | none => "memory"
  { name, path, database,
    translate := .ok
    readOnly := readOnly && path.isSome,
    environmentId := match path with
      | some p =>
        let p := Path.ofText p
        if p.isNameable then some ("duckdb:" ++ (Path.resolve directory p).text) else none
      | none => some ("duckdb:memory:" ++ name) }

variable (e : Endpoint)

/-- What tells this database from others. -/
def identity : Step String :=
  match e.environmentId with
  | some id => return id
  | none => throw .unidentified

def note (r : Request) : Step Unit := modify fun s => s.noted r

def report (event : Event) : Step Unit := modify fun s => { s with events := s.events ++ [event] }

/-- The database behind an open connection. -/
def connected : Step Database := do
  let path := e.path.getD memoryPath
  match e.database with
  | none => throw (.database ("cannot open " ++ path))
  | some db =>
    if (← get).connection.isNone then
      note (.connect path e.readOnly)
      modify fun s => { s with connection := some [] }
    return db

def run (sql : String) (parameters : List Value) : Step ResultSet := do
  let db ← e.connected
  let told := (← get).connection.getD []
  note (.execute sql parameters)
  Session.ofExcept .database (db.answer told sql parameters)

def executedEvent (sql : String) (count : Nat) : Event :=
  ⟨.debug, "query_executed",
    [("environment", .text e.name), ("sql", .text sql), ("row_count", .int count)]⟩

/-- Runs a statement as it stands. -/
def execute (sql : String) (parameters : List Value) : Step ResultSet := do
  let r ← e.run sql parameters
  report (e.executedEvent sql r.records.length)
  return r

def statement (query : String) : Step String :=
  Session.ofExcept .untranslated (Query.statementBy e.translate query)

def aggregate (query : String) : Step Record := do
  let r ← e.execute (← e.statement query) []
  return r.records.head?.getD []

def sample (query : String) : Step (List Record) := do
  let r ← e.execute (← e.statement query) []
  match r.records.mapM Record.plain? with
  | some rows => return rows
  | none => throw .notANumber

def textAt (row : List Value) (i : Nat) : String :=
  match row[i]? with
  | some (.text s) => s
  | _ => ""

/-- The label of a column is its name with blanks for underscores. -/
def field (column type : String) : Field :=
  let t := FieldType.ofColumn column type
  ⟨column, some (String.ofList (column.toList.map fun c => if c = '_' then ' ' else c)), t.name,
    t.aggregatable, t.name ≠ "base64"⟩

/-- The catalog's spelling of the name goes into the schema. -/
def describe (object : String) : Step ObjectSchema := do
  let found ← e.run tablesQuery [.text (Text.strip object)]
  match found.rows.head? with
  | none => throw (.objectNotFound object e.name)
  | some row =>
    let table := textAt row 0
    let columns ← e.run columnsQuery [.text table]
    return ⟨table, some table, columns.rows.map fun row => field (textAt row 0) (textAt row 1)⟩

/-- Why a table could not be made of data. -/
def emptyDataMessage : String := "Cannot create table from empty data"

/-- Makes a table of at least one row. -/
def createTable (table : String) (columns : List String) (rows : List (List Value)) :
    Step Unit := do
  let marks := ", ".intercalate (List.replicate columns.length "?")
  let _ ← e.run ("CREATE OR REPLACE TABLE " ++ table ++ " (" ++ ", ".intercalate columns ++ ")") []
  let _ ← e.connected
  note (.executeMany ("INSERT INTO " ++ table ++ " VALUES (" ++ marks ++ ")") rows)

def close : Step Unit := do
  if (← get).connection.isSome then
    note .close
    modify fun s => { s with connection := none }

/-- An aggregate query on a connection that is closed afterwards, whatever happens. -/
def aggregateOnce (query : String) : Step Record := fun s =>
  let (result, s) := e.aggregate query s
  (result, (close s).2)

def environment : Environment State Failure where
  environmentId := e.environmentId
  schemaVersion := Database.schemaVersion
  describe := e.describe
  aggregate := e.aggregate
  sample := e.sample
  name := e.name

end Endpoint
end Database
end CrossCheck
