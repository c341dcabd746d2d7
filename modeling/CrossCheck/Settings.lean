import CrossCheck.Document.Scalar
import CrossCheck.Path
import CrossCheck.Settings.Assignments
import CrossCheck.Text.Case

/-!
Settings of the program.  They come from variables whose names begin with `METRICRECON_`, in any
case, and from a file of assignments, over which the variables take precedence.
-/

namespace CrossCheck

structure Settings where
  dataHome : Path
  /-- How long descriptions stay in the cache; zero turns it off. -/
  cacheMinutes : Int
  /-- How long both evaluations may take; zero sets no limit. -/
  timeoutMinutes : Int
  registryFile : Path
  logLevel : String
  logJson : Bool
deriving DecidableEq

namespace Settings

def default (home : Path) : Settings where
  dataHome := home.join (.ofText ".metricrecon")
  cacheMinutes := 10
  timeoutMinutes := 10
  registryFile := .ofText "environments.yaml"
  logLevel := "WARNING"
  logJson := false

/-- The usual spelling of the variables. -/
def variableNames : List String :=
  ["METRICRECON_DATA_HOME", "METRICRECON_METADATA_CACHE_MINUTES", "METRICRECON_TIMEOUT_MINUTES",
   "METRICRECON_ENVIRONMENTS_FILE", "METRICRECON_LOG_LEVEL", "METRICRECON_LOG_JSON"]

def nameStart : String := "metricrecon_"

/-- Variables under small names, a later one over an earlier one. -/
def lowered {α : Type} (vars : List (String × α)) : Named α :=
  Named.ofList (vars.map fun (name, v) => (Text.lower name, v))

/-- The text that a setting is given, if it is.  A name in the file may have no value. -/
def given? (vars : List (String × String)) (assignments : Named (Option String)) (name : String) :
    Option String :=
  ((lowered vars).get? (nameStart ++ name)).or
    ((lowered assignments).get? (nameStart ++ name)).join

/-- A setting that keeps its default where no text is given. -/
def read? {α : Type} (given : Option String) (default : α) (read : String → Option α) : Option α :=
  match given with
  | none => some default
  | some s => read s

def ofVariables? (home : Path) (vars : List (String × String)) (file : Option String) :
    Option Settings := do
  let d := Settings.default home
  let around := ("HOME", home.text) :: vars
  let given := given? vars (Assignments.read around (file.getD ""))
  return {
    dataHome := ← read? (given "data_home") d.dataHome (some ∘ Path.ofText)
    cacheMinutes := ← read? (given "metadata_cache_minutes") d.cacheMinutes Lenient.int?
    timeoutMinutes := ← read? (given "timeout_minutes") d.timeoutMinutes Lenient.int?
    registryFile := ← read? (given "environments_file") d.registryFile (some ∘ Path.ofText)
    logLevel := ← read? (given "log_level") d.logLevel some
    logJson := ← read? (given "log_json") d.logJson Document.boolOfText? }

def cacheFile (s : Settings) : Path := s.dataHome.join (.ofText "metadata-cache.json")

/-- The file of assignments in the working directory. -/
def assignmentsFile : Path := .ofText ".env"

end Settings
end CrossCheck
