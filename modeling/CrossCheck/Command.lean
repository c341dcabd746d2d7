import CrossCheck.Number.Lenient
import CrossCheck.Path

/-!
Commands and the arguments that spell them.
-/

namespace CrossCheck

/-- What the commands about two environments have in common. -/
structure Selection where
  source : String
  target : String
  object : String
  metrics : List String
  filter : Option String
  sampleSize : Int
  /-- How long descriptions stay in the cache, if not as the settings say. -/
  cacheMinutes : Option Int
  registryFile : Option Path
deriving DecidableEq

inductive Command where
  /-- Compares and shows a report in a format; the timeout is in minutes. -/
  | compare (s : Selection) (format : String) (outputFile : Option Path) (title : Option String)
      (timeout : Option Binary64)
  /-- Shows the queries of a comparison without running them. -/
  | plan (s : Selection) (pretty : Bool)
  /-- Shows the fields of an object in one environment. -/
  | describe (environment object : String) (cacheMinutes : Option Int) (registryFile : Option Path)
deriving DecidableEq

namespace Command

/-- An option of a command, by its long name and maybe a letter. -/
structure Switch where
  name : String
  letter : Option Char
  takesValue : Bool
deriving DecidableEq

def valued (name : String) : Switch := ⟨name, none, true⟩

def lettered (name : String) (letter : Char) : Switch := ⟨name, some letter, true⟩

def selectionSwitches : List Switch :=
  [lettered "source" 's', lettered "target" 't', valued "object", lettered "metrics" 'm',
   valued "where", valued "sample-size", valued "metadata-cache", valued "config"]

def compareSwitches : List Switch :=
  selectionSwitches ++
    [valued "format", valued "output-file", valued "report-title", valued "timeout"]

def planSwitches : List Switch := selectionSwitches ++ [⟨"pretty", none, false⟩]

def describeSwitches : List Switch :=
  [lettered "env" 'e', valued "object", valued "metadata-cache", valued "config"]

/-- The switch that an argument names, and its value where that is part of the argument:
`--name=value`, or the letter and the value in one word. -/
def switch? (switches : List Switch) (argument : String) : Option (Switch × Option String) :=
  match argument.toList with
  | '-' :: '-' :: rest =>
    let (name, value) := Text.cut '=' rest
    match switches.find? fun s => s.name.toList = name with
    | none => none
    | some s =>
      if value.isSome && !s.takesValue then none else some (s, value.map String.ofList)
  | '-' :: letter :: rest =>
    match switches.find? fun s => s.letter = some letter with
    | none => none
    | some s => some (s, if rest.isEmpty then none else some (String.ofList rest))
  | _ => none

/-- The switches that arguments give, in order and with their values.  No argument may be anything
else; after `--` there may be nothing. -/
def given? (switches : List Switch) : List String → Option (List (String × String))
  | [] => some []
  | "--" :: rest => if rest.isEmpty then some [] else none
  | argument :: rest =>
    match switch? switches argument with
    | none => none
    | some (s, some value) => (given? switches rest).map ((s.name, value) :: ·)
    | some (s, none) =>
      if s.takesValue then
        match rest with
        | [] => none
        | value :: rest => (given? switches rest).map ((s.name, value) :: ·)
      else (given? switches rest).map ((s.name, "") :: ·)

/-- Of a switch given more than once the last value counts. -/
def last? (given : List (String × String)) (name : String) : Option String :=
  (given.reverse.find? fun (n, _) => n = name).map (·.2)

def all (given : List (String × String)) (name : String) : List String :=
  (given.filter fun (n, _) => n = name).map (·.2)

/-- A value that has to be of a form if it is given. -/
def checked? {α : Type} (given : Option String) (read : String → Option α) : Option (Option α) :=
  match given with
  | none => some none
  | some s => (read s).map some

def path? (given : List (String × String)) (name : String) : Option Path :=
  (last? given name).map Path.ofText

/-- A size is not below zero. -/
def size? (s : String) : Option Int := (Lenient.int? s).filter (0 ≤ ·)

def selection? (given : List (String × String)) : Option Selection := do
  return {
    source := ← last? given "source"
    target := ← last? given "target"
    object := ← last? given "object"
    metrics := all given "metrics"
    filter := last? given "where"
    sampleSize := (← checked? (last? given "sample-size") size?).getD 0
    cacheMinutes := ← checked? (last? given "metadata-cache") Lenient.int?
    registryFile := path? given "config" }

def compare? (given : List (String × String)) : Option Command := do
  return .compare (← selection? given) ((last? given "format").getD "table")
    (path? given "output-file") (last? given "report-title")
    (← checked? (last? given "timeout") Lenient.binary64?)

def plan? (given : List (String × String)) : Option Command := do
  return .plan (← selection? given) (last? given "pretty").isSome

def describe? (given : List (String × String)) : Option Command := do
  return .describe (← last? given "env") (← last? given "object")
    (← checked? (last? given "metadata-cache") Lenient.int?) (path? given "config")

/-- The command that a name and arguments spell: none if they spell none. -/
def named? : List String → Option Command
  | "compare" :: rest => (given? compareSwitches rest).bind compare?
  | "plan" :: rest => (given? planSwitches rest).bind plan?
  | "describe" :: rest => (given? describeSwitches rest).bind describe?
  | _ => none

/-- The command that arguments spell.  Before its name `--` may say that no switches follow. -/
def ofArguments? : List String → Option Command
  | "--" :: rest => named? rest
  | arguments => named? arguments

end Command
end CrossCheck
