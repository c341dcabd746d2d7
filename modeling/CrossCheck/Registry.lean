import CrossCheck.Document.Scalar
import CrossCheck.Folder
import CrossCheck.Text.Half
import CrossCheck.Yaml.Reader

/-!
The registry of environments: a file that gives names to databases.  A path in it is relative to
the file.  A database that exists can also be named by its path alone.
-/

namespace CrossCheck

/-- An environment as the registry describes it. -/
structure Registration where
  name : String
  database : String
  readOnly : Bool
deriving DecidableEq

/-- Environments and what they are called in the file.  What is no text is no name that could be
asked for. -/
abbrev Registry := List (Value × Registration)

namespace Registry

inductive Error where
  /-- The file is no text. -/
  | unreadable
  /-- The file is no document with values. -/
  | document (f : Yaml.Fault)
  /-- The file, or its list of environments, is no mapping. -/
  | notAMapping
  /-- An environment, or its database, is of a type that cannot be right. -/
  | wrongType
  /-- An environment is a list of something other than pairs. -/
  | notPairs
  /-- An environment lacks what it needs. -/
  | invalid
  | directory
  /-- No file can have such a name. -/
  | nameTooLong
deriving DecidableEq

abbrev Member := Yaml.Node × Yaml.Node

/-- The characters of a text, or the bytes, or the items of a list, or the names of a mapping. -/
def parts? : Yaml.Node → Option (List Yaml.Node)
  | .scalar (.text s) => some (s.toList.map fun c => .scalar (.text (String.ofList [c])))
  | .scalar (.bytes bs) => some (bs.map fun b => .scalar (.int b.toNat))
  | .list items => some items
  | .mapping members => some (members.map (·.1))
  | .scalar _ => none

/-- Whether a node may be a name. -/
def isName : Yaml.Node → Bool
  | .scalar _ => true
  | _ => false

/-- Two things in a row are a name and its value. -/
def pair (n : Yaml.Node) : Except Error Member :=
  match parts? n with
  | none => .error .wrongType
  | some [name, value] => if isName name then .ok (name, value) else .error .wrongType
  | some _ => .error .notPairs

/-- The members of an environment, which may also be a list of pairs. -/
def membersOf (n : Yaml.Node) : Except Error (List Member) :=
  if !n.isTruthy then .ok []
  else match n with
    | .mapping members => .ok members
    | .list items => do
      let members ← items.mapM pair
      return members.foldl (fun ms m => Yaml.Node.setMember m.1 m.2 ms) []
    | .scalar (.text _) => .error .notPairs
    | .scalar _ => .error .wrongType

/-- The database with its path relative to the registry's directory. -/
def located (directory : Path) (database : Option Yaml.Node) : Except Error (Option Yaml.Node) :=
  match database with
  | none => .ok none
  | some n =>
    if !n.isTruthy then .ok (some n)
    else match n.text? with
      | none => .error .wrongType
      | some s =>
        let p := Path.ofText s
        .ok (some (if p.isAbsolute then n else .scalar (.text (directory.join p).text)))

def scalar? : Yaml.Node → Option Value
  | .scalar v => some v
  | _ => none

/-- The only kind of environment there is. -/
def kind : String := "duckdb"

/-- An environment from its members.  Its name is that of its entry unless a member gives one. -/
def registration? (entry : Yaml.Node) (members : List Member) (database : Option Yaml.Node) :
    Option Registration := do
  let name ← (scalar? ((Yaml.Node.get? "name" members).getD entry)).bind Document.text?
  let type ← match Yaml.Node.get? "type" members with
    | none => some kind
    | some n => n.text?
  let database ← (scalar? (← database)).bind Document.text?
  let readOnly ← match Yaml.Node.get? "read_only" members with
    | none => some true
    | some n => (scalar? n).bind Document.bool?
  if type = kind then return ⟨name, database, readOnly⟩ else none

def ofEntry (directory : Path) (m : Member) : Except Error (Value × Registration) := do
  let members ← membersOf m.2
  let database ← located directory (Yaml.Node.get? "database" members)
  match scalar? m.1, registration? m.1 members database with
  | some name, some r => return (name, r)
  | _, _ => .error .invalid

def ofMembers (directory : Path) (members : List Member) : Except Error Registry := do
  match Yaml.Node.get? "environments" members with
  | none => return []
  | some n =>
    if !n.isTruthy then return []
    else match n with
      | .mapping entries => entries.mapM (ofEntry directory)
      | _ => .error .notAMapping

/-- The levels of a document that tell what a registry holds: the document itself, the list of
environments, an environment, a member of it as a pair, a part of the pair, and whether that is
empty. -/
def levels : Nat := 6

/-- The registry that a document describes; `directory` is the file's. -/
def ofDocument (directory : Path) (document : String) : Except Error Registry :=
  match Yaml.read levels document with
  | .error f => .error (.document f)
  | .ok n =>
    if !n.isTruthy then .ok []
    else match n with
      | .mapping members => ofMembers directory members
      | _ => .error .notAMapping

/-- Loads the registry of a file.  Without a file there are no environments. -/
def load (f : Folder) (p : Path) : Except Error Registry :=
  match f.find p with
  | .missing => .ok []
  | .directory => .error .directory
  | .tooLong => .error .nameTooLong
  | .file (.text document) => ofDocument p.parent document
  | .file (.bytes bs) =>
    match String.fromUTF8? ⟨bs.toArray⟩ with
    | some document => ofDocument p.parent document
    | none => .error .unreadable

/-- The environment of a name. -/
def get? (r : Registry) (name : String) : Option Registration :=
  (r.find? fun m => match m.1 with
    | .text s => s = name
    | _ => false).map (·.2)

def text? : Value → Option String
  | .text s => some s
  | _ => none

def sortedBy {α : Type} (name : α → String) (as : List α) : List α :=
  as.mergeSort fun a b => !Text.precedes (name b).toList (name a).toList

/-- The environments in ascending order of what they are called, as it is shown. -/
def listed (r : Registry) : List (String × Registration) :=
  sortedBy (·.1) (r.map fun m => (m.1.display, m.2))

/-- The names of environments in ascending order, if all of them are texts. -/
def sortedNames? (r : Registry) : Option (List String) :=
  (r.mapM fun m => text? m.1).map (sortedBy id)

/-- Why a name stands for no environment. -/
inductive Unresolved where
  | unknown (name : String) (known : List String)
  /-- The known names cannot be told, because one is no text. -/
  | unnameable
  /-- No file can have such a name. -/
  | nameTooLong
deriving DecidableEq

def unknownMessage (name : String) (known : List String) : String :=
  let known := ", ".intercalate known
  "Unknown environment '" ++ name ++ "' (known: " ++
    (if known = "" then "none configured" else known) ++ ")."

/-- The endings of files that can be named by their path. -/
def databaseSuffixes : List String := [".duckdb", ".db"]

/-- The environment of a registered name, or of the path of a database that exists. -/
def resolve (r : Registry) (f : Folder) (name : String) : Except Unresolved Registration :=
  match r.get? name with
  | some found => .ok found
  | none =>
    let p := Path.ofText name
    let unknown := (r.sortedNames?.map (Unresolved.unknown name)).getD .unnameable
    if databaseSuffixes.contains p.suffix then
      match f.find p with
      | .missing => .error unknown
      | .tooLong => .error .nameTooLong
      | _ => .ok ⟨p.stem, p.text, true⟩
    else .error unknown

end Registry
end CrossCheck
