import CrossCheck.Text.Basic

/-!
Paths of files.  Doubled slashes and `.` mean nothing and are dropped; `..` stays until a path is
resolved.
-/

namespace CrossCheck

structure Path where
  /-- The leading slashes: none, one, or exactly two. -/
  root : Nat
  parts : List String
deriving DecidableEq

namespace Path

open Text

def rootOf : List Char → Nat
  | '/' :: '/' :: '/' :: _ => 1
  | '/' :: '/' :: _ => 2
  | '/' :: _ => 1
  | _ => 0

def ofText (s : String) : Path :=
  ⟨rootOf s.toList,
    ((splitOn '/' s.toList).map String.ofList).filter fun part => part ≠ "" && part ≠ "."⟩

def isAbsolute (p : Path) : Bool := p.root ≠ 0

/-- Whether something can have this name: no name of a file holds a zero. -/
def isNameable (p : Path) : Bool := p.parts.all fun part => !part.toList.contains '\x00'

/-- The path of nothing is the directory itself. -/
def text (p : Path) : String :=
  if p.root = 0 && p.parts.isEmpty then "."
  else String.ofList (List.replicate p.root '/') ++ "/".intercalate p.parts

def parent (p : Path) : Path := { p with parts := p.parts.dropLast }

/-- An absolute path replaces what it is joined to. -/
def join (p q : Path) : Path := if q.isAbsolute then q else { p with parts := p.parts ++ q.parts }

def name (p : Path) : String := p.parts.getLast?.getD ""

/-- A name before its last dot, and the rest.  A dot that begins or ends the name splits
nothing. -/
def splitSuffix (name : List Char) : List Char × List Char :=
  let tail := (name.reverse.takeWhile (· ≠ '.')).reverse
  let stem := (name.reverse.drop (tail.length + 1)).reverse
  if tail.isEmpty || stem.isEmpty then (name, []) else (stem, '.' :: tail)

def stem (p : Path) : String := String.ofList (splitSuffix p.name.toList).1

def suffix (p : Path) : String := String.ofList (splitSuffix p.name.toList).2

/-- Takes every `..` back with the part before it; at the root there is nothing to take back. -/
def collapse (parts : List String) : List String :=
  parts.foldl (fun kept part => if part = ".." then kept.dropLast else kept ++ [part]) []

/-- The absolute form of a path that is read in `directory`, where nothing is a link.  Two leading
slashes are as good as one. -/
def resolve (directory p : Path) : Path :=
  let joined := directory.join p
  ⟨min joined.root 1, collapse joined.parts⟩

end Path
end CrossCheck
