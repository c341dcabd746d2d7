import CrossCheck.Settings.Reference

/-!
Files of assignments, such as `NAME = value`.  A line may begin with `export`, a value may stand
between quotes, and a comment follows `#`.  A name alone takes its value away.  Any other line is
passed over.  A value may refer to variables, and to what was assigned before it.
-/

namespace CrossCheck
namespace Assignments

open Text

def isLineEnd (c : Char) : Bool := c = '\n'

/-- Blanks inside a line. -/
def isGap (c : Char) : Bool := isBlank c && !isLineEnd c

def skipGap (cs : List Char) : List Char := cs.dropWhile isGap

def skipLine (cs : List Char) : List Char := (cs.dropWhile fun c => !isLineEnd c).drop 1

/-- Characters that a backslash escapes, and what they stand for. -/
def unescape? (quote c : Char) : Option Char :=
  if c = '\\' || c = '\'' then some c
  else if quote = '\'' then none
  else if c = '"' then some c
  else if c = 'a' then some '\x07'
  else if c = 'b' then some '\x08'
  else if c = 'f' then some '\x0c'
  else if c = 'n' then some '\n'
  else if c = 'r' then some '\r'
  else if c = 't' then some '\t'
  else if c = 'v' then some '\x0b'
  else none

/-- A value up to its closing quote.  A backslash belongs to the character after it, which does
not close it. -/
def quotedBody? (quote : Char) : List Char → Option (List Char × List Char)
  | [] => none
  | [c] => if c = quote then some ([], []) else none
  | c :: d :: rest =>
    if c = quote then some ([], d :: rest)
    else if c = '\\' then (quotedBody? quote rest).map fun (body, rest) => (c :: d :: body, rest)
    else (quotedBody? quote (d :: rest)).map fun (body, rest) => (c :: body, rest)

def unescapeAll (quote : Char) : List Char → List Char
  | [] => []
  | [c] => [c]
  | c :: d :: rest =>
    if c = '\\' then
      match unescape? quote d with
      | some e => e :: unescapeAll quote rest
      | none => c :: unescapeAll quote (d :: rest)
    else c :: unescapeAll quote (d :: rest)

/-- What stands before a comment, which a blank separates from it. -/
def beforeComment : List Char → List Char
  | [] => []
  | c :: cs =>
    if isBlank c && (cs.dropWhile isBlank).head? = some '#' then [] else c :: beforeComment cs

/-- A value after its equals sign. -/
def value? (afterSign : List Char) : Option (String × List Char) :=
  let cs := skipGap afterSign
  match cs with
  | [] => some ("", [])
  | c :: rest =>
    if c = '\'' || c = '"' then
      (quotedBody? c rest).map fun (body, rest) => (String.ofList (unescapeAll c body), rest)
    else
      let (plain, rest) := span (fun c => !isLineEnd c) afterSign
      some (String.ofList (trim (beforeComment plain)), rest)

def isNamePart (c : Char) : Bool := c ≠ '=' && c ≠ '#' && !isBlank c

/-- A name, or nothing before a comment. -/
def name? (cs : List Char) : Option (Option String × List Char) :=
  match cs with
  | [] => none
  | c :: rest =>
    if c = '#' then some (none, cs)
    else if c = '\'' then
      let (name, after) := span (· ≠ '\'') rest
      if name.isEmpty || after.isEmpty then none else some (some (String.ofList name), after.drop 1)
    else
      let (name, after) := span isNamePart cs
      if name.isEmpty then none else some (some (String.ofList name), after)

def skipExport (cs : List Char) : List Char :=
  match dropStart? "export".toList cs with
  | some (c :: rest) => if isGap c then skipGap rest else cs
  | _ => cs

def skipComment (cs : List Char) : List Char :=
  match skipGap cs with
  | '#' :: rest => rest.dropWhile fun c => !isLineEnd c
  | _ => cs

/-- The end of a line, or of the file. -/
def lineEnd? (cs : List Char) : Option (List Char) :=
  match skipGap cs with
  | [] => some []
  | c :: rest => if isLineEnd c then some rest else none

/-- One line: the name that it gives a value or takes it from, if it is such a line, and what
follows. -/
def line (cs : List Char) : Option (String × Option String) × List Char :=
  match name? (skipExport cs) with
  | none => (none, skipLine (skipExport cs))
  | some (name, rest) =>
    let read := match skipGap rest with
      | '=' :: rest => (value? rest).map fun (v, rest) => (some v, rest)
      | rest => some (none, rest)
    match read with
    | none => (none, skipLine rest)
    | some (value, rest) =>
      match lineEnd? (skipComment rest) with
      | none => (none, skipLine rest)
      | some rest => (name.map fun name => (name, value), rest)

/-- Reads at most `fuel` lines. -/
def readLines : Nat → List Char → List (String × Option String)
  | 0, _ => []
  | fuel + 1, cs =>
    match cs.dropWhile isBlank with
    | [] => []
    | cs =>
      let (assignment, rest) := line cs
      assignment.toList ++ readLines fuel rest

/-- The lines of a file, before which a byte order mark may stand. -/
def ofFile (s : String) : List (String × Option String) :=
  let cs := match unifyLineEnds s.toList with
    | '\ufeff' :: cs => cs
    | cs => cs
  readLines (cs.length + 1) cs

/-- What a line assigns, with values for references.  What was assigned before counts for more than
the variables around. -/
def assign (around : Named (Option String)) (assigned : Named (Option String))
    (m : String × Option String) : Named (Option String) :=
  let vars := assigned.foldl (fun vars (name, v) => vars.set name v) around
  assigned.set m.1 (m.2.map (Reference.expand vars))

/-- The assignments of a file in the order in which their names first come. -/
def read (around : List (String × String)) (s : String) : Named (Option String) :=
  let around := Named.ofList (around.map fun (name, v) => (name, some v))
  (ofFile s).foldl (assign around) []

/-- The variables that a file refers to. -/
def references (s : String) : List String :=
  (ofFile s).flatMap fun (_, v) => (v.map Reference.names).getD []

end Assignments
end CrossCheck
