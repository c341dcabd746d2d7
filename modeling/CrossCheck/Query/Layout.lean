import CrossCheck.Query.Spelling

/-!
How the written parts of a query are laid out: what stays on one line, what is broken over several,
and where comments go.
-/

namespace CrossCheck
namespace Query

open Text

/-- A part of a query as it is written. -/
structure Written where
  /-- What stands between the words that join a chain. -/
  links : List (List Char)
  /-- The part on its own, without the comments behind it. -/
  body : List Char
  /-- The comments behind it. -/
  tail : List Char

namespace Written

def text (w : Written) : List Char := w.body ++ w.tail

/-- A part that is no chain. -/
def plain (body tail : List Char) : Written := ⟨[body ++ tail], body, tail⟩

end Written

namespace Layout

/-- Lines grow to this length, blanks at their start and between parts aside. -/
def lineWidth : Nat := 80

def tooWide (items : List (List Char)) : Bool := items.flatten.length > lineWidth

/-- Stands for the end of a line inside a comment until the query is whole: such lines are not
indented. -/
def heldEnd : Char := '\x00'

def releaseEnds (cs : List Char) : List Char := cs.map fun c => if c = heldEnd then '\n' else c

def indentLines (cs : List Char) : List Char :=
  joinWith ['\n'] ((splitOn '\n' cs).map fun line => ' ' :: ' ' :: line)

/-- Indents all lines but the first. -/
def indentRest (cs : List Char) : List Char :=
  match splitOn '\n' cs with
  | [] => []
  | line :: lines => joinWith ['\n'] (line :: lines.map fun line => ' ' :: ' ' :: line)

def commas (items : List (List Char)) : List Char := joinWith [',', ' '] items

/-- The mark that ends a comment is taken apart inside it. -/
def withoutEndMark : List Char → List Char
  | '*' :: '/' :: cs => '*' :: ' ' :: '/' :: withoutEndMark cs
  | c :: cs => c :: withoutEndMark cs
  | [] => []

/-- A comment, which a blank keeps from its marks. -/
def note (s : Spelling) (n : Note) : List Char :=
  let n := if n.head?.all isBlank then n else ' ' :: n
  let n := withoutEndMark (if n.getLast?.all isBlank then n else n ++ [' '])
  let n := if s.broken then n.map fun c => if c = '\n' then heldEnd else c else n
  "/*".toList ++ n ++ "*/".toList

def notes (s : Spelling) (ns : List Note) : List Char :=
  joinWith [' '] ((ns.filter (!·.isEmpty)).map (note s))

/-- Comments behind a part. -/
def behind (s : Spelling) (ns : List Note) : List Char :=
  if (notes s ns).isEmpty then [] else ' ' :: notes s ns

/-- Comments before a part, on a line of their own where there are several lines. -/
def ahead (s : Spelling) (ns : List Note) : List Char :=
  if (notes s ns).isEmpty then [] else notes s ns ++ [s.separator]

/-- The links of a chain on one line, or one link a line where they are too wide together. -/
def chain (s : Spelling) (links : List (List Char)) : List Char :=
  joinWith [if s.broken && tooWide links then '\n' else ' '] links

/-- Puts a joining word in front of the first link. -/
def joinLink (word : List Char) : List (List Char) → List (List Char)
  | [] => []
  | link :: links => (word ++ ' ' :: link) :: links

/-- A part between parentheses, opened over several lines. -/
def enclosed (s : Spelling) (inner : List Char) : List Char :=
  if s.broken then "(\n".toList ++ indentLines inner ++ "\n)".toList else '(' :: inner ++ [')']

/-- Items between commas on lines of their own. -/
def lines (items : List Written) : List Char :=
  joinWith ['\n'] (items.dropLast.map (fun w => w.body ++ ',' :: w.tail) ++
    (items.getLast?.map Written.text).toList)

/-- Items of a clause. -/
def items (s : Spelling) (items : List Written) : List Char :=
  if s.broken then lines items else commas (items.map Written.text)

/-- Items between parentheses, each on a line of its own where they are too wide together. -/
def listed (s : Spelling) (items : List Written) : List Char :=
  let texts := items.map Written.text
  if s.broken && tooWide (texts.dropLast.map (· ++ [',', ' ']) ++ texts.getLast?.toList) then
    '\n' :: indentLines (lines items) ++ ['\n']
  else commas texts

/-- Arguments, each on a line of its own where they are too wide together. -/
def arguments (s : Spelling) (separator : String) (texts : List (List Char)) : List Char :=
  if s.broken && tooWide texts then
    '\n' :: indentLines (joinWith (separator.toList ++ ['\n']) texts) ++ ['\n']
  else joinWith (separator.toList ++ [' ']) texts

def call (s : Spelling) (function : List Char) (texts : List (List Char)) : List Char :=
  function ++ '(' :: arguments s "," texts ++ [')']

/-- Indents all lines but the first and the last. -/
def indentMiddle (cs : List Char) : List Char :=
  match splitOn '\n' cs with
  | [] => []
  | first :: rest =>
    joinWith ['\n'] (first :: rest.dropLast.map (fun line => ' ' :: ' ' :: line) ++
      rest.getLast?.toList)

/-- The parts of a case on one line, or one part a line where they are too wide together. -/
def cases (s : Spelling) (parts : List (List Char)) : List Char :=
  if s.broken && tooWide parts then indentMiddle (joinWith ['\n'] parts)
  else joinWith [' '] parts

/-- A clause and what it holds: on one line, or the content indented below the word. -/
def clause (s : Spelling) (word : String) (content : List Char) : List Char :=
  if content.isEmpty then word.toList
  else if s.broken then word.toList ++ '\n' :: indentLines content
  else word.toList ++ ' ' :: content

end Layout
end Query
end CrossCheck
