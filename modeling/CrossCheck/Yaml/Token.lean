/-!
The tokens of a document: its scalars, its marks, what is said about its nodes, and where blocks
begin and end by indentation.
-/

namespace CrossCheck
namespace Yaml

/-- Why a document has no values. -/
inductive Fault where
  /-- It breaks the rules of the format. -/
  | malformed
  /-- A word is taken for a number, a day or a character, and there is no such thing. -/
  | meaningless
  /-- A place of a number is worth too much. -/
  | overflow
  /-- A word is taken for a truth value and is none. -/
  | noTruth
  /-- A word is taken for a number and has no digits. -/
  | noDigits
  /-- A word is taken for a day or a moment and does not have the form of one. -/
  | noMoment
  /-- Too many nodes lie within one another. -/
  | tooDeep
deriving DecidableEq

/-- A line that says how to read the document. -/
inductive Directive where
  | version (major : Nat)
  /-- Tags with this handle begin with the text. -/
  | handle (name text : List Char)
  | other
deriving DecidableEq

inductive Token where
  | directive (d : Directive)
  | documentStart
  | documentEnd
  | blockList
  | blockMapping
  | blockEnd
  | openList
  | closeList
  | openMapping
  | closeMapping
  | comma
  | dash
  /-- A name follows. -/
  | key
  | value
  /-- The node that follows can be referred to. -/
  | anchor (name : List Char)
  /-- The node of an anchor. -/
  | reference (name : List Char)
  /-- What sort of node follows.  Without a handle the text is all of the tag. -/
  | tag (handle : Option (List Char)) (text : List Char)
  /-- A scalar without quotes may mean something other than its text. -/
  | scalar (plain : Bool) (text : List Char)
  /-- No more tokens can be read. -/
  | broken (f : Fault)
deriving DecidableEq

end Yaml
end CrossCheck
