import CrossCheck.Yaml.Form
import CrossCheck.Yaml.Handle

/-!
What sort of thing a node is: said by its tag, or seen by its form.
-/

namespace CrossCheck
namespace Yaml

open Text

inductive Tag where
  | null
  | truth
  | int
  | float
  | bytes
  /-- A day or a moment. -/
  | moment
  | text
  | list
  | mapping
  | set
  /-- A list of names with their values. -/
  | pairs
  /-- The name of a member that stands for the members of its value. -/
  | merge
  /-- The name of a member whose value stands for the whole mapping. -/
  | default
  /-- A sort that no document can use. -/
  | unknown
deriving DecidableEq

namespace Tag

def names : List (String × Tag) :=
  [("null", null), ("bool", truth), ("int", int), ("float", float), ("binary", bytes),
    ("timestamp", moment), ("str", text), ("seq", list), ("map", mapping), ("set", set),
    ("omap", pairs), ("pairs", pairs), ("merge", merge), ("value", default)]

/-- The sort that a whole tag names. -/
def ofText (cs : List Char) : Tag :=
  ((dropStart? commonTag cs).bind fun name => names.lookup (String.ofList name)).getD unknown

/-- The sort that a word is of by its form. -/
def ofForm (cs : List Char) : Tag :=
  let cs := withoutLineEnd cs
  let word := String.ofList cs
  if trueWords.contains word || falseWords.contains word then truth
  else if isFloat cs then float
  else if isInt cs then int
  else if word = "<<" then merge
  else if nullWords.contains word then null
  else if isDay cs || isMoment cs then moment
  else if word = "=" then default
  else if ["!", "&", "*"].contains word then unknown
  else text

/-- Whether a node of this sort has parts, and so cannot be a name. -/
def hasParts (t : Tag) : Bool := [list, mapping, set, pairs].contains t

end Tag
end Yaml
end CrossCheck
