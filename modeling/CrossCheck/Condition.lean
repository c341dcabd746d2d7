import CrossCheck.Condition.Literal
import CrossCheck.Text.Word

/-!
Conditions of conditional metrics.  A single comparison with a bare value, such as
`StageName = Closed Won`, gets the quotes it needs.  Anything else stays as written: this is no
expression reader, and whoever writes a complex condition answers for its form.
-/

namespace CrossCheck
namespace Condition

open Text

/-- Longer operators come before their beginnings. -/
def operators : List String := ["!=", "<>", "<=", ">=", "=", "<", ">"]

def startsWithOperator (cs : List Char) : Bool :=
  operators.any fun op => (dropStart? op.toList cs).isSome

def isNameStart (c : Char) : Bool := ('a' ≤ c && c ≤ 'z') || ('A' ≤ c && c ≤ 'Z') || c = '_'

def isNamePart (c : Char) : Bool := isWord c || c = '.'

/-- A word that ends where it should: no further word character follows. -/
def startsWithWord (word : String) (cs : List Char) : Bool :=
  match dropKeyword? word.toList cs with
  | some (c :: _) => !isWord c
  | some [] => true
  | none => false

/-- A name and an operator; `in` and `like` are operators when a blank precedes them. -/
def startsComparison : List Char → Bool
  | [] => false
  | c :: cs =>
    isNameStart (foldLetter c) &&
      let (blanks, rest) := span isBlank (cs.dropWhile isNamePart)
      startsWithOperator rest ||
        (!blanks.isEmpty && (startsWithWord "in" rest || startsWithWord "like" rest))

/-- What follows a word and at least one blank. -/
def afterWord? (word : String) (cs : List Char) : Option (List Char) :=
  match dropKeyword? word.toList cs with
  | some (c :: rest) => if isBlank c then some (rest.dropWhile isBlank) else none
  | _ => none

/-- A comparison, which may be negated. -/
def startsJoined (cs : List Char) : Bool :=
  (afterWord? "not" cs).any startsComparison || startsComparison cs

/-- A blank, `and` or `or`, and a further comparison.  In `Rock and Roll` nothing is compared, so
it is still one value. -/
def startsJunction : List Char → Bool
  | [] => false
  | c :: cs =>
    isBlank c && ((afterWord? "and" cs).any startsJoined || (afterWord? "or" cs).any startsJoined)

def isCompound : List Char → Bool
  | [] => false
  | c :: cs => startsJunction (c :: cs) || isCompound cs

/-- A single comparison, its parts without surrounding blanks. -/
structure Simple where
  field : List Char
  operator : List Char
  value : List Char
deriving DecidableEq

namespace Simple

/-- The operator that leaves a value; where the longest leaves none, a shorter one may. -/
def splitOperator? (cs : List Char) : Option (List Char × List Char) :=
  operators.findSome? fun op =>
    match dropStart? op.toList cs with
    | some rest =>
      let value := rest.dropWhile isBlank
      if value.isEmpty then none else some (op.toList, value)
    | none => none

/-- Reads a trimmed condition. -/
def read? : List Char → Option Simple
  | [] => none
  | c :: cs =>
    if isNameStart c then
      let (more, rest) := span isNamePart cs
      (splitOperator? (rest.dropWhile isBlank)).map fun (op, value) => ⟨c :: more, op, trim value⟩
    else none

def write (c : Simple) : List Char := c.field ++ ' ' :: c.operator ++ ' ' :: c.value

end Simple

/-- Quotes the value of a single comparison unless it is a literal already. -/
def normalizeTrimmed (cs : List Char) : List Char :=
  if isCompound cs then cs
  else match Simple.read? cs with
    | none => cs
    | some c =>
      if Literal.isLiteral c.value then cs else { c with value := Literal.quote c.value }.write

def normalize (condition : String) : String :=
  String.ofList (normalizeTrimmed (trim condition.toList))

end Condition
end CrossCheck
