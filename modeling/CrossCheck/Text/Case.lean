import CrossCheck.Text.Case.Context
import CrossCheck.Text.Case.Table

/-!
Full letter case.  A capital may have a small form of two characters, a small letter a capital
form of three, and the small form of sigma depends on its place in the word.
-/

namespace CrossCheck.Text

/-- `before` holds the characters to the left, nearest first. -/
def lowerAt (before : List Char) (c : Char) (after : List Char) : List Char :=
  if c.toNat < 0x80 then [c.toLower]
  else if c = '\u03a3' then
    if startsCased before && !startsCased after then ['\u03c2'] else ['\u03c3']
  else if c = '\u0130' then ['i', '\u0307']
  else [mapCase lowerRuns c]

def lowerFrom (before : List Char) : List Char → List Char
  | [] => []
  | c :: rest => lowerAt before c rest ++ lowerFrom (c :: before) rest

def lowerChars (cs : List Char) : List Char := lowerFrom [] cs

def lower (s : String) : String := String.ofList (lowerChars s.toList)

def upperChar (c : Char) : List Char :=
  if c.toNat < 0x80 then [c.toUpper]
  else match upperSequences.find? (·.1 == c.toNat) with
    | some (_, cs) => cs
    | none => [mapCase upperRuns c]

def upperChars (cs : List Char) : List Char := cs.flatMap upperChar

def upper (s : String) : String := String.ofList (upperChars s.toList)

/-- The letter a character stands for where a keyword is compared without regard to case.  Long
s, the Kelvin sign and both Turkish forms of i count as the letters they look like. -/
def foldLetter (c : Char) : Char :=
  if c = '\u017f' then 's'
  else if c = '\u212a' then 'k'
  else if c = '\u0130' || c = '\u0131' then 'i'
  else c.toLower

/-- What is left of `cs` after `word`, which is written in small letters, in any case. -/
def dropKeyword? : (word cs : List Char) → Option (List Char)
  | [], cs => some cs
  | _ :: _, [] => none
  | w :: word, c :: cs => if foldLetter c = w then dropKeyword? word cs else none

def isKeyword (word : String) (cs : List Char) : Bool := dropKeyword? word.toList cs = some []

end CrossCheck.Text
