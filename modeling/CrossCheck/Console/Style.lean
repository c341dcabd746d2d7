import CrossCheck.Console.Color

/-!
Styles such as `bold red on white`.  Several spellings name one style, and a tag closes the last
open tag of the same style, so every style has one written form.
-/

namespace CrossCheck
namespace Console
namespace Style

open Text

/-- The attributes in the order in which they are written. -/
def known : List String :=
  ["bold", "dim", "italic", "underline", "blink", "blink2", "reverse", "conceal", "strike",
   "underline2", "frame", "encircle", "overline"]

/-- Short names of attributes. -/
def short : List (String × String) :=
  [("d", "dim"), ("b", "bold"), ("i", "italic"), ("u", "underline"), ("r", "reverse"),
   ("c", "conceal"), ("s", "strike"), ("uu", "underline2"), ("o", "overline")]

def attribute? (word : String) : Option String :=
  if known.contains word then some word else short.lookup word

end Style

/-- What a style sets; the last setting of each kind counts. -/
structure Style where
  attributes : List (String × Bool)
  color : Option String
  background : Option String
  link : Option String

namespace Style

open Text

def empty : Style := ⟨[], none, none, none⟩

/-- The words between blanks. -/
def words : List Char → List (List Char)
  | [] => []
  | c :: cs =>
    if isBlank c then words cs
    else match cs, words cs with
      | d :: _, word :: more => if isBlank d then [c] :: word :: more else (c :: word) :: more
      | _, more => [c] :: more

def lower (word : List Char) : String := String.ofList (lowerChars word)

/-- Why words are no style. -/
inductive Flaw
  /-- A word means nothing here. -/
  | meaningless
  /-- A part of a colour is no number. -/
  | partMissing
deriving DecidableEq

def colorName (word : List Char) : Except Flaw String :=
  match Color.read (lowerChars word) with
  | .color => .ok (lower word)
  | .noColor => .error .meaningless
  | .partMissing => .error .partMissing

/-- Reads the words of a style. -/
def read (s : Style) : List (List Char) → Except Flaw Style
  | [] => .ok s
  | [word] =>
    if ["on", "not", "link"].contains (lower word) then .error .meaningless
    else match attribute? (lower word) with
      | some a => .ok { s with attributes := (a, true) :: s.attributes }
      | none => (colorName word).map fun c => { s with color := some c }
  | word :: next :: rest =>
    if lower word = "on" then
      match colorName next with
      | .ok c => read { s with background := some c } rest
      | .error e => .error e
    else if lower word = "not" then
      match attribute? (String.ofList next) with
      | some a => read { s with attributes := (a, false) :: s.attributes } rest
      | none => .error .meaningless
    else if lower word = "link" then read { s with link := some (String.ofList next) } rest
    else match attribute? (lower word) with
      | some a => read { s with attributes := (a, true) :: s.attributes } (next :: rest)
      | none =>
        match colorName word with
        | .ok c => read { s with color := some c } (next :: rest)
        | .error e => .error e

/-- The one written form of a style. -/
def write (s : Style) : String :=
  let set := known.filterMap fun a =>
    (s.attributes.lookup a).map fun on => if on then a else "not " ++ a
  let parts := set ++ s.color.toList ++ (s.background.map ("on " ++ ·)).toList ++
    (s.link.map ("link " ++ ·)).toList
  if parts.isEmpty then "none" else " ".intercalate parts

/-- Whether a part of a colour is missing in a style. -/
def isBroken (style : List Char) : Bool :=
  trim style ≠ "none".toList &&
    match read empty (words style) with
    | .error .partMissing => true
    | _ => false

/-- The written form of what a tag names; what is no style stands for itself in small letters.
There is none where a part of a colour is missing. -/
def normalize? (name : List Char) : Option (List Char) :=
  if trim name = "none".toList then some "none".toList
  else match read empty (words name) with
    | .ok s => some s.write.toList
    | .error .meaningless => some (lowerChars (trim name))
    | .error .partMissing => none

end Style
end Console
end CrossCheck
