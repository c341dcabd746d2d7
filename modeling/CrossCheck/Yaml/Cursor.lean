import CrossCheck.Text.Basic

/-!
A place in a document: what is left to read, and where it stands.
-/

namespace CrossCheck
namespace Yaml

open Text

/-- The characters that end a line. -/
def isBreak (c : Char) : Bool := c = '\n' || c = '\x85' || c = '\u2028' || c = '\u2029'

def isGap (c : Char) : Bool := c = ' ' || c = '\t' || isBreak c

/-- Whether nothing but a gap follows. -/
def endsWord (cs : List Char) : Bool := cs.isEmpty || cs.head?.any isGap

/-- How many characters, and how many lines, stand before a place, and how many characters before
it in its line. -/
structure Position where
  index : Nat
  line : Nat
  column : Nat
deriving DecidableEq

namespace Position

def start : Position := ⟨0, 0, 0⟩

/-- The position after a character.  A byte order mark takes no column. -/
def after (p : Position) (c : Char) : Position :=
  if isBreak c then ⟨p.index + 1, p.line + 1, 0⟩
  else ⟨p.index + 1, p.line, if c = '\ufeff' then p.column else p.column + 1⟩

end Position

structure Cursor where
  rest : List Char
  position : Position

namespace Cursor

def next? (c : Cursor) : Option Char := c.rest.head?

def column (c : Cursor) : Nat := c.position.column

/-- The cursor after so many characters. -/
def forward (c : Cursor) (n : Nat) : Cursor :=
  ⟨c.rest.drop n, (c.rest.take n).foldl Position.after c.position⟩

/-- The cursor after all the characters of a kind that come next. -/
def pass (c : Cursor) (p : Char → Bool) : Cursor := c.forward (c.rest.takeWhile p).length

/-- What stands for the line end that comes next, and the cursor after it. -/
def lineEnd? (c : Cursor) : Option (Char × Cursor) :=
  match c.next? with
  | some ch =>
    if isBreak ch then some (if ch = '\x85' then '\n' else ch, c.forward 1) else none
  | none => none

/-- Whether the three characters of a marker come next, and then a gap. -/
def startsMarker (c : Cursor) (marker : String) : Bool :=
  (dropStart? marker.toList c.rest).any endsWord

/-- Whether what comes next begins or ends a document, if it stands at the start of a line. -/
def isAtMarker (c : Cursor) : Bool := c.startsMarker "---" || c.startsMarker "..."

end Cursor

/-- Past blanks, line ends and comments, and whether a line ended. -/
def skipFrom (comment ended : Bool) (p : Position) : List Char → Cursor × Bool
  | [] => (⟨[], p⟩, ended)
  | c :: cs =>
    if isBreak c then skipFrom false true (p.after c) cs
    else if comment || c = ' ' then skipFrom comment ended (p.after c) cs
    else if c = '#' then skipFrom true ended (p.after c) cs
    else (⟨c :: cs, p⟩, ended)

/-- Past what carries no meaning, which at the very start of a document may be a byte order mark. -/
def Cursor.skip (c : Cursor) : Cursor × Bool :=
  let c := if c.position.index = 0 && c.next? = some '\ufeff' then c.forward 1 else c
  skipFrom false false c.position c.rest

/-- Skipping leaves the end of what there was. -/
theorem skipFrom_suffix (comment ended : Bool) (p : Position) (cs : List Char) :
    (skipFrom comment ended p cs).1.rest <:+ cs := by
  induction cs generalizing comment ended p with
  | nil => simp [skipFrom]
  | cons c cs ih =>
    have longer {comment ended : Bool} {p : Position} :
        (skipFrom comment ended p cs).1.rest <:+ c :: cs := (ih ..).trans (List.suffix_cons c cs)
    unfold skipFrom
    split
    · exact longer
    · split
      · exact longer
      · split
        · exact longer
        · exact List.suffix_rfl

end Yaml
end CrossCheck
