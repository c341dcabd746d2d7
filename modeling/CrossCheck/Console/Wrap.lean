import CrossCheck.Text.Basic
import CrossCheck.Text.Width

/-!
Breaking texts into lines of a width, which is counted in the cells of a console.  A line breaks
before a word that does not fit and keeps the blanks before the break.
-/

namespace CrossCheck
namespace Console

open Text

def tabWidth : Nat := 8

/-- Joins what stands between tabs, each tab as a blank and more of them up to the next tab stop;
`column` is where the text begins. -/
def joinTabs (column : Nat) : List (List Char) → List Char
  | [] => []
  | [cs] => cs
  | cs :: rest =>
    let reached := column + width cs
    let blanks := tabWidth - reached % tabWidth
    cs ++ List.replicate blanks ' ' ++ joinTabs (reached + blanks) rest

def expandTabs (cs : List Char) : List Char := joinTabs 0 (splitOn '\t' cs)

/-- A word with the blanks after it, and what follows.  The first word of a line has the blanks
before it, too. -/
def splitWord (cs : List Char) : List Char × List Char :=
  let (before, rest) := span isBlank cs
  let (word, rest) := span (fun c => !isBlank c) rest
  let (after, rest) := span isBlank rest
  (before ++ word ++ after, rest)

/-- The words of a line, of which there are at most `fuel`. -/
def words : Nat → List Char → List (List Char)
  | 0, _ => []
  | fuel + 1, cs =>
    if cs.all isBlank then [] else let (word, rest) := splitWord cs; word :: words fuel rest

/-- What becomes of a word that is wider than any line: it is cut over several lines, or goes on a
line of its own whose end is cut off. -/
inductive Overflow
  | fold
  | ellipsis
deriving DecidableEq

/-- Puts characters in front of the first piece. -/
def consPiece (cs : List Char) : List (List Char) → List (List Char)
  | [] => [cs]
  | piece :: pieces => (cs ++ piece) :: pieces

/-- Pieces that are at most so wide; `used` is the width of what the first one begins with. -/
def chop (lineWidth used : Nat) : List Cluster → List (List Char)
  | [] => [[]]
  | c :: cs =>
    if lineWidth < used + c.columns then [] :: consPiece c.chars (chop lineWidth c.columns cs)
    else consPiece c.chars (chop lineWidth (used + c.columns) cs)

/-- Fills lines with words.  `line` is the line so far and `used` its width. -/
def fill (lineWidth : Nat) (overflow : Overflow) : (line : List Char) → (used : Nat) →
    List (List Char) → List (List Char)
  | line, _, [] => [line]
  | line, used, word :: rest =>
    let needed := width (trimRight word)
    if used + needed ≤ lineWidth then
      fill lineWidth overflow (line ++ word) (used + width word) rest
    else if lineWidth < needed then
      match overflow with
      | .fold =>
        let pieces := chop lineWidth 0 (clusters word)
        let last := pieces.getLast?.getD []
        let full := pieces.dropLast
        (if line.isEmpty then full.dropWhile List.isEmpty else line :: full) ++
          fill lineWidth overflow last (width last) rest
      | .ellipsis =>
        (if line.isEmpty then [] else [line]) ++ fill lineWidth overflow word (width word) rest
    else if line.isEmpty || used = 0 then fill lineWidth overflow (line ++ word) used rest
    else line :: fill lineWidth overflow word (width word) rest

/-- Takes blanks from the end of a line that is too long. -/
def cropBlanks (lineWidth : Nat) (line : List Char) : List Char :=
  let kept := (trimRight line).length
  line.take (max kept (min line.length lineWidth))

/-- A line without what is beyond the width.  The ellipsis takes a column of its own. -/
def truncate (lineWidth : Nat) (overflow : Overflow) (line : List Char) : List Char :=
  if width line ≤ lineWidth then line
  else match overflow with
    | .fold => crop lineWidth line
    | .ellipsis => crop (lineWidth - 1) line ++ ['…']

def wrapLine (lineWidth : Nat) (overflow : Overflow) (line : List Char) : List (List Char) :=
  let line := expandTabs line
  let ws := words line.length line
  (if ws.isEmpty then [line] else fill lineWidth overflow [] 0 ws).map (cropBlanks lineWidth)

/-- The lines of a text, each broken where it has to be. -/
def wrap (lineWidth : Nat) (overflow : Overflow) (cs : List Char) : List (List Char) :=
  (splitOn '\n' cs).flatMap (wrapLine lineWidth overflow)

end Console
end CrossCheck
