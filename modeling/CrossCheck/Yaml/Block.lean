import CrossCheck.Yaml.Cursor
import CrossCheck.Yaml.Token

/-!
Scalars as blocks of lines: a bar keeps the ends of the lines, and an angle bracket folds them.  The
lines are indented more than the block around them, and what ends the last one can be chosen.
-/

namespace CrossCheck
namespace Yaml

open Text

/-- What becomes of the end of the last line and of the empty lines after it. -/
inductive Chomping where
  | strip
  | clip
  | keep
deriving DecidableEq

/-- The chomping that a sign asks for. -/
def chomping? : List Char → Option (Chomping × List Char)
  | '+' :: cs => some (.keep, cs)
  | '-' :: cs => some (.strip, cs)
  | _ => none

/-- A digit that says how far the lines are indented. -/
def increment? : List Char → Option (Nat × List Char)
  | c :: cs => if '0' ≤ c && c ≤ '9' then some (c.toNat - 0x30, cs) else none
  | [] => none

/-- What the first line says: the chomping and the indentation in either order.  A comment may end
the line. -/
def blockHeader (cs : List Char) : Except Fault (Chomping × Option Nat × List Char) := do
  let (chomping, cs) := match chomping? cs with
    | some (chomping, cs) => (some chomping, cs)
    | none => (none, cs)
  let (increment, cs) := match increment? cs with
    | some (n, cs) => (some n, cs)
    | none => (none, cs)
  let (chomping, cs) := match chomping, increment, chomping? cs with
    | none, some _, some (chomping, cs) => (some chomping, cs)
    | _, _, _ => (chomping, cs)
  if increment = some 0 || !(endsWord cs && cs.head? ≠ some '\t') then .error .malformed
  let cs := match cs.dropWhile (· = ' ') with
    | '#' :: cs => cs.dropWhile fun c => !isBreak c
    | cs => cs
  if cs.isEmpty || cs.head?.any isBreak then return (chomping.getD .clip, increment, cs)
  else .error .malformed

/-- Empty lines before the first line, how far the blanks among them reach, and the cursor after
them. -/
def firstBreaks : (fuel : Nat) → (reached : Nat) → Cursor → List Char × Nat × Cursor
  | 0, reached, c => ([], reached, c)
  | fuel + 1, reached, c =>
    if c.next? = some ' ' then
      let d := c.forward 1
      firstBreaks fuel (max reached d.column) d
    else match c.lineEnd? with
      | none => ([], reached, c)
      | some (mark, d) =>
        let (marks, reached, e) := firstBreaks fuel reached d
        (mark :: marks, reached, e)

/-- Empty lines, of which blanks up to the indentation are no part. -/
def blockBreaks (indent : Nat) : (fuel : Nat) → Cursor → List Char × Cursor
  | 0, c => ([], c)
  | fuel + 1, c =>
    let blanks := (c.rest.takeWhile (· = ' ')).length
    let d := c.forward (min blanks (indent - c.column))
    match d.lineEnd? with
    | none => ([], d)
    | some (mark, e) =>
      let (marks, f) := blockBreaks indent fuel e
      (mark :: marks, f)

/-- Whether a line of the block begins here. -/
def inBlock (indent : Nat) (c : Cursor) : Bool := c.column = indent && !c.rest.isEmpty

def startsBlank (cs : List Char) : Bool := cs.head?.any fun c => c = ' ' || c = '\t'

/-- The lines of a block. -/
structure BlockText where
  text : List Char
  /-- What ends the last line. -/
  lastEnd : List Char
  /-- The empty lines after it. -/
  emptyLines : List Char
  after : Cursor

/-- The lines from here on, after empty lines.  Between lines that begin with blanks nothing is
folded. -/
def blockLines (isFolded : Bool) (indent : Nat) : (fuel : Nat) → (breaks : List Char) → Cursor →
    BlockText
  | 0, breaks, c => ⟨[], [], breaks, c⟩
  | fuel + 1, breaks, c =>
    if !inBlock indent c then ⟨[], [], breaks, c⟩
    else
      let line := c.rest.takeWhile fun ch => !isBreak ch
      let d := c.forward line.length
      let (ended, d) := match d.lineEnd? with
        | some (mark, e) => ([mark], e)
        | none => ([], d)
      let (marks, e) := blockBreaks indent (d.rest.length + 1) d
      if inBlock indent e then
        let folds := isFolded && ended = ['\n'] && !startsBlank line && !startsBlank e.rest
        let between := if !folds then ended else if marks.isEmpty then [' '] else []
        let more := blockLines isFolded indent fuel marks e
        { more with text := breaks ++ line ++ between ++ more.text }
      else ⟨breaks ++ line, ended, marks, e⟩

/-- A scalar from its mark on, in a block around it whose lines are indented by at least
`least`. -/
def blockScalar (least : Nat) (c : Cursor) : Except Fault (List Char × Cursor) := do
  let isFolded := c.next? = some '>'
  let (chomping, increment, rest) ← blockHeader (c.rest.drop 1)
  let c := (c.forward (c.rest.length - rest.length)).forward 1
  let least := max 1 least
  let (breaks, indent, d) := match increment with
    | some n =>
      let indent := least + n - 1
      let (breaks, d) := blockBreaks indent (c.rest.length + 1) c
      (breaks, indent, d)
    | none =>
      let (breaks, reached, d) := firstBreaks (c.rest.length + 1) 0 c
      (breaks, max least reached, d)
  let read := blockLines isFolded indent (d.rest.length + 1) breaks d
  let ending := match chomping with
    | .strip => []
    | .clip => read.lastEnd
    | .keep => read.lastEnd ++ read.emptyLines
  return (read.text ++ ending, read.after)

end Yaml
end CrossCheck
