import CrossCheck.Text.Half
import CrossCheck.Yaml.Cursor
import CrossCheck.Yaml.Token

/-!
Scalars as they are written: without quotes, where the context ends them, or between quotes.  Either
may go on over several lines, whose ends are folded.
-/

namespace CrossCheck
namespace Yaml

open Text

/-- What stands for line ends inside a scalar, the first of which is given apart: a blank for one
line feed, the other line ends themselves for several. -/
def folded (first : Char) (others : List Char) : List Char :=
  if first ≠ '\n' then first :: others else if others.isEmpty then [' '] else others

def isBracketMark (c : Char) : Bool := c = ',' || c = '[' || c = ']' || c = '\x7b' || c = '\x7d'

/-- Whether a colon ends a plain scalar before it. -/
def startsColon (bracketed : Bool) : List Char → Bool
  | ':' :: cs => endsWord cs || (bracketed && cs.head?.any isBracketMark)
  | _ => false

/-- Marks that begin something other than a plain scalar. -/
def indicators : List Char := "-?:,[]\x7b\x7d#&*!|>'\"%@`\t".toList

/-- Three of the marks are plain when something follows them. -/
def startsPlain (bracketed : Bool) : List Char → Bool
  | [] => false
  | c :: cs =>
    !indicators.contains c ||
      ((c = '-' || (!bracketed && (c = '?' || c = ':'))) && !endsWord cs)

/-- A plain scalar up to the next gap. -/
def plainPart (bracketed : Bool) : List Char → List Char
  | [] => []
  | c :: cs =>
    if isGap c || startsColon bracketed (c :: cs) ||
        (bracketed && (c = '?' || isBracketMark c)) then []
    else c :: plainPart bracketed cs

/-- Blanks and line ends up to the next part, or to a marker at the start of a line: what the line
ends are, and the cursor after them. -/
def plainBreaks : Nat → Cursor → List Char × Cursor
  | 0, c => ([], c)
  | fuel + 1, c =>
    if c.isAtMarker then ([], c)
    else
      let d := c.pass (· = ' ')
      match d.lineEnd? with
      | none => ([], d)
      | some (mark, e) => let (marks, f) := plainBreaks fuel e; (mark :: marks, f)

/-- The gap after a part of a plain scalar. -/
structure Gap where
  /-- What stands for the gap inside a scalar. -/
  text : List Char
  after : Cursor
  /-- Whether a line ends in the gap. -/
  newLine : Bool

def plainGap (c : Cursor) : Gap :=
  let blanks := c.rest.takeWhile (· = ' ')
  let d := c.forward blanks.length
  match d.lineEnd? with
  | none => ⟨blanks, d, false⟩
  | some (mark, e) =>
    let (marks, f) := plainBreaks e.rest.length e
    ⟨if f.column = 0 && f.isAtMarker then [] else folded mark marks, f, true⟩

/-- A plain scalar, which goes on while there is more of it in a column of at least `least`.  A
comment ends it.  The cursor is that after the last gap, and the truth value says whether a line
ended there. -/
def plainFrom (bracketed : Bool) (least : Nat) : Nat → Cursor → List Char × Cursor × Bool
  | 0, c => ([], c, false)
  | fuel + 1, c =>
    let part := plainPart bracketed c.rest
    let gap := plainGap (c.forward part.length)
    if gap.text.isEmpty || gap.after.next? = some '#' ||
        (!bracketed && gap.after.column < least) then
      (part, gap.after, gap.newLine)
    else match plainFrom bracketed least fuel gap.after with
      | ([], _) => (part, gap.after, gap.newLine)
      | (more, after) => (part ++ gap.text ++ more, after)

def plain (bracketed : Bool) (least : Nat) (c : Cursor) : List Char × Cursor × Bool :=
  plainFrom bracketed least c.rest.length c

/-- What a character after a backslash stands for. -/
def escaped? (c : Char) : Option Char :=
  [('0', '\x00'), ('a', '\x07'), ('b', '\x08'), ('t', '\t'), ('\t', '\t'), ('n', '\n'),
    ('v', '\x0b'), ('f', '\x0c'), ('r', '\r'), ('e', '\x1b'), (' ', ' '), ('"', '"'), ('\\', '\\'),
    ('/', '/'), ('N', '\x85'), ('_', '\xa0'), ('L', '\u2028'), ('P', '\u2029')].lookup c

/-- How many digits of base sixteen follow a letter. -/
def escapeDigits (c : Char) : Nat :=
  if c = 'x' then 2 else if c = 'u' then 4 else if c = 'U' then 8 else 0

def digitOf? (base : Nat) (c : Char) : Option Nat :=
  let n :=
    if '0' ≤ c && c ≤ '9' then c.toNat - 0x30
    else if 'a' ≤ c && c ≤ 'f' then c.toNat - 0x57
    else if 'A' ≤ c && c ≤ 'F' then c.toNat - 0x37
    else base
  if n < base then some n else none

def natOf? (base : Nat) (cs : List Char) : Option Nat :=
  (cs.mapM (digitOf? base)).map fun ns => ns.foldl (fun acc d => acc * base + d) 0

/-- A character by number, from after the backslash: its value, and how many characters it takes.
The number may be that of a half of a character, and none is larger than `10ffff`. -/
def numbered (cs : List Char) : Except Fault (Char × Nat) :=
  match cs with
  | [] => .error .malformed
  | c :: digits =>
    let count := escapeDigits c
    if count = 0 || digits.length < count then .error .malformed
    else match natOf? 16 (digits.take count) with
      | none => .error .malformed
      | some n => if 0x10ffff < n then .error .meaningless else .ok (charOrHalf n, count + 1)

/-- Blanks and line ends after a line end between quotes, where no marker may stand. -/
def quotedBreaks : Nat → Cursor → Except Fault (List Char × Cursor)
  | 0, c => .ok ([], c)
  | fuel + 1, c =>
    if c.isAtMarker then .error .malformed
    else
      let d := c.pass fun ch => ch = ' ' || ch = '\t'
      match d.lineEnd? with
      | none => .ok ([], d)
      | some (mark, e) => do
        let (marks, f) ← quotedBreaks fuel e
        return (mark :: marks, f)

/-- What a backslash and what follows it stand for, at the cursor after the backslash.  The end of a
line is skipped together with the blanks that follow it. -/
def escape (c : Cursor) : Except Fault (List Char × Cursor) :=
  match c.lineEnd?, c.next?.bind escaped? with
  | some (_, d), _ => quotedBreaks (d.rest.length + 1) d
  | none, some v => .ok ([v], c.forward 1)
  | none, none => do
    let (v, count) ← numbered c.rest
    return ([v], c.forward count)

/-- Blanks and line ends between quotes.  Blanks before the end of a line are dropped. -/
def quotedGap (c : Cursor) : Except Fault (List Char × Cursor) :=
  let blanks := c.rest.takeWhile fun ch => ch = ' ' || ch = '\t'
  let d := c.forward blanks.length
  match d.lineEnd? with
  | none => .ok (blanks, d)
  | some (mark, e) => do
    let (marks, f) ← quotedBreaks (e.rest.length + 1) e
    return (folded mark marks, f)

/-- A scalar after its opening quote.  Between double quotes a backslash escapes; between single
ones a quote is doubled. -/
def quotedFrom (quote : Char) : Nat → Cursor → Except Fault (List Char × Cursor)
  | 0, _ => .error .malformed
  | fuel + 1, c => do
    match c.rest with
    | [] => .error .malformed
    | ch :: cs =>
      if ch = quote && !(quote = '\'' && cs.head? = some quote) then return ([], c.forward 1)
      let (taken, d) ←
        if ch = quote then .ok ([quote], c.forward 2)
        else if ch = '\\' && quote = '"' then escape (c.forward 1)
        else if isGap ch then quotedGap c
        else .ok ([ch], c.forward 1)
      let (more, e) ← quotedFrom quote fuel d
      return (taken ++ more, e)

/-- A scalar between quotes, from its opening quote on. -/
def quoted (quote : Char) (c : Cursor) : Except Fault (List Char × Cursor) :=
  quotedFrom quote c.rest.length (c.forward 1)

end Yaml
end CrossCheck
