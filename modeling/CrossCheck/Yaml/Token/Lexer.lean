import CrossCheck.Yaml.Block
import CrossCheck.Yaml.Property
import CrossCheck.Yaml.Written

/-!
From characters to tokens.  Indentation opens and closes blocks, and a scalar or a bracket turns
out to begin a name when a colon follows it on its line.
-/

namespace CrossCheck
namespace Yaml

/-- A token that may turn out to begin a name. -/
structure Candidate where
  /-- How many tokens come before it. -/
  place : Nat
  /-- Whether nothing but a name can stand there. -/
  required : Bool
  position : Position

/-- What has been read, and what it allows. -/
structure Lexer where
  cursor : Cursor
  tokens : Array Token
  /-- The columns of the open blocks, the innermost first. -/
  blocks : List Nat
  /-- Whether a name may begin here. -/
  mayName : Bool
  /-- The candidate outside brackets. -/
  outside : Option Candidate
  /-- The candidates inside each open bracket, the innermost first. -/
  inside : List (Option Candidate)

namespace Lexer

def ofChars (cs : List Char) : Lexer := ⟨⟨cs, .start⟩, #[], [], true, none, []⟩

/-- Within brackets indentation means nothing. -/
def isBracketed (s : Lexer) : Bool := !s.inside.isEmpty

def push (s : Lexer) (t : Token) : Lexer := { s with tokens := s.tokens.push t }

/-- The lexer after a token of so many characters. -/
def take (s : Lexer) (t : Token) (count : Nat) : Lexer :=
  { s.push t with cursor := s.cursor.forward count }

def candidate? (s : Lexer) : Option Candidate := s.inside.head?.getD s.outside

def setCandidate (s : Lexer) (k : Option Candidate) : Lexer :=
  match s.inside with
  | [] => { s with outside := k }
  | _ :: outer => { s with inside := k :: outer }

/-- What begins here is no name after all. -/
def dropCandidate (s : Lexer) : Except Fault Lexer :=
  if s.candidate?.any (·.required) then .error .malformed else .ok (s.setCandidate none)

/-- What begins here may be a name. -/
def mark (s : Lexer) : Except Fault Lexer :=
  if s.mayName then do
    let required := !s.isBracketed && s.blocks.head? = some s.cursor.column
    return (← s.dropCandidate).setCandidate (some ⟨s.tokens.size, required, s.cursor.position⟩)
  else .ok s

/-- Whether the colon of a candidate can no longer come: it stands on one line with its name, at
most 1024 characters from where the name begins. -/
def isStale (p : Position) (k : Candidate) : Bool :=
  k.position.line ≠ p.line || k.position.index + 1024 < p.index

def dropStale (s : Lexer) : Except Fault Lexer :=
  let stale := isStale s.cursor.position
  if s.outside.any fun k => k.required && stale k then .error .malformed
  else
    let fresh (k : Option Candidate) := k.filter fun k => !stale k
    .ok { s with outside := fresh s.outside, inside := s.inside.map fresh }

/-- Closes the innermost blocks as long as their columns are such. -/
def closeBlocks (s : Lexer) (p : Nat → Bool) : Lexer :=
  if s.isBracketed then s
  else
    { s with
      tokens := s.tokens ++ (s.blocks.takeWhile p).map fun _ => Token.blockEnd
      blocks := s.blocks.dropWhile p }

def insert (s : Lexer) (place : Nat) (t : Token) : Lexer :=
  { s with tokens := (s.tokens.extract 0 place).push t ++ s.tokens.extract place s.tokens.size }

/-- Opens a block in a column, unless one as far to the right is open. -/
def openBlock (s : Lexer) (column place : Nat) (t : Token) : Lexer :=
  if s.isBracketed || s.blocks.head?.any (column ≤ ·) then s
  else { s.insert place t with blocks := column :: s.blocks }

/-- At the next token, with the blocks closed that end before it. -/
def settle (s : Lexer) : Except Fault Lexer := do
  let (c, ended) := s.cursor.skip
  let s := { s with cursor := c, mayName := s.mayName || (ended && !s.isBracketed) }
  return (← s.dropStale).closeBlocks (c.column < ·)

/-- The end of a document closes all blocks. -/
def finish (s : Lexer) : Except Fault Lexer := (s.closeBlocks fun _ => true).dropCandidate

/-- A marker at the start of a line. -/
def marker (s : Lexer) (t : Token) : Except Fault Lexer := do
  return { (← s.finish).take t 3 with mayName := false }

def openBracket (s : Lexer) (t : Token) : Except Fault Lexer := do
  let s ← s.mark
  return { s.take t 1 with mayName := true, inside := none :: s.inside }

def closeBracket (s : Lexer) (t : Token) : Except Fault Lexer :=
  match s.inside with
  | [] => .error .malformed
  | _ :: outer => .ok { s.take t 1 with mayName := false, inside := outer }

def comma (s : Lexer) : Except Fault Lexer := do
  return { (← s.dropCandidate).take .comma 1 with mayName := true }

/-- The mark of an item, which may open a list. -/
def dash (s : Lexer) : Except Fault Lexer := do
  if !s.isBracketed && !s.mayName then .error .malformed
  let s ← (s.openBlock s.cursor.column s.tokens.size .blockList).dropCandidate
  return { s.take .dash 1 with mayName := true }

/-- A question mark says that a name follows. -/
def question (s : Lexer) : Except Fault Lexer := do
  if !s.isBracketed && !s.mayName then .error .malformed
  let s ← (s.openBlock s.cursor.column s.tokens.size .blockMapping).dropCandidate
  return { s.take .key 1 with mayName := !s.isBracketed }

/-- A colon makes a name of the candidate, which may open a mapping. -/
def colon (s : Lexer) : Except Fault Lexer := do
  match s.candidate? with
  | some k =>
    let s := (s.setCandidate none).insert k.place .key
    let s := s.openBlock k.position.column k.place .blockMapping
    return { s.take .value 1 with mayName := false }
  | none =>
    if !s.isBracketed && !s.mayName then .error .malformed
    let s := s.openBlock s.cursor.column s.tokens.size .blockMapping
    return { s.take .value 1 with mayName := !s.isBracketed }

def quotedScalar (s : Lexer) (quote : Char) : Except Fault Lexer := do
  let s ← s.mark
  let (text, c) ← quoted quote s.cursor
  return { s.push (.scalar false text) with cursor := c, mayName := false }

/-- How far to the right the lines of what is in the innermost block begin. -/
def least (s : Lexer) : Nat := (s.blocks.head?.map (· + 1)).getD 0

/-- A plain scalar is indented more than the block that it is in. -/
def plainScalar (s : Lexer) : Except Fault Lexer := do
  let s ← s.mark
  let (text, c, newLine) := plain s.isBracketed s.least s.cursor
  return { s.push (.scalar true text) with cursor := c, mayName := newLine }

/-- A scalar that is a block of lines is never a name. -/
def linesScalar (s : Lexer) : Except Fault Lexer := do
  let s ← s.dropCandidate
  let (text, c) ← blockScalar s.least s.cursor
  return { s.push (.scalar false text) with cursor := c, mayName := true }

/-- What is said about a node may begin a name. -/
def property {α : Type} (s : Lexer) (read : Cursor → Except Fault (α × Cursor)) (t : α → Token) :
    Except Fault Lexer := do
  let s ← s.mark
  let (a, c) ← read s.cursor
  return { s.push (t a) with cursor := c, mayName := false }

/-- A directive closes all blocks. -/
def directiveLine (s : Lexer) : Except Fault Lexer := do
  let s ← s.finish
  let (d, c) ← directive s.cursor
  return { s.push (.directive d) with cursor := c, mayName := false }

/-- The lexer after one more token. -/
def step (s : Lexer) : Except Fault Lexer :=
  let bracketed := s.isBracketed
  if s.cursor.column = 0 && s.cursor.next? = some '%' then s.directiveLine
  else if s.cursor.column = 0 && s.cursor.startsMarker "---" then s.marker .documentStart
  else if s.cursor.column = 0 && s.cursor.startsMarker "..." then s.marker .documentEnd
  else match s.cursor.rest with
    | [] => .error .malformed
    | c :: cs =>
      if c = '[' then s.openBracket .openList
      else if c = '\x7b' then s.openBracket .openMapping
      else if c = ']' then s.closeBracket .closeList
      else if c = '\x7d' then s.closeBracket .closeMapping
      else if c = ',' then s.comma
      else if c = '-' && endsWord cs then s.dash
      else if c = '?' && (bracketed || endsWord cs) then s.question
      else if c = ':' && (bracketed || endsWord cs) then s.colon
      else if c = '*' then s.property anchorName .reference
      else if c = '&' then s.property anchorName .anchor
      else if c = '!' then s.property tag fun (handle, text) => .tag handle text
      else if (c = '|' || c = '>') && !bracketed then s.linesScalar
      else if c = '"' || c = '\'' then s.quotedScalar c
      else if startsPlain bracketed (c :: cs) then s.plainScalar
      else .error .malformed

/-- All tokens.  Each takes at least one character. -/
def run : Nat → Lexer → Array Token
  | 0, s => s.tokens.push (.broken .malformed)
  | fuel + 1, s =>
    match s.settle with
    | .error f => s.tokens.push (.broken f)
    | .ok s =>
      if s.cursor.rest.isEmpty then
        match s.finish with
        | .ok s => s.tokens
        | .error f => s.tokens.push (.broken f)
      else match s.step with
        | .ok s => run fuel s
        | .error f => s.tokens.push (.broken f)

end Lexer

/-- The tokens of a document. -/
def tokens (cs : List Char) : List Token := (Lexer.run (cs.length + 1) (.ofChars cs)).toList

end Yaml
end CrossCheck
