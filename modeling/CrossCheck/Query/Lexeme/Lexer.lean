import CrossCheck.Query.Keyword
import CrossCheck.Query.Lexeme

/-!
From characters to lexemes.  A comment belongs to the lexeme before it on its line, or else to the
one after it.
-/

namespace CrossCheck
namespace Query

open Text

structure Lexer where
  /-- The lexemes so far, the last one first. -/
  done : List Lexeme
  /-- Comments that belong to the next lexeme. -/
  waiting : List Note
  line : Nat
  /-- Where the last lexeme ends. -/
  lastLine : Option Nat

namespace Lexer

def start : Lexer := ⟨[], [], 0, none⟩

/-- How many lines end in a text. -/
def lineEnds : List Char → Nat
  | [] => 0
  | '\r' :: '\n' :: cs => lineEnds ('\n' :: cs)
  | c :: cs => (if c = '\n' || c = '\r' then 1 else 0) + lineEnds cs

/-- A comment from its opening mark on, and what follows it.  It ends with its line, or with its
closing mark; without that its last character is lost. -/
def comment? : List Char → Option (Note × List Char)
  | '-' :: '-' :: cs => some (span (fun c => c ≠ '\n' && c ≠ '\r') cs)
  | '#' :: cs => some (span (fun c => c ≠ '\n' && c ≠ '\r') cs)
  | '/' :: '*' :: cs => some (block (cs.drop (if cs.head? = some '+' then 1 else 0)))
  | _ => none
where
  block : List Char → Note × List Char
    | [] => ([], [])
    | '*' :: '/' :: rest => ([], rest)
    | [_] => ([], [])
    | c :: cs => let (note, rest) := block cs; (c :: note, rest)

/-- The text that was taken from the front. -/
def taken (cs rest : List Char) : List Char := cs.take (cs.length - rest.length)

def addNote (s : Lexer) (n : Note) (ended : Nat) : Lexer :=
  match s.done with
  | t :: ts =>
    if s.lastLine = some s.line then
      { s with
        done := { t with notes := t.notes ++ s.waiting ++ [n] } :: ts
        waiting := []
        line := s.line + ended
        lastLine := some (s.line + ended) }
    else { s with waiting := s.waiting ++ [n], line := s.line + ended }
  | [] => { s with waiting := s.waiting ++ [n], line := s.line + ended }

/-- Two words that are one become one, unless a comment stands between them. -/
def joined? (f : Form) : List Lexeme → Option (List Lexeme)
  | t :: ts =>
    match t.keyword?, (Lexeme.mk f []).keyword? with
    | some first, some second =>
      if t.notes.isEmpty && Keyword.pairs.contains (first, second) then
        some (⟨.word (first ++ " " ++ second).toList, []⟩ :: ts)
      else none
    | _, _ => none
  | [] => none

def addForm (s : Lexer) (f : Form) (ended : Nat) : Lexer :=
  let s := { s with line := s.line + ended, lastLine := some (s.line + ended) }
  match if s.waiting.isEmpty then joined? f s.done else none with
  | some done => { s with done }
  | none => { s with done := ⟨f, s.waiting⟩ :: s.done, waiting := [] }

/-- Whether the last lexeme begins a statement whose rest is handed on as it is. -/
def isCommand (s : Lexer) : Bool :=
  match s.done with
  | t :: ts =>
    t.keyword?.any Keyword.commands.contains &&
      (ts.isEmpty || ts.head?.any fun u => u.isMark ";" || u.isWord "BEGIN" || u.isWord "START")
  | [] => false

/-- The lexemes of a text, of which each takes at least one character. -/
def run : Nat → Lexer → List Char → Option Lexer
  | _, s, [] => some s
  | 0, _, _ :: _ => none
  | fuel + 1, s, c :: cs =>
    if isBlank c then
      let ended := if c = '\r' && cs.head? = some '\n' then 0 else lineEnds [c]
      run fuel { s with line := s.line + ended } cs
    else match comment? (c :: cs) with
      | some (n, rest) => run fuel (s.addNote n (lineEnds (taken (c :: cs) rest))) rest
      | none => do
        let (f, rest) ← Form.next? c cs
        let s := s.addForm f (lineEnds (taken (c :: cs) rest))
        if s.isCommand && rest.head? ≠ some ';' then
          let (raw, rest) := span (· ≠ ';') rest
          let raw := trim raw
          run fuel (if raw.isEmpty then s else s.addForm (.text raw) 0) rest
        else run fuel s rest

/-- Comments after the last lexeme belong to it. -/
def finish (s : Lexer) : List Lexeme :=
  match s.done with
  | t :: ts => ({ t with notes := t.notes ++ s.waiting } :: ts).reverse
  | [] => []

end Lexer

def Lexeme.ofText? (cs : List Char) : Option (List Lexeme) :=
  (Lexer.run cs.length .start cs).map Lexer.finish

end Query
end CrossCheck
