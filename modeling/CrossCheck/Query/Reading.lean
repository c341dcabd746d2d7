import CrossCheck.Query.Lexeme.Lexer
import CrossCheck.Query.Statement

/-!
The small steps of reading a query: taking a lexeme or leaving it, going back, and finding the part
that a comment belongs to, which is the first one that is complete after it.
-/

namespace CrossCheck
namespace Query

open Text

/-- Why a query cannot be read. -/
inductive Fault
  | malformed
  /-- Too many parts lie within one another. -/
  | tooDeep
deriving DecidableEq

/-- What is left of a query. -/
structure Input where
  rest : List Lexeme
  /-- How many lexemes were taken. -/
  place : Nat
  /-- The comments of the lexeme that was taken last. -/
  last : List Note
  /-- Those of them that belong to no part yet. -/
  notes : List Note
  /-- How much deeper parts may lie. -/
  room : Nat

abbrev Reading := StateT Input (Except Fault)

namespace Reading

def fail {α : Type} : Reading α := throw .malformed

/-- What must not be missing. -/
def given {α : Type} : Option α → Reading α
  | some a => return a
  | none => fail

def current? : Reading (Option Lexeme) := return (← get).rest.head?

def following? : Reading (Option Lexeme) := return (← get).rest[1]?

def isNext (p : Lexeme → Bool) : Reading Bool := return (← current?).any p

def isNextMark (symbol : String) : Reading Bool := isNext (·.isMark symbol)

def isNextWord (w : String) : Reading Bool := isNext (·.isWord w)

def skip : Reading Unit :=
  modify fun s => match s.rest with
    | t :: rest => { s with rest, place := s.place + 1, last := t.notes, notes := t.notes }
    | [] => s

def take? (p : Lexeme → Bool) : Reading (Option Lexeme) := do
  match ← current? with
  | some t => if p t then skip; return some t else return none
  | none => return none

def takes (p : Lexeme → Bool) : Reading Bool := return (← take? p).isSome

def mark (symbol : String) : Reading Bool := takes (·.isMark symbol)

def word (w : String) : Reading Bool := takes (·.isWord w)

/-- One of several words. -/
def oneOf? (ws : List String) : Reading (Option String) := do
  return (← take? fun t => t.keyword?.any ws.contains).bind Lexeme.keyword?

def expect (symbol : String) : Reading Unit := do
  if ← mark symbol then return else fail

/-- Goes back, and leaves the comments of the lexeme before to what comes next. -/
def back (s : Input) : Reading Unit :=
  modify fun now => if now.place = s.place then now else { s with notes := s.last }

/-- Words that follow one another, or none of them. -/
def words (ws : List String) : Reading Bool := do
  let start ← get
  let rec all : List String → Reading Bool
    | [] => return true
    | w :: ws => do
      if ← word w then all ws
      else
        back start
        return false
  all ws

/-- What can be read, or nothing if it cannot. -/
def attempt {α : Type} (p : Reading α) : Reading (Option α) := fun s =>
  match p s with
  | .ok (a, s) => .ok (some a, s)
  | .error .malformed => .ok (none, { s with notes := s.last })
  | .error .tooDeep => .error .tooDeep

/-- A part that takes up so much room. -/
def within {α : Type} (cost : Nat) (p : Reading α) : Reading α := do
  let room := (← get).room
  if room < cost then throw .tooDeep
  modify ({ · with room := room - cost })
  let a ← p
  modify ({ · with room := room })
  return a

def notes : Reading (List Note) := return (← get).notes

/-- The comments that belong to no part yet, which are taken by one then. -/
def takeNotes : Reading (List Note) := do
  let ns ← notes
  modify ({ · with notes := [] })
  return ns

/-- A complete part takes the comments that belong to none yet. -/
def claim (e : Expr) : Reading Expr := return e.withNotes (← takeNotes)

/-- Comments of a part's own, or else those that belong to none yet. -/
def ownNotes (ns : List Note) : Reading (List Note) :=
  if ns.isEmpty then takeNotes else return ns

/-- A part with comments of its own, or else with those that belong to none yet. -/
def claimWith (ns : List Note) (e : Expr) : Reading Expr :=
  if ns.isEmpty then claim e else return e.withNotes ns

/-- Parts separated by commas, any of which may be missing.  A comment after a comma belongs to the
part before it. -/
def placesFrom (part : Reading (Option Expr)) : Nat → Reading (List (Option Expr))
  | 0 => fail
  | fuel + 1 => do
    let e ← part
    if ← mark "," then
      let e ← e.mapM claim
      return e :: (← placesFrom part fuel)
    else return [e]

def places (part : Reading (Option Expr)) : Reading (List (Option Expr)) := do
  placesFrom part ((← get).rest.length + 1)

/-- The parts separated by commas that are not missing. -/
def commas (part : Reading (Option Expr)) : Reading (List Expr) := do
  return (← places part).filterMap id

/-- Parts that follow one another, each of which takes something. -/
def manyFrom {α : Type} (part : Reading (Option α)) : Nat → Reading (List α)
  | 0 => fail
  | fuel + 1 => do
    match ← part with
    | some a => return a :: (← manyFrom part fuel)
    | none => return []

def many {α : Type} (part : Reading (Option α)) : Reading (List α) := do
  manyFrom part ((← get).rest.length + 1)

/-- Parts between parentheses. -/
def wrapped {α : Type} (part : Reading α) : Reading α := do
  expect "("
  let a ← part
  expect ")"
  return a

end Reading
end Query
end CrossCheck
