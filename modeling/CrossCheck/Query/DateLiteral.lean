import CrossCheck.Calendar.Written
import CrossCheck.Text.Word

/-!
Bare dates in queries.  Outside quoted literals a date becomes a typed literal, a date with a
clock a timestamp; the zone is dropped.  What is quoted is never touched.
-/

namespace CrossCheck
namespace Query

open Text

/-- The body of a literal after its opening quote, up to and with the closing one.  A backslash
stands before the character it escapes, which is no line feed. -/
def literalBody? : List Char → Option (List Char × List Char)
  | [] => none
  | '\'' :: rest => some (['\''], rest)
  | '\\' :: c :: rest =>
    if c = '\n' then none
    else (literalBody? rest).map fun (body, rest) => ('\\' :: c :: body, rest)
  | c :: rest =>
    if c = '\\' then none else (literalBody? rest).map fun (body, rest) => (c :: body, rest)

theorem literalBody?_append {cs body rest : List Char} (h : literalBody? cs = some (body, rest)) :
    body ++ rest = cs := by
  fun_induction literalBody? cs generalizing body with
  | case1 => simp at h
  | case2 =>
    obtain ⟨rfl, rfl⟩ := Prod.mk.inj (Option.some.inj h)
    rfl
  | case3 => simp at h
  | case4 c rest' _ ih =>
    obtain ⟨⟨b, r⟩, hb, he⟩ := Option.map_eq_some_iff.1 h
    obtain ⟨rfl, rfl⟩ := Prod.mk.inj he
    simp [ih hb]
  | case5 => simp at h
  | case6 c rest' _ _ _ ih =>
    obtain ⟨⟨b, r⟩, hb, he⟩ := Option.map_eq_some_iff.1 h
    obtain ⟨rfl, rfl⟩ := Prod.mk.inj he
    simp [ih hb]

/-- A part of a query: either a complete literal with its quotes, or anything else. -/
structure Piece where
  quoted : Bool
  chars : List Char
deriving DecidableEq

/-- Puts a character in front of pieces, as a part of the first unless that is quoted. -/
def consPlain (c : Char) : List Piece → List Piece
  | ⟨false, cs⟩ :: pieces => ⟨false, c :: cs⟩ :: pieces
  | pieces => ⟨false, [c]⟩ :: pieces

/-- Splits a query at its literals.  A quote that opens no complete literal is plain. -/
def pieces : List Char → List Piece
  | [] => []
  | c :: cs =>
    if c = '\'' then
      match _h : literalBody? cs with
      | some (body, rest) => ⟨true, '\'' :: body⟩ :: pieces rest
      | none => consPlain c (pieces cs)
    else consPlain c (pieces cs)
termination_by cs => cs.length
decreasing_by
  · have := congrArg List.length (literalBody?_append _h)
    simp only [List.length_append] at this
    simp only [List.length_cons]
    omega
  · simp
  · simp

/-- Characters that a date may touch on neither side. -/
def clings (c : Char) : Bool := c = '\'' || c = '-' || isWord c

/-- The longest date at the start of a text that no further word character follows. -/
def bareTime? (cs : List Char) : Option (WrittenTime × List Char) :=
  (WrittenTime.readings cs).find? fun (_, rest) => !(rest.head?.any clings)

def typedLiteral (t : WrittenTime) : List Char :=
  "CAST('".toList ++ t.day ++
    match t.clock with
    | some clock => ' ' :: clock ++ "' AS TIMESTAMP)".toList
    | none => "' AS DATE)".toList

/-- Types the dates of a plain piece.  `before` is the character to the left, and `skip` counts the
characters of a date that are written already. -/
def typedFrom (before : Option Char) (skip : Nat) : List Char → List Char
  | [] => []
  | c :: cs =>
    match skip with
    | skip + 1 => typedFrom (some c) skip cs
    | 0 =>
      match if before.any clings then none else bareTime? (c :: cs) with
      | some (t, rest) =>
        typedLiteral t ++ typedFrom (some c) (cs.length - rest.length) cs
      | none => c :: typedFrom (some c) 0 cs

/-- A query with its bare dates typed. -/
def typeDatesChars (cs : List Char) : List Char :=
  (pieces cs).flatMap fun p => if p.quoted then p.chars else typedFrom none 0 p.chars

def typeDates (query : String) : String := String.ofList (typeDatesChars query.toList)

/-- The statement that a translation makes of a query.  Dates are typed first. -/
def statementBy {ε : Type} (translate : String → Except ε String) (query : String) :
    Except ε String := translate (typeDates query)

end Query
end CrossCheck
