import CrossCheck.Text.Basic
import CrossCheck.Text.Digit

/-!
Dates and times as they stand in conditions and queries: `2024-03-01`, `2024-03-01T09:30:00Z`.
Only the shape counts: digits may be of any script, and no month or hour is too large.
-/

namespace CrossCheck

open Text

/-- A day, perhaps with a clock and a zone, each as it was written.  The `T` before the clock is
no part of it. -/
structure WrittenTime where
  day : List Char
  clock : Option (List Char)
  zone : Option (List Char)
deriving DecidableEq

namespace WrittenTime

/-- What a reader took, and what it left. -/
abbrev Reading := List Char × List Char

def digits? : Nat → List Char → Option Reading
  | 0, cs => some ([], cs)
  | _ + 1, [] => none
  | n + 1, c :: cs =>
    if isDigit c then (digits? n cs).map fun (ds, rest) => (c :: ds, rest) else none

def mark? (c : Char) : List Char → Option Reading
  | d :: rest => if d = c then some ([c], rest) else none
  | [] => none

/-- One reader after another. -/
def andThen (first second : List Char → Option Reading) (cs : List Char) : Option Reading := do
  let (taken, rest) ← first cs
  let (more, rest) ← second rest
  return (taken ++ more, rest)

def twoDigitsAfter (c : Char) : List Char → Option Reading := andThen (mark? c) (digits? 2)

/-- `yyyy-mm-dd`. -/
def day? : List Char → Option Reading :=
  andThen (digits? 4) (andThen (twoDigitsAfter '-') (twoDigitsAfter '-'))

def minutes? : List Char → Option Reading := andThen (digits? 2) (twoDigitsAfter ':')

def seconds? : List Char → Option Reading := andThen minutes? (twoDigitsAfter ':')

def fraction? (cs : List Char) : Option Reading := do
  let (point, rest) ← mark? '.' cs
  let (ds, rest) := span isDigit rest
  if ds.isEmpty then none else some (point ++ ds, rest)

/-- Every clock that can be read, the longest first. -/
def clocks : List Char → List Reading
  | 'T' :: cs => [andThen seconds? fraction? cs, seconds? cs, minutes? cs].filterMap id
  | _ => []

/-- `Z`, `+hh:mm` or `+hhmm`, and the same with a minus. -/
def zone? (cs : List Char) : Option Reading :=
  match cs with
  | 'Z' :: rest => some (['Z'], rest)
  | sign :: rest =>
    if sign = '+' || sign = '-' then do
      let (hours, rest) ← digits? 2 rest
      let (minutes, rest) ← (twoDigitsAfter ':' rest).or (digits? 2 rest)
      return (sign :: hours ++ minutes, rest)
    else none
  | [] => none

/-- A part that may be left out, leaving it out last. -/
def orWithout (readings : List Reading) (cs : List Char) : List (Option (List Char) × List Char) :=
  readings.map (fun (taken, rest) => (some taken, rest)) ++ [(none, cs)]

/-- Every way to read a time at the start of a text, the longest first. -/
def readings (cs : List Char) : List (WrittenTime × List Char) :=
  match day? cs with
  | none => []
  | some (day, afterDay) =>
    (orWithout (clocks afterDay) afterDay).flatMap fun (clock, afterClock) =>
      (orWithout (zone? afterClock).toList afterClock).map fun (zone, rest) =>
        (⟨day, clock, zone⟩, rest)

/-- Whether the text is a day and nothing else. -/
def isDay (cs : List Char) : Bool := (day? cs).any fun (_, rest) => rest.isEmpty

/-- Whether the text is a day with a clock, perhaps with a zone, and nothing else. -/
def isMoment (cs : List Char) : Bool :=
  (readings cs).any fun (t, rest) => t.clock.isSome && rest.isEmpty

end WrittenTime
end CrossCheck
