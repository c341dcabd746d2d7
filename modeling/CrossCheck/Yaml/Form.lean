import CrossCheck.Calendar
import CrossCheck.Number.Reading
import CrossCheck.Yaml.Written

/-!
The forms by which plain words of a document are taken for nothing, a truth value, a number, a day
or a moment.  There may be no such thing of the right form.
-/

namespace CrossCheck
namespace Yaml

open Text

def isDigit (c : Char) : Bool := '0' ≤ c && c ≤ '9'

def isDigitOrGap (c : Char) : Bool := isDigit c || c = '_'

def nullWords : List String := ["", "~", "null", "Null", "NULL"]

/-- Only these spellings of each word are truth values. -/
def trueWords : List String := ["yes", "Yes", "YES", "true", "True", "TRUE", "on", "On", "ON"]

def falseWords : List String := ["no", "No", "NO", "false", "False", "FALSE", "off", "Off", "OFF"]

/-! ## Numbers -/

/-- Whether a word is a later place of a number in base sixty. -/
def isPlace : List Char → Bool
  | [d] => isDigit d
  | [t, d] => '0' ≤ t && t ≤ '5' && isDigit d
  | _ => false

/-- Whether a word begins as a number in base ten without zeros before it. -/
def isWhole : List Char → Bool
  | c :: cs => '1' ≤ c && c ≤ '9' && cs.all isDigitOrGap
  | [] => false

def isOfBase (base : Nat) (cs : List Char) : Bool :=
  !cs.isEmpty && cs.all fun c => c = '_' || (digitOf? base c).isSome

/-- A whole number without its sign.  A leading zero marks base eight, and colons stand between
places of base sixty. -/
def isMagnitude (cs : List Char) : Bool :=
  match cs with
  | ['0'] => true
  | '0' :: 'b' :: ds => isOfBase 2 ds
  | '0' :: 'x' :: ds => isOfBase 16 ds
  | '0' :: ds => isOfBase 8 ds
  | cs =>
    match splitOn ':' cs with
    | first :: places => isWhole first && places.all isPlace
    | [] => false

def isInt (cs : List Char) : Bool := isMagnitude (Reading.takeSign cs).2

/-- An exponent has a sign. -/
def isExponent : List Char → Bool
  | [] => true
  | e :: sign :: ds =>
    (e = 'e' || e = 'E') && (sign = '+' || sign = '-') && !ds.isEmpty && ds.all isDigit
  | _ => false

/-- A number with a point.  Without digits before the point there is no sign. -/
def isPointed (cs : List Char) : Bool :=
  let body := (Reading.takeSign cs).2
  let (whole, rest) := span isDigitOrGap body
  match rest with
  | '.' :: rest =>
    let (fraction, rest) := span isDigitOrGap rest
    (if whole.isEmpty then body = cs && fraction.head?.any isDigit else whole.head?.any isDigit) &&
      isExponent rest
  | _ => false

/-- Places of base sixty, the last of which has a point. -/
def isPointedInSixty (cs : List Char) : Bool :=
  let (places, rest) := span (· ≠ '.') cs
  match splitOn ':' places, rest with
  | first :: place :: others, _ :: fraction =>
    first.head?.any isDigit && first.all isDigitOrGap && (place :: others).all isPlace &&
      fraction.all isDigitOrGap
  | _, _ => false

def isFloat (cs : List Char) : Bool :=
  let body := (Reading.takeSign cs).2
  [".inf", ".Inf", ".INF"].contains (String.ofList body) ||
    [".nan", ".NaN", ".NAN"].contains (String.ofList cs) || isPointed cs || isPointedInSixty body

/-! ## Days and moments -/

/-- Four, two and two digits with dashes between them. -/
def isDay (cs : List Char) : Bool :=
  match splitOn '-' cs with
  | [y, m, d] =>
    y.length = 4 && m.length = 2 && d.length = 2 && (y ++ m ++ d).all isDigit
  | _ => false

/-- The parts of a moment. -/
structure WrittenMoment where
  date : Date
  /-- Without a time it is a day. -/
  time : Option TimeOfDay
  zoneMinutes : Option Int

def isBlankOrTab (c : Char) : Bool := c = ' ' || c = '\t'

/-- One or two digits at the start of a text. -/
def shortDigits? (cs : List Char) : Option (Nat × List Char) :=
  let taken := (cs.takeWhile isDigit).take 2
  if taken.isEmpty then none else (natOf? 10 taken).map fun n => (n, cs.drop taken.length)

/-- So many digits after a mark. -/
def digitsAfter? (mark : Char) (count : Nat) : List Char → Option (Nat × List Char)
  | c :: cs =>
    let taken := cs.take count
    if c = mark && taken.length = count && taken.all isDigit then
      (natOf? 10 taken).map fun n => (n, cs.drop count)
    else none
  | [] => none

/-- The distance from universal time in minutes, which may be left out. -/
def zone? (cs : List Char) : Option (Option Int) :=
  match cs.dropWhile isBlankOrTab with
  | [] => if cs.isEmpty then some none else none
  | ['Z'] => some (some 0)
  | sign :: rest =>
    if sign = '+' || sign = '-' then do
      let (hours, rest) ← shortDigits? rest
      let minutes ←
        if rest.isEmpty then some 0
        else match digitsAfter? ':' 2 rest with
          | some (n, []) => some n
          | _ => none
      return some (Reading.signed (sign = '-') (hours * 60 + minutes))
    else none

/-- A fraction of a second in millionths; further digits do not count. -/
def millionths (fraction : List Char) : Nat :=
  (natOf? 10 ((fraction.take 6) ++ List.replicate (6 - fraction.length) '0')).getD 0

/-- A day with one or two digits for the month and the day of it. -/
def shortDay? (cs : List Char) : Option (Date × List Char) := do
  let year := cs.take 4
  if year.length ≠ 4 || !year.all isDigit then none
  let y ← natOf? 10 year
  let afterDash : List Char → Option (Nat × List Char)
    | '-' :: rest => shortDigits? rest
    | _ => none
  let (m, rest) ← afterDash (cs.drop 4)
  let (d, rest) ← afterDash rest
  return (⟨y, m, d⟩, rest)

/-- A clock, perhaps with a fraction of a second. -/
def clock? (cs : List Char) : Option (TimeOfDay × List Char) := do
  let (hour, rest) ← shortDigits? cs
  let (minute, rest) ← digitsAfter? ':' 2 rest
  let (second, rest) ← digitsAfter? ':' 2 rest
  let (fraction, rest) := match rest with
    | '.' :: rest => span isDigit rest
    | rest => ([], rest)
  return (⟨hour, minute, second, millionths fraction⟩, rest)

/-- A day, perhaps with a clock and a zone. -/
def moment? (cs : List Char) : Option WrittenMoment := do
  let (date, rest) ← shortDay? cs
  match rest with
  | [] => return ⟨date, none, none⟩
  | c :: after =>
    let rest ←
      if c = 'T' || c = 't' then some after
      else if isBlankOrTab c then some (rest.dropWhile isBlankOrTab)
      else none
    let (time, rest) ← clock? rest
    return ⟨date, some time, ← zone? rest⟩

def isMoment (cs : List Char) : Bool := (moment? cs).any (·.time.isSome)

/-- A text without the end of its only line, which no form takes into account. -/
def withoutLineEnd (cs : List Char) : List Char :=
  if 1 < cs.length && cs.getLast? = some '\n' then cs.dropLast else cs

end Yaml
end CrossCheck
