import CrossCheck.Text.Base64
import CrossCheck.Value
import CrossCheck.Yaml.Tag

/-!
The values of scalars by the sorts that they are of.  A text may be taken for a number or a day
that it does not have the form of, if its tag says so.
-/

namespace CrossCheck
namespace Yaml

open Text

def dropGaps (cs : List Char) : List Char := cs.filter (· ≠ '_')

/-- A number of base ten with more digits than this is not read. -/
def longestNumber : Nat := 4300

/-- A whole number of base ten. -/
def decimal (cs : List Char) : Except Fault Int :=
  let (_, body) := Reading.takeSign (Reading.trimSpace cs)
  match Reading.int? cs with
  | some n => if longestNumber < body.length then .error .meaningless else .ok n
  | none => .error .meaningless

/-- A whole number of a base that is a power of two.  The mark of the base may come before it. -/
def ofBase (base : Nat) (mark : Char) (cs : List Char) : Except Fault Int :=
  let (negative, body) := Reading.takeSign (Reading.trimSpace cs)
  let ds := match body with
    | '0' :: c :: ds => if c.toLower = mark then ds else body
    | _ => body
  let digit (c : Char) : Option Nat := ((digitValue? c).or (digitOf? base c)).filter (· < base)
  match ds.mapM digit with
  | some (n :: ns) =>
    .ok (Reading.signed negative ((n :: ns).foldl (fun acc d => acc * base + d) 0))
  | _ => .error .meaningless

/-- A whole number without its sign. -/
def magnitude (cs : List Char) : Except Fault Int :=
  match cs with
  | [] => .error .noDigits
  | ['0'] => .ok 0
  | '0' :: 'b' :: ds => ofBase 2 'b' ds
  | '0' :: 'x' :: ds => ofBase 16 'x' ds
  | '0' :: ds => ofBase 8 'o' ('0' :: ds)
  | cs =>
    if cs.contains ':' then do
      let places ← (splitOn ':' cs).mapM decimal
      return places.foldl (fun acc n => acc * 60 + n) 0
    else decimal cs

def intValue (cs : List Char) : Except Fault Int :=
  let (negative, body) := Reading.takeSign (dropGaps cs)
  (magnitude body).map fun n => if negative then -n else n

def binary64 (cs : List Char) : Except Fault Binary64 :=
  match Reading.binary64? cs with
  | some x => .ok x
  | none => .error .meaningless

/-- The sum of places of base sixty, the last one first; `worth` is that of the next place. -/
def sumOfPlaces (sum : Binary64) (worth : Nat) : List Binary64 → Except Fault Binary64
  | [] => .ok sum
  | x :: xs =>
    match Binary64.ofInt? worth with
    | some w => sumOfPlaces (sum.add (x.mul w)) (worth * 60) xs
    | none => .error .overflow

/-- A binary number without its sign. -/
def floatMagnitude (cs : List Char) : Except Fault Binary64 :=
  if cs = ".inf".toList then .ok (.infinite false)
  else if cs = ".nan".toList then .ok .nan
  else if cs.contains ':' then do
    let places ← (splitOn ':' cs).mapM binary64
    sumOfPlaces (.zero false) 1 places.reverse
  else binary64 cs

def floatValue (cs : List Char) : Except Fault Binary64 :=
  let word := (dropGaps cs).map Char.toLower
  if word.isEmpty then .error .noDigits
  else
    let (negative, body) := Reading.takeSign word
    (floatMagnitude body).map fun x => if negative then x.neg else x

def truthValue (cs : List Char) : Except Fault Bool :=
  let word := String.ofList (cs.map Char.toLower)
  if trueWords.contains word then .ok true
  else if falseWords.contains word then .ok false
  else .error .noTruth

/-- A day, or a moment whose zone is less than a day away from universal time. -/
def momentValue (cs : List Char) : Except Fault Value :=
  match moment? (withoutLineEnd cs) with
  | none => .error .noMoment
  | some m =>
    if !m.date.isValid then .error .meaningless
    else match m.time with
      | none => .ok (.date m.date)
      | some time =>
        if time.isValid && m.zoneMinutes.all fun z => z.natAbs < 1440 then
          .ok (.timestamp ⟨m.date, time, m.zoneMinutes⟩)
        else .error .meaningless

def bytesValue (cs : List Char) : Except Fault (List UInt8) :=
  if cs.any fun c => 0x80 ≤ c.toNat then .error .malformed
  else match Base64.decode? cs with
    | some bytes => .ok bytes
    | none => .error .malformed

/-- The value of a text that is of a sort without parts. -/
def scalarValue (t : Tag) (cs : List Char) : Except Fault Value :=
  match t with
  | .null => .ok .null
  | .truth => (truthValue cs).map .bool
  | .int => (intValue cs).map .int
  | .float => (floatValue cs).map .float
  | .bytes => (bytesValue cs).map .bytes
  | .moment => momentValue cs
  | .text => .ok (.text (String.ofList cs))
  | _ => .error .malformed

end Yaml
end CrossCheck
