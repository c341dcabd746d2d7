import CrossCheck.Number.Shortest
import CrossCheck.Text.Basic

/-!
How binary64 numbers are written: with their shortest digits, with a fixed number of places, or
with a fixed number of significant digits.
-/

namespace CrossCheck

/-- A comma after every third of the digits, which come in reverse. -/
def commaEveryThree : List Char → List Char
  | a :: b :: c :: d :: rest => a :: b :: c :: ',' :: commaEveryThree (d :: rest)
  | ds => ds

def groupThousands (digits : List Char) : List Char := (commaEveryThree digits.reverse).reverse

def natText (n : Nat) : List Char := Nat.toDigits 10 n

def intText (n : Int) : List Char := if n < 0 then '-' :: natText n.natAbs else natText n.natAbs

/-- Whole numbers of more digits than this are neither read from documents nor stored, nor written
out in place of a date. -/
def longestWhole : Nat := 4300

/-- A whole number with commas between the thousands. -/
def groupedIntText (n : Int) : List Char :=
  let digits := groupThousands (natText n.natAbs)
  if n < 0 then '-' :: digits else digits

/-- The choices of a floating notation: the powers of ten written positionally, whether a whole
number keeps a zero after the point, how an exponent is written, and the words for the rest. -/
structure FloatNotation where
  lowest : Int
  highest : Int
  pointZero : Bool
  exponentSign : Bool
  exponentDigits : Nat
  infinity : String
  notANumber : String

namespace FloatNotation

/-- The notation of values in messages, reports and files: `1000.0`, `1e+16`, `1e-05`. -/
def standard : FloatNotation := ⟨-4, 15, true, true, 2, "inf", "nan"⟩

/-- The standard notation, with the words that a JSON file of the cache uses. -/
def storedJson : FloatNotation := { standard with infinity := "Infinity", notANumber := "NaN" }

/-- The notation of JSON reports: exponents have no padding, and what is no number is null. -/
def reportJson : FloatNotation := ⟨-5, 15, true, true, 1, "null", "null"⟩

/-- Six significant digits at most. -/
def general : FloatNotation := ⟨-4, 5, false, true, 2, "inf", "nan"⟩

def exponentText (style : FloatNotation) (e : Int) : List Char :=
  let digits := natText e.natAbs
  let sign := if e < 0 then ['-'] else if style.exponentSign then ['+'] else []
  'e' :: sign ++ List.replicate (style.exponentDigits - digits.length) '0' ++ digits

/-- The point stands after the first digit, or where the power of ten puts it. -/
def scientificText (style : FloatNotation) (s : Scientific) : List Char :=
  let ds := s.digitText
  let e := s.magnitude
  if s.digits = 0 then if style.pointZero then ['0', '.', '0'] else ['0']
  else if e < style.lowest || style.highest < e then
    match ds with
    | [] => []
    | d :: rest => d :: (if rest.isEmpty then [] else '.' :: rest) ++ style.exponentText e
  else if e < 0 then ['0', '.'] ++ List.replicate (e.natAbs - 1) '0' ++ ds
  else
    let whole := e.natAbs + 1
    if ds.length ≤ whole then
      ds ++ List.replicate (whole - ds.length) '0' ++ (if style.pointZero then ['.', '0'] else [])
    else ds.take whole ++ '.' :: ds.drop whole

/-- `digits` chooses the decimal digits of a magnitude. -/
def text (style : FloatNotation) (digits : Nat → Scientific) : Binary64 → List Char
  | .nan => style.notANumber.toList
  | .infinite s => (if s && style.infinity ≠ "null" then ['-'] else []) ++ style.infinity.toList
  | .finite s rank =>
    (if s then ['-'] else []) ++
      style.scientificText (if rank.val = 0 then ⟨0, 0⟩ else digits rank)

end FloatNotation

namespace Binary64

def text (x : Binary64) : String := String.ofList (FloatNotation.standard.text shortest x)

/-- Six significant digits, without trailing zeros. -/
def generalText (x : Binary64) : String :=
  String.ofList (FloatNotation.general.text (toSignificant · 6) x)

/-- Four places after the point, a half rounded to even, commas between the thousands, and no
trailing zeros or point. -/
def placesText (x : Binary64) : String :=
  match x with
  | nan => "nan"
  | infinite s => if s then "-inf" else "inf"
  | finite s rank =>
    let n := roundHalfEven (units rank * Nat.pow 10 4) unitsPerOne
    let fraction := natText (n % Nat.pow 10 4)
    let padded := List.replicate (4 - fraction.length) '0' ++ fraction
    let kept := (padded.reverse.dropWhile (· == '0')).reverse
    let whole := groupThousands (natText (n / Nat.pow 10 4))
    String.ofList ((if s then ['-'] else []) ++ whole ++ (if kept.isEmpty then [] else '.' :: kept))

end Binary64
end CrossCheck
