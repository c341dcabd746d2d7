import CrossCheck.Number.Binary64

/-!
The decimal digits that stand for a binary64 number: the fewest that read back as the same
number, and of those the nearest.
-/

namespace CrossCheck

/-- `digits * 10 ^ exponent`. -/
structure Scientific where
  digits : Nat
  exponent : Int
deriving DecidableEq

namespace Scientific

def digitText (s : Scientific) : List Char := Nat.toDigits 10 s.digits

/-- The power of ten of the first digit. -/
def magnitude (s : Scientific) : Int := s.exponent + s.digitText.length - 1

/-- The same number without trailing zeros in its digits. -/
def dropZeros (s : Scientific) : Scientific :=
  let zeros := (s.digitText.reverse.takeWhile (· == '0')).length
  if s.digits = 0 then s else ⟨s.digits / Nat.pow 10 zeros, s.exponent + zeros⟩

end Scientific

namespace Binary64

/-- No magnitude but zero is below this negative power of ten. -/
@[irreducible] def lowestPower : Nat := 340

/-- The power of ten of the first decimal digit of a magnitude that is not zero. -/
def decimalMagnitude (rank : Nat) : Int :=
  (Nat.toDigits 10 (units rank * Nat.pow 10 lowestPower / unitsPerOne)).length - (lowestPower + 1)

/-- A magnitude as a quotient of whole numbers, divided by `10 ^ p`. -/
def ratioAt (unitCount : Nat) (p : Int) : Nat × Nat :=
  if p < 0 then (unitCount * Nat.pow 10 p.natAbs, unitsPerOne)
  else (unitCount, unitsPerOne * Nat.pow 10 p.natAbs)

/-- Whether `d * 10 ^ p` lies between the midpoints to the two neighbours.  A midpoint itself
reads back only as the even of the two. -/
def readsBackAs (rank : Nat) (d : Nat) (p : Int) : Bool :=
  let twice :=
    if p < 0 then 2 * d * unitsPerOne else 2 * d * Nat.pow 10 p.natAbs * unitsPerOne
  let den := if p < 0 then Nat.pow 10 p.natAbs else 1
  let low := (units (rank - 1) + units rank) * den
  let high := (units rank + units (rank + 1)) * den
  if rank % 2 = 0 then low ≤ twice && twice ≤ high else low < twice && twice < high

/-- The multiple of `10 ^ p` that reads back as the number: of its two neighbours the nearer. -/
def atPrecision? (rank : Nat) (p : Int) : Option Scientific :=
  let (num, den) := ratioAt (units rank) p
  let near := roundHalfEven num den
  let other := if near * den ≤ num then near + 1 else near - 1
  if readsBackAs rank near p then some ⟨near, p⟩
  else if readsBackAs rank other p then some ⟨other, p⟩
  else none

/-- The multiple of `10 ^ p` that is nearest to a magnitude. -/
def roundedAt (rank : Nat) (p : Int) : Scientific :=
  let (num, den) := ratioAt (units rank) p
  ⟨roundHalfEven num den, p⟩

/-- Seventeen digits always read back. -/
def shortest (rank : Nat) : Scientific :=
  let top := decimalMagnitude rank
  let found := (List.range 17).findSome? fun (n : Nat) => atPrecision? rank (top - n)
  (found.getD (roundedAt rank (top - 16))).dropZeros

/-- A magnitude to a fixed count of significant digits. -/
def toSignificant (rank : Nat) (count : Nat) : Scientific :=
  (roundedAt rank (decimalMagnitude rank - (count - 1 : Nat))).dropZeros

end Binary64
end CrossCheck
