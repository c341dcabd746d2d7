import CrossCheck.Number.Rounding

/-!
Numbers of the IEEE 754 binary64 format in exact integer arithmetic.  A finite magnitude is a
whole number of units of `2 ^ -1074`, every result is the exact one rounded once, and ties go to
the even neighbour.
-/

namespace CrossCheck
namespace Binary64

/-- How many magnitudes are finite. -/
def finiteCount : Nat := 2047 * Nat.pow 2 52

end Binary64

/-- A finite number is a sign and a rank, the place of its magnitude among all finite ones in
ascending order.  Every rank is a number and no two are the same, so equality of the data is
equality of numbers up to the sign of zero. -/
inductive Binary64 where
  | nan
  | infinite (negative : Bool)
  | finite (negative : Bool) (rank : Fin Binary64.finiteCount)
deriving DecidableEq

namespace Binary64

instance : Inhabited Binary64 := ⟨nan⟩

def significand (rank : Nat) : Nat :=
  if rank < Nat.pow 2 52 then rank else Nat.pow 2 52 + rank % Nat.pow 2 52

/-- The lowest two binades share the unit `2 ^ -1074`. -/
def exponent (rank : Nat) : Nat := rank / Nat.pow 2 52 - 1

/-- The magnitude in units of `2 ^ -1074`. -/
def units (rank : Nat) : Nat := significand rank * Nat.pow 2 (exponent rank)

/-- How many units make one.  Its digits are too many to be unfolded along the way. -/
@[irreducible] def unitsPerOne : Nat := Nat.pow 2 1074

/-- The rank nearest to `num / den` units. -/
def nearestRank (num den : Nat) : Nat :=
  let e := Nat.log2 (num / den) - 52
  e * Nat.pow 2 52 + roundHalfEven num (den * Nat.pow 2 e)

/-- The number nearest to `num / den` units, infinite past the largest finite one. -/
def ofUnits (negative : Bool) (num den : Nat) : Binary64 :=
  if h : nearestRank num den < finiteCount then finite negative ⟨nearestRank num den, h⟩
  else infinite negative

def ofRatio (negative : Bool) (num den : Nat) : Binary64 :=
  ofUnits negative (num * unitsPerOne) den

def zero (negative : Bool) : Binary64 := finite negative ⟨0, by decide⟩

/-- The signed count of units, for a finite number. -/
def signedUnits (negative : Bool) (rank : Nat) : Int :=
  if negative then -(units rank : Int) else units rank

def isZero : Binary64 → Bool
  | finite _ rank => rank.val == 0
  | _ => false

def isFinite : Binary64 → Bool
  | finite _ _ => true
  | _ => false

def neg : Binary64 → Binary64
  | nan => nan
  | infinite s => infinite !s
  | finite s rank => finite (!s) rank

/-- Opposite numbers cancel to the positive zero; two negative zeros stay negative. -/
def add : Binary64 → Binary64 → Binary64
  | nan, _ | _, nan => nan
  | infinite s, infinite t => if s = t then infinite s else nan
  | infinite s, finite _ _ => infinite s
  | finite _ _, infinite t => infinite t
  | finite s a, finite t b =>
    let sum := signedUnits s a + signedUnits t b
    if sum = 0 then zero (s && t && a.val == 0) else ofUnits (sum < 0) sum.natAbs 1

def sub (x y : Binary64) : Binary64 := add x (neg y)

def mul : Binary64 → Binary64 → Binary64
  | nan, _ | _, nan => nan
  | infinite s, infinite t => infinite (s != t)
  | infinite s, finite t b => if b.val = 0 then nan else infinite (s != t)
  | finite s a, infinite t => if a.val = 0 then nan else infinite (s != t)
  | finite s a, finite t b => ofUnits (s != t) (units a * units b) unitsPerOne

/-- A zero divisor is refused before it comes to this. -/
def div : Binary64 → Binary64 → Binary64
  | nan, _ | _, nan => nan
  | infinite _, infinite _ => nan
  | infinite s, finite t _ => infinite (s != t)
  | finite s _, infinite t => zero (s != t)
  | finite s a, finite t b =>
    if b.val = 0 then (if a.val = 0 then nan else infinite (s != t))
    else ofUnits (s != t) (units a * unitsPerOne) (units b)

/-- A result that is within the format. -/
def bounded? : Binary64 → Option Binary64
  | infinite _ => none
  | x => some x

/-- A whole number too large for the format has no nearest number. -/
def ofInt? (n : Int) : Option Binary64 := (ofRatio (n < 0) n.natAbs 1).bounded?

/-- The quotient of two whole numbers, rounded once.  A zero quotient keeps the sign of the
divisor. -/
def ofQuotient? (a b : Int) : Option Binary64 :=
  (ofRatio ((a < 0) != (b < 0)) a.natAbs b.natAbs).bounded?

/-- Comparison with a whole number is exact. -/
def leInt (x : Binary64) (n : Int) : Bool :=
  match x with
  | nan => false
  | infinite s => s
  | finite s rank => signedUnits s rank ≤ n * unitsPerOne

/-- Whether a number is exactly that whole number. -/
def isInt (x : Binary64) (n : Int) : Bool :=
  match x with
  | finite s rank => signedUnits s rank = n * unitsPerOne
  | _ => false

/-- Powers of ten past this one are far outside the format, upwards and downwards. -/
@[irreducible] def farPower : Nat := 400

/-- `coefficient * 10 ^ exponent`, rounded once.  Exponents far outside the format are settled
without computing the power. -/
def ofDecimal (negative : Bool) (coefficient : Nat) (exponent : Int) : Binary64 :=
  let top : Int := Nat.log2 coefficient / 3 + exponent
  if coefficient = 0 then zero negative
  else if (farPower : Int) < exponent then infinite negative
  else if top < -(farPower : Int) then zero negative
  else if exponent < 0 then ofRatio negative coefficient (Nat.pow 10 exponent.natAbs)
  else ofRatio negative (coefficient * Nat.pow 10 exponent.natAbs) 1

end Binary64
end CrossCheck
