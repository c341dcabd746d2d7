import CrossCheck.Number.Decimal

/-!
Arithmetic on measured numbers.  Whole numbers are exact and of any size; everything else is
binary64, and a whole number joins it only if it is not too large.
-/

namespace CrossCheck

inductive ArithmeticError where
  /-- A result, or a number on its way to one, is too large. -/
  | overflow
  /-- A decimal that signals that it is no number. -/
  | invalid
  | zeroDivisor
  /-- A whole number of too many digits to be written out. -/
  | unwritable
deriving DecidableEq

inductive Number where
  | int (n : Int)
  | float (x : Binary64)
deriving DecidableEq

namespace Number

def isZero : Number → Bool
  | int n => n = 0
  | float x => x.isZero

def orOverflow : Option Binary64 → Except ArithmeticError Binary64
  | some x => .ok x
  | none => .error .overflow

def toBinary64 : Number → Except ArithmeticError Binary64
  | float x => .ok x
  | int n => orOverflow (Binary64.ofInt? n)

/-- Two numbers of which one is binary meet as binary ones. -/
def asBinary {α : Type} (f : Binary64 → Binary64 → Except ArithmeticError α) (a b : Number) :
    Except ArithmeticError α := do
  let x ← a.toBinary64
  let y ← b.toBinary64
  f x y

/-- Whole numbers are divided exactly and rounded once. -/
def divide : Number → Number → Except ArithmeticError Binary64
  | int a, int b =>
    if b = 0 then .error .zeroDivisor else orOverflow (Binary64.ofQuotient? a b)
  | a, b => asBinary (fun x y => if y.isZero then .error .zeroDivisor else .ok (x.div y)) a b

def subtract : Number → Number → Except ArithmeticError Number
  | int a, int b => .ok (int (a - b))
  | a, b => asBinary (fun x y => .ok (float (x.sub y))) a b

end Number

namespace Decimal

/-- A whole decimal is exactly that whole number.  An infinite one claims to be whole, and no
whole number is infinite. -/
def toNumber : Decimal → Except ArithmeticError Number
  | finite s c e =>
    if isWhole c e then .ok (.int (wholePart s c e)) else .ok (.float (.ofDecimal s c e))
  | infinite _ => .error .overflow
  | nan _ true _ => .error .invalid
  | nan _ false _ => .ok (.float .nan)

end Decimal
end CrossCheck
