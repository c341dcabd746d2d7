import CrossCheck.Number.Binary64
import CrossCheck.Number.Notation

/-!
Decimal numbers with a coefficient and an exponent of their own, as databases return them.
-/

namespace CrossCheck

inductive Decimal where
  /-- `coefficient * 10 ^ exponent` with a sign; zeros of every exponent and sign differ. -/
  | finite (negative : Bool) (coefficient : Nat) (exponent : Int)
  | infinite (negative : Bool)
  | nan (negative : Bool) (signaling : Bool) (payload : Nat)
deriving DecidableEq

namespace Decimal

/-- Whether a finite decimal is a whole number. -/
def isWhole (coefficient : Nat) (exponent : Int) : Bool :=
  0 ≤ exponent || coefficient = 0 ||
    (exponent.natAbs ≤ (natText coefficient).length &&
      coefficient % Nat.pow 10 exponent.natAbs = 0)

/-- The whole number that a decimal is. -/
def wholePart (negative : Bool) (coefficient : Nat) (exponent : Int) : Int :=
  let n : Nat :=
    if coefficient = 0 then 0
    else if 0 ≤ exponent then coefficient * Nat.pow 10 exponent.natAbs
    else coefficient / Nat.pow 10 exponent.natAbs
  if negative then -(n : Int) else n

/-- The nearest binary64 number.  A signaling value has none. -/
def toBinary64? : Decimal → Option Binary64
  | finite s c e => some (.ofDecimal s c e)
  | infinite s => some (.infinite s)
  | nan _ true _ => none
  | nan _ false _ => some .nan

def signText (negative : Bool) : List Char := if negative then ['-'] else []

/-- Positional while the exponent is not positive and at most six zeros follow the point. -/
def finiteText (coefficient : Nat) (exponent : Int) : List Char :=
  let ds := natText coefficient
  let point := exponent + ds.length
  if exponent ≤ 0 && -6 < point then
    if point ≤ 0 then ['0', '.'] ++ List.replicate point.natAbs '0' ++ ds
    else if ds.length ≤ point.natAbs then ds
    else ds.take point.natAbs ++ '.' :: ds.drop point.natAbs
  else
    let e := point - 1
    ds.take 1 ++ (if ds.length ≤ 1 then [] else '.' :: ds.drop 1) ++
      'E' :: (if e < 0 then '-' else '+') :: natText e.natAbs

/-- The digits and the exponent are kept as they are. -/
def text : Decimal → String
  | finite s c e => String.ofList (signText s ++ finiteText c e)
  | infinite s => String.ofList (signText s) ++ "Infinity"
  | nan s signaling payload =>
    String.ofList (signText s ++ (if signaling then ['s'] else []) ++ ['N', 'a', 'N'] ++
      (if payload = 0 then [] else natText payload))

end Decimal
end CrossCheck
