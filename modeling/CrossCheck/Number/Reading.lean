import CrossCheck.Number.Binary64
import CrossCheck.Text.Basic
import CrossCheck.Text.Digit

/-!
Numbers read from text.  Digits may be of any script, and single underscores may stand between
digits.
-/

namespace CrossCheck
namespace Reading

open Text

/-- The digits at the start of a text, and what follows them. -/
def takeDigits : List Char → List Nat × List Char
  | [] => ([], [])
  | c :: '_' :: d :: rest =>
    match digitValue? c with
    | none => ([], c :: '_' :: d :: rest)
    | some n =>
      if isDigit d then
        let (ns, after) := takeDigits (d :: rest)
        (n :: ns, after)
      else ([n], '_' :: d :: rest)
  | c :: rest =>
    match digitValue? c with
    | none => ([], c :: rest)
    | some n =>
      let (ns, after) := takeDigits rest
      (n :: ns, after)

def ofDigits (ns : List Nat) : Nat := ns.foldl (fun acc n => acc * 10 + n) 0

/-- A leading sign; true stands for minus. -/
def takeSign : List Char → Bool × List Char
  | '-' :: rest => (true, rest)
  | '+' :: rest => (false, rest)
  | cs => (false, cs)

def trimSpace (cs : List Char) : List Char :=
  ((cs.dropWhile isSpace).reverse.dropWhile isSpace).reverse

def signed (negative : Bool) (n : Nat) : Int := if negative then -(n : Int) else n

theorem natAbs_signed (negative : Bool) (n : Nat) : (signed negative n).natAbs = n := by
  cases negative with
  | false => exact Int.natAbs_natCast n
  | true => exact (Int.natAbs_neg n).trans (Int.natAbs_natCast n)

theorem signed_mul (negative : Bool) (m n : Nat) :
    signed negative (m * n) = signed negative m * n := by
  cases negative with
  | false => exact Int.natCast_mul m n
  | true => exact (congrArg Neg.neg (Int.natCast_mul m n)).trans (Int.neg_mul _ _).symm

/-- A whole number with an optional sign. -/
def int? (cs : List Char) : Option Int :=
  let (negative, body) := takeSign (trimSpace cs)
  match takeDigits body with
  | (n :: ns, []) => some (signed negative (ofDigits (n :: ns)))
  | _ => none

/-- The exponent of a decimal number, which may be left out. -/
def exponent? : List Char → Option Int
  | [] => some 0
  | e :: rest =>
    if e = 'e' || e = 'E' then
      let (negative, body) := takeSign rest
      match takeDigits body with
      | (n :: ns, []) => some (signed negative (ofDigits (n :: ns)))
      | _ => none
    else none

/-- A decimal number without its sign: its digits as one whole number, and a power of ten. -/
def scaled? (cs : List Char) : Option (Nat × Int) :=
  let (whole, rest) := takeDigits cs
  let (fraction, rest) :=
    match rest with
    | '.' :: more => takeDigits more
    | _ => ([], rest)
  if whole.isEmpty && fraction.isEmpty then none
  else (exponent? rest).map fun e => (ofDigits (whole ++ fraction), e - fraction.length)

/-- A decimal number, an infinity or not a number, whose words are compared without case. -/
def binary64? (cs : List Char) : Option Binary64 :=
  let (negative, body) := takeSign (trimSpace cs)
  let word := String.ofList (body.map Char.toLower)
  if word = "inf" || word = "infinity" then some (.infinite negative)
  else if word = "nan" then some .nan
  else (scaled? body).map fun (n, e) => .ofDecimal negative n e

end Reading
end CrossCheck
