import CrossCheck.Number
import CrossCheck.Number.Reading

/-!
Numbers in documents, settings and arguments.  They are read leniently: a whole number may have
zeros before it and a fraction of zeros after it.
-/

namespace CrossCheck
namespace Lenient

open Text

/-- A digit that may begin a number of several digits, or the sign of one below zero. -/
def opensInt (c : Char) : Bool := ('1' ≤ c && c ≤ '9') || c = '-'

/-- A number without the zeros before it, among which underscores may stand; `last` is the
character of them that was read last. -/
def afterZeros? (last : Char) : List Char → Option (List Char)
  | [] => some [last]
  | '0' :: rest => afterZeros? '0' rest
  | '_' :: rest => afterZeros? '_' rest
  | '.' :: rest => some (last :: '.' :: rest)
  | c :: rest => if opensInt c then some (c :: rest) else none

def dropZeros? : List Char → Option (List Char)
  | '0' :: rest => afterZeros? '0' rest
  | c :: rest => if opensInt c then some (c :: rest) else none
  | [] => none

/-- A number without a fraction of zeros, of which there is at least one. -/
def dropFraction (cs : List Char) : List Char :=
  match cut '.' cs with
  | (whole, some (z :: zs)) => if (z :: zs).all (· = '0') then whole else cs
  | _ => cs

/-- A text without its underscores, none of which stands at an end or beside another. -/
def dropUnderscores? (cs : List Char) : Option (List Char) :=
  if (splitOn '_' cs).any List.isEmpty then none else some (cs.filter (· ≠ '_'))

/-- A whole number of more digits than this is not read. -/
def longestInt : Nat := 4300

/-- A whole number in its plain form: no zero comes before another digit. -/
def plainInt? (cs : List Char) : Option Int :=
  let (negative, digits) := match cs with
    | '-' :: rest => (true, rest)
    | cs => (false, cs)
  if longestInt < digits.length || (digits.length > 1 && digits.head? = some '0') ||
      !digits.all (fun c => '0' ≤ c && c ≤ '9') then none
  else match Reading.takeDigits digits with
    | (n :: ns, []) => some (Reading.signed negative (Reading.ofDigits (n :: ns)))
    | _ => none

/-- A whole number in text: it may have a sign, zeros before it, single underscores and a fraction
of zeros.  Where no sign comes first, a minus may also come after the zeros. -/
def int? (s : String) : Option Int := do
  let (sign, cs) ← match Reading.trimSpace s.toList with
    | '+' :: '-' :: _ => none
    | '+' :: rest => some ([], rest)
    | '-' :: rest => some (['-'], rest)
    | cs => some ([], cs)
  let cs := dropFraction (← dropZeros? cs)
  plainInt? (sign ++ (dropUnderscores? cs).getD cs)

/-- A number of ASCII in its plain form. -/
def plainBinary64? (cs : List Char) : Option Binary64 :=
  if cs.all fun c => c.toNat < 0x80 && c ≠ '_' && !isSpace c then Reading.binary64? cs else none

/-- A number in text.  Blanks may surround it or single underscores may stand within it, but not
both. -/
def binary64? (s : String) : Option Binary64 :=
  (plainBinary64? (Reading.trimSpace s.toList)).or
    ((dropUnderscores? s.toList).bind plainBinary64?)

/-- A whole number where the text spells one, or else a binary one. -/
def number? (s : String) : Option Number := ((int? s).map .int).or ((binary64? s).map .float)

end Lenient
end CrossCheck
