import CrossCheck.Text.Basic
import CrossCheck.Text.Unseen

/-!
Texts and bytes as they are shown inside other texts: between quotes, with what cannot be seen
written out.
-/

namespace CrossCheck.Text

/-- A digit of base sixteen, in small letters. -/
def hexDigit (n : Nat) : Char := Nat.digitChar (n % 16)

/-- The last `width` digits of base sixteen. -/
def hexDigits : Nat → Nat → List Char
  | 0, _ => []
  | width + 1, n => hexDigits width (n / 16) ++ [hexDigit n]

/-- A number behind a backslash, after the letter that tells how many digits it has. -/
def escapeCode (n : Nat) : List Char :=
  if n < 0x100 then '\\' :: 'x' :: hexDigits 2 n
  else if n < 0x10000 then '\\' :: 'u' :: hexDigits 4 n
  else '\\' :: 'U' :: hexDigits 8 n

/-- A single quote, unless the text holds single quotes and no double ones. -/
def chooseQuote (cs : List Char) : Char :=
  if cs.contains '\'' && !cs.contains '"' then '"' else '\''

/-- Tab, line feed and carriage return have names; what else cannot be seen is written by its
number. -/
def escapeUnseen (quote c : Char) : List Char :=
  if c = quote || c = '\\' then ['\\', c]
  else if c = '\t' then ['\\', 't']
  else if c = '\n' then ['\\', 'n']
  else if c = '\r' then ['\\', 'r']
  else if isUnseen c then escapeCode c.toNat
  else [c]

def quoted (cs : List Char) : List Char :=
  let quote := chooseQuote cs
  quote :: cs.flatMap (escapeUnseen quote) ++ [quote]

/-- A byte counts as the character of its number, and every byte past ASCII is written out. -/
def quotedBytes (bytes : List UInt8) : List Char :=
  let cs := bytes.map fun b => Char.ofNat b.toNat
  let quote := chooseQuote cs
  'b' :: quote :: cs.flatMap (fun c =>
    if 0x7f ≤ c.toNat then escapeCode c.toNat else escapeUnseen quote c) ++ [quote]

end CrossCheck.Text
