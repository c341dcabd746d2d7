import CrossCheck.Text.Basic

/-!
Bytes written in base 64: four characters for three bytes.  Characters that are no digits of the
base are passed over.
-/

namespace CrossCheck.Text
namespace Base64

def digit? (c : Char) : Option Nat :=
  if 'A' ≤ c && c ≤ 'Z' then some (c.toNat - 0x41)
  else if 'a' ≤ c && c ≤ 'z' then some (c.toNat - 0x47)
  else if '0' ≤ c && c ≤ '9' then some (c.toNat + 4)
  else if c = '+' then some 62
  else if c = '/' then some 63
  else none

/-- What a character brings, given the place in its four and what earlier digits leave over. -/
def bytesAt (place carry d : Nat) : List UInt8 × Nat :=
  match place with
  | 0 => ([], d)
  | 1 => ([UInt8.ofNat (carry * 4 + d / 16)], d % 16)
  | 2 => ([UInt8.ofNat (carry * 16 + d / 4)], d % 4)
  | _ => ([UInt8.ofNat (carry * 64 + d)], 0)

/-- The bytes from a place in a four on.  Equals signs in a row that fill up the four end the
text, and without them a four may not be left open. -/
def decodeFrom (place carry signs : Nat) : List Char → Option (List UInt8)
  | [] => if place = 0 then some [] else none
  | c :: cs =>
    if c = '=' then
      if 2 ≤ place && 4 ≤ place + signs + 1 then some []
      else decodeFrom place carry (if 2 ≤ place then signs + 1 else signs) cs
    else match digit? c with
      | none => decodeFrom place carry signs cs
      | some d =>
        let (bytes, carry) := bytesAt place carry d
        (decodeFrom ((place + 1) % 4) carry 0 cs).map (bytes ++ ·)

def decode? (cs : List Char) : Option (List UInt8) := decodeFrom 0 0 0 cs

end Base64
end CrossCheck.Text
