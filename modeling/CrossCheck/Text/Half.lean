/-!
Halves of characters.  A character beyond the first plane has a form of two units, and a document
may name one of the units alone.  Such a half is kept as a character for private use, in the order
of texts it stands where its unit stands, and two halves side by side are not the whole.
-/

namespace CrossCheck.Text

def isHalfUnit (n : Nat) : Bool := 0xd800 ≤ n && n < 0xe000

/-- The first of the characters that are kept for halves, as if the units began at zero. -/
def halfBase : Nat := 0x100000

/-- The character of a number, which may be a unit. -/
def charOrHalf (n : Nat) : Char := Char.ofNat (if isHalfUnit n then halfBase + n else n)

/-- The unit of a half. -/
def halfUnit? (c : Char) : Option Nat :=
  if isHalfUnit (c.toNat - halfBase) then some (c.toNat - halfBase) else none

/-- The place of a character in the order of texts. -/
def rank (c : Char) : Nat := (halfUnit? c).getD c.toNat

/-- Whether a text comes before another. -/
def precedes : List Char → List Char → Bool
  | _, [] => false
  | [], _ :: _ => true
  | c :: cs, d :: ds => rank c < rank d || (rank c = rank d && precedes cs ds)

end CrossCheck.Text
