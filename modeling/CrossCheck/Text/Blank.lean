import CrossCheck.Text.Ranges

/-!
The blank characters: everything that trimming removes and that separates words.
-/

namespace CrossCheck.Text

/-- The white space of Unicode together with the four information separators.  A zero width
space and a byte order mark are no blanks. -/
def blankRanges : List (Nat × Nat) :=
  [(0x9, 0xd), (0x1c, 0x20), (0x85, 0x85), (0xa0, 0xa0), (0x1680, 0x1680), (0x2000, 0x200a),
   (0x2028, 0x2029), (0x202f, 0x202f), (0x205f, 0x205f), (0x3000, 0x3000)]

def isBlank (c : Char) : Bool := inRanges blankRanges c

/-- White space proper.  Numbers may stand among it, but not among information separators. -/
def isSpace (c : Char) : Bool := isBlank c && !(0x1c ≤ c.toNat && c.toNat ≤ 0x1f)

/-- The letters and digits of ASCII and its visible marks are not blank. -/
theorem isBlank_eq_false_of_visible {c : Char} (h : 0x21 ≤ c.toNat) (h' : c.toNat ≤ 0x84) :
    isBlank c = false := by
  simp [isBlank, inRanges, blankRanges]
  omega

end CrossCheck.Text
