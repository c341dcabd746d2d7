import CrossCheck.Text.Width.Table

/-!
How many columns of a terminal a text takes.  A joiner hides the character after it, and the mark
of pictures widens the character before it where that can be a picture.
-/

namespace CrossCheck.Text

/-- Characters that nothing is shown for. -/
def isControl (c : Char) : Bool := c.toNat < 0x20 || (0x7f ≤ c.toNat && c.toNat < 0xa0)

def charWidth (c : Char) : Nat :=
  if isControl c || c = '\x00' then 0
  else if c.toNat < 0x300 && c.toNat ≠ 0xad then 1
  else if inRanges overlayRanges c then 0
  else if inRanges wideRanges c then 2
  else 1

def joiner : Char := '\u200d'

def pictureMark : Char := '\ufe0f'

/-- What the mark of pictures adds after a character. -/
def widening (c : Char) : Nat := if inRanges pictureRanges c then 1 else 0

/-- The width of a text; `measured` is the last character before it that takes any column. -/
def widthFrom (measured : Option Char) : List Char → Nat
  | [] => 0
  | [c] =>
    if c = joiner then 0
    else if c = pictureMark then (measured.map widening).getD 0
    else charWidth c
  | c :: d :: cs =>
    if c = joiner then widthFrom measured cs
    else if c = pictureMark then (measured.map widening).getD 0 + widthFrom none (d :: cs)
    else charWidth c + widthFrom (if charWidth c = 0 then measured else some c) (d :: cs)

def width (cs : List Char) : Nat := widthFrom none cs

/-- Characters that are drawn as one, and the columns that they take together. -/
structure Cluster where
  chars : List Char
  columns : Nat
deriving DecidableEq

/-- Adds characters to the last cluster. -/
def extendLast (chars : List Char) (columns : Nat) : List Cluster → List Cluster
  | [] => [⟨chars, columns⟩]
  | last :: before => ⟨last.chars ++ chars, last.columns + columns⟩ :: before

/-- The clusters of a text after others, the last one first. -/
def clustersFrom (measured : Option Char) (done : List Cluster) : List Char → List Cluster
  | [] => done
  | [c] =>
    if c = pictureMark && !done.isEmpty then
      extendLast [c] ((measured.map widening).getD 0) done
    else if c = joiner || c = pictureMark || charWidth c = 0 then extendLast [c] 0 done
    else ⟨[c], charWidth c⟩ :: done
  | c :: d :: cs =>
    if c = joiner then
      if done.isEmpty then clustersFrom measured [⟨[c], 0⟩] (d :: cs)
      else clustersFrom measured (extendLast [c, d] 0 done) cs
    else if c = pictureMark then
      let more := if done.isEmpty then 0 else (measured.map widening).getD 0
      clustersFrom (if more = 0 then measured else none) (extendLast [c] more done) (d :: cs)
    else if charWidth c = 0 then clustersFrom measured (extendLast [c] 0 done) (d :: cs)
    else clustersFrom (some c) (⟨[c], charWidth c⟩ :: done) (d :: cs)

/-- The clusters of a text in order. -/
def clusters (cs : List Char) : List Cluster := (clustersFrom none [] cs).reverse

/-- The clusters that fit into so many columns.  Half of a cluster is drawn as a blank. -/
def fitting (columns : Nat) : List Cluster → List Char
  | [] => []
  | c :: cs =>
    if columns = 0 then []
    else if columns < c.columns then [' ']
    else c.chars ++ fitting (columns - c.columns) cs

/-- A text without what is beyond so many columns. -/
def crop (columns : Nat) (cs : List Char) : List Char :=
  if width cs ≤ columns then cs else fitting columns (clusters cs)

end CrossCheck.Text
