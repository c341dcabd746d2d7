import CrossCheck.Export.Lines

/-!
A minimal PDF document: lines of text in a font of fixed width, sixty to a page.  The document is
kept as characters below 256, each of which is one byte of the file.
-/

namespace CrossCheck
namespace Pdf

open Text

def linesPerPage : Nat := 60

/-- The mark before a backslash or parenthesis keeps it from ending the text. -/
def escape (cs : List Char) : List Char :=
  cs.flatMap fun c => if c = '\\' || c = '(' || c = ')' then ['\\', c] else [c]

/-- What the font has no sign for is shown as a question mark. -/
def toLatin (c : Char) : Char := if c.toNat < 0x100 then c else '?'

def lineText (cs : List Char) : List Char := (escape cs).map toLatin

/-- Pages in order, every one but the last full; without lines there is one empty page. -/
def pagesOf (fuel : Nat) (lines : List String) : List (List String) :=
  match fuel with
  | 0 => [lines]
  | fuel + 1 =>
    if lines.length ≤ linesPerPage then [lines]
    else lines.take linesPerPage :: pagesOf fuel (lines.drop linesPerPage)

def pages (lines : List String) : List (List String) := pagesOf lines.length lines

def showLine (s : String) : List Char := '(' :: lineText s.toList ++ ") Tj".toList

/-- What draws a page. -/
def content (lines : List String) : List Char :=
  "BT\n/F1 9 Tf\n11 TL\n50 750 Td\n".toList ++
    joinWith "\nT*\n".toList (lines.map showLine) ++ "\nET".toList

def reference (n : Nat) : List Char := natText n ++ " 0 R".toList

def pageNumber (i : Nat) : Nat := 4 + 2 * i

def contentNumber (i : Nat) : Nat := 5 + 2 * i

def catalog : List Char := "<< /Type /Catalog /Pages 2 0 R >>".toList

def pageTree (count : Nat) : List Char :=
  "<< /Type /Pages /Kids [".toList ++
    joinWith [' '] ((List.range count).map fun i => reference (pageNumber i)) ++
    "] /Count ".toList ++ natText count ++ " >>".toList

def font : List Char := "<< /Type /Font /Subtype /Type1 /BaseFont /Courier >>".toList

def pageObject (i : Nat) : List Char :=
  "<< /Type /Page /Parent 2 0 R /MediaBox [0 0 612 792] /Contents ".toList ++
    reference (contentNumber i) ++ " /Resources << /Font << /F1 3 0 R >> >> >>".toList

def contentObject (lines : List String) : List Char :=
  let stream := content lines
  "<< /Length ".toList ++ natText stream.length ++ " >>\nstream\n".toList ++ stream ++
    "\nendstream".toList

/-- A page and what draws it, for each page from the `i`-th on. -/
def pageObjects (i : Nat) : List (List String) → List (List Char)
  | [] => []
  | lines :: rest => pageObject i :: contentObject lines :: pageObjects (i + 1) rest

def objects (lines : List String) : List (List Char) :=
  let ps := pages lines
  catalog :: pageTree ps.length :: font :: pageObjects 0 ps

/-- An object with its number, counted from 1. -/
def numbered (n : Nat) (body : List Char) : List Char :=
  natText n ++ " 0 obj\n".toList ++ body ++ "\nendobj\n".toList

def numberedFrom (n : Nat) : List (List Char) → List (List Char)
  | [] => []
  | body :: rest => numbered n body :: numberedFrom (n + 1) rest

/-- Where each part begins when the first begins at `start`. -/
def offsetsFrom (start : Nat) : List (List Char) → List Nat
  | [] => []
  | part :: rest => start :: offsetsFrom (start + part.length) rest

def offsetEntry (offset : Nat) : List Char := zeroPadded 10 offset ++ " 00000 n \n".toList

def opening : List Char := "%PDF-1.4\n".toList

def document (lines : List String) : List Char :=
  let bodies := objects lines
  let parts := numberedFrom 1 bodies
  let body := parts.flatten
  let size := natText (bodies.length + 1)
  opening ++ body ++ "xref\n0 ".toList ++ size ++ "\n0000000000 65535 f \n".toList ++
    (offsetsFrom opening.length parts).flatMap offsetEntry ++
    "trailer\n<< /Size ".toList ++ size ++ " /Root 1 0 R >>\nstartxref\n".toList ++
    natText (opening.length + body.length) ++ "\n%%EOF\n".toList

def ofReport (r : Report) (title : Option String) (generated : Timestamp) : List Char :=
  document (r.lines title generated)

/-- The bytes of a document. -/
def bytes (document : List Char) : List UInt8 := document.map fun c => UInt8.ofNat c.toNat

end Pdf
end CrossCheck
