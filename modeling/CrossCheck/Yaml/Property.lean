import CrossCheck.Json.Reader
import CrossCheck.Yaml.Cursor
import CrossCheck.Yaml.Token

/-!
What is said about nodes and documents: anchors and references to them, tags, and directives.
-/

namespace CrossCheck
namespace Yaml

open Text

def isNamePart (c : Char) : Bool := c.isAlphanum || c = '-' || c = '_'

/-- Whether a line ends here. -/
def endsLine (cs : List Char) : Bool := cs.isEmpty || cs.head?.any isBreak

/-- Whether a blank or the end of a line comes next. -/
def endsTag (cs : List Char) : Bool := endsLine cs || cs.head? = some ' '

/-- The cursor where so much is left. -/
def Cursor.upTo (c : Cursor) (rest : List Char) : Cursor := c.forward (c.rest.length - rest.length)

/-! ## Anchors -/

/-- Marks that may stand right after the name of an anchor. -/
def anchorEnds : List Char := "?:,]\x7d%@`".toList

/-- The name after the mark of an anchor or a reference. -/
def anchorName (c : Cursor) : Except Fault (List Char × Cursor) :=
  let (name, rest) := span isNamePart (c.rest.drop 1)
  if name.isEmpty || !(endsWord rest || rest.head?.any anchorEnds.contains) then .error .malformed
  else .ok (name, c.upTo rest)

/-! ## Tags -/

def isTagPart (c : Char) : Bool := c.isAlphanum || "-;/?:@&=+$,_.!~*'()[]".toList.contains c

/-- Bytes, each written as a percent sign and two digits of base sixteen. -/
def percentBytes : List Char → Except Fault (List UInt8 × List Char)
  | '%' :: a :: b :: cs =>
    match Json.hexValue? a, Json.hexValue? b with
    | some a, some b => do
      let (bytes, rest) ← percentBytes cs
      return (UInt8.ofNat (16 * a + b) :: bytes, rest)
    | _, _ => .error .malformed
  | '%' :: _ => .error .malformed
  | cs => .ok ([], cs)

/-- The text of a tag, and what follows it; `fuel` is as long as what is left. -/
def tagText : (fuel : Nat) → List Char → Except Fault (List Char × List Char)
  | 0, cs => .ok ([], cs)
  | fuel + 1, cs => do
    match cs with
    | '%' :: _ =>
      let (bytes, rest) ← percentBytes cs
      match String.fromUTF8? ⟨bytes.toArray⟩ with
      | none => .error .malformed
      | some s =>
        let (more, rest) ← tagText fuel rest
        return (s.toList ++ more, rest)
    | c :: rest =>
      if isTagPart c then
        let (more, rest) ← tagText fuel rest
        return (c :: more, rest)
      else return ([], cs)
    | [] => return ([], [])

/-- The text of a tag, which is not empty. -/
def someTagText (cs : List Char) : Except Fault (List Char × List Char) := do
  let (text, rest) ← tagText cs.length cs
  if rest.length < cs.length then return (text, rest) else .error .malformed

/-- A handle: one exclamation mark, or two with a name between them. -/
def tagHandle : List Char → Except Fault (List Char × List Char)
  | '!' :: ' ' :: rest => .ok (['!'], ' ' :: rest)
  | '!' :: cs =>
    match span isNamePart cs with
    | (name, '!' :: rest) => .ok ('!' :: name ++ ['!'], rest)
    | _ => .error .malformed
  | _ => .error .malformed

/-- Whether a second exclamation mark comes before the end of the word. -/
def hasHandle (cs : List Char) : Bool :=
  (cs.takeWhile fun c => c ≠ ' ' && !isBreak c).contains '!'

/-- A tag: its handle and its text, or the whole of it between angle brackets.  An exclamation mark
alone says that the node is of the sort that it seems to be. -/
def tag (c : Cursor) : Except Fault ((Option (List Char) × List Char) × Cursor) := do
  let (read, rest) ← match c.rest.drop 1 with
    | '<' :: cs =>
      match ← someTagText cs with
      | (text, '>' :: rest) => pure ((none, text), rest)
      | _ => .error .malformed
    | cs =>
      if endsWord cs then pure ((none, ['!']), cs)
      else
        let (handle, cs) ← if hasHandle cs then tagHandle c.rest else .ok (['!'], cs)
        let (text, rest) ← someTagText cs
        pure ((some handle, text), rest)
  if endsTag rest then return (read, c.upTo rest) else .error .malformed

/-! ## Directives -/

def skipSpaces (cs : List Char) : List Char := cs.dropWhile (· = ' ')

def number (cs : List Char) : Except Fault (Nat × List Char) :=
  let (ds, rest) := span Json.isDigit cs
  if ds.isEmpty then .error .malformed else .ok (Json.natOfDigits ds, rest)

def versionDirective (cs : List Char) : Except Fault (Directive × List Char) := do
  match ← number (skipSpaces cs) with
  | (major, '.' :: cs) =>
    let (_, rest) ← number cs
    if endsTag rest then return (.version major, rest) else .error .malformed
  | _ => .error .malformed

def handleDirective (cs : List Char) : Except Fault (Directive × List Char) := do
  match ← tagHandle (skipSpaces cs) with
  | (name, ' ' :: cs) =>
    let (text, rest) ← someTagText (skipSpaces cs)
    if endsTag rest then return (.handle name text, rest) else .error .malformed
  | _ => .error .malformed

/-- A directive with its line.  A comment may end the line. -/
def directive (c : Cursor) : Except Fault (Directive × Cursor) := do
  let (name, cs) := span isNamePart (c.rest.drop 1)
  if name.isEmpty || !endsTag cs then .error .malformed
  let (d, rest) ←
    if name = "YAML".toList then versionDirective cs
    else if name = "TAG".toList then handleDirective cs
    else .ok (.other, cs.dropWhile fun ch => !isBreak ch)
  let rest := match skipSpaces rest with
    | '#' :: rest => rest.dropWhile fun ch => !isBreak ch
    | rest => rest
  if endsLine rest then return (d, (c.upTo rest).forward 1) else .error .malformed

end Yaml
end CrossCheck
