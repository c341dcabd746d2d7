import CrossCheck.Text.Basic
import CrossCheck.Text.Case
import CrossCheck.Text.Word

/-!
The smallest parts of a query: words, names between marks, numbers, texts between quotes and marks.
Blanks separate them and carry no meaning, and comments belong to the lexeme that they stand with.
-/

namespace CrossCheck
namespace Query

open Text

/-- What a comment says. -/
abbrev Note := List Char

inductive Form
  | word (name : List Char)
  | enclosed (name : List Char)
  | number (digits : List Char)
  | hexadecimal (digits : List Char)
  | bits (digits : List Char)
  | text (body : List Char)
  /-- A text in the characters of the nation. -/
  | national (body : List Char)
  | mark (symbol : List Char)
deriving DecidableEq

structure Lexeme where
  form : Form
  notes : List Note
deriving DecidableEq

namespace Form

/-- Characters that end a word. -/
def breaks : List Char := "()[]\x7b\x7d&^:,-.+;/\\<>=!?*%~|'\"`#@".toList

def isWordPart (c : Char) : Bool := !isBlank c && !breaks.contains c

/-- What a letter after a backslash stands for. -/
def escaped? (c : Char) : Option Char :=
  if c = 'a' then some '\x07'
  else if c = 'b' then some '\x08'
  else if c = 'f' then some '\x0c'
  else if c = 'n' then some '\n'
  else if c = 'r' then some '\r'
  else if c = 't' then some '\t'
  else if c = 'v' then some '\x0b'
  else if c = '\\' then some '\\'
  else none

def consChar (c : Char) (read : Option (List Char × List Char)) :
    Option (List Char × List Char) :=
  read.map fun (cs, rest) => (c :: cs, rest)

/-- A text after its opening quote, and what follows the closing one.  A quote inside is doubled
or follows a backslash; a backslash that escapes nothing stands for itself. -/
def textBody? (quote : Char) : List Char → Option (List Char × List Char)
  | [] => none
  | [c] => if c = quote then some ([], []) else none
  | c :: d :: rest =>
    if c = '\\' then
      match escaped? d with
      | some e => consChar e (textBody? quote rest)
      | none =>
        if d = quote then consChar d (textBody? quote rest)
        else consChar c (textBody? quote (d :: rest))
    else if c = quote then
      if d = quote then consChar c (textBody? quote rest) else some ([], d :: rest)
    else consChar c (textBody? quote (d :: rest))

/-- A name after its opening mark, and what follows the closing one.  A mark inside is doubled. -/
def enclosedName? : List Char → Option (List Char × List Char)
  | [] => none
  | [c] => if c = '`' then some ([], []) else none
  | c :: d :: rest =>
    if c ≠ '`' then consChar c (enclosedName? (d :: rest))
    else if d = '`' then consChar c (enclosedName? rest)
    else some ([], d :: rest)

/-- Where the digits of a number are: before any point, after it, or in an exponent, whose sign
may follow its letter at once. -/
structure Progress where
  point : Bool
  exponent : Bool
  sign : Bool

/-- The longest beginning that is a number: digits, one point, and one exponent. -/
def numberEnd (p : Progress) : List Char → List Char × List Char
  | [] => ([], [])
  | c :: cs =>
    let take (p : Progress) := let (taken, rest) := numberEnd p cs; (c :: taken, rest)
    if isAnyDigit c then take p
    else if c = '.' && !p.point then take { p with point := true }
    else if (c = '-' || c = '+') && p.exponent && !p.sign then take { p with sign := true }
    else if (c = 'e' || c = 'E') && !p.exponent then take { p with exponent := true }
    else ([], c :: cs)

/-- Digits after `0x` or `0b`; what is no such number is a name. -/
def based (allowed : Char → Bool) (make : List Char → Form) (cs : List Char) :
    Form × List Char :=
  let (taken, rest) := span isWordPart cs
  let digits := taken.drop 2
  (if digits.isEmpty || !digits.all allowed then .enclosed taken else make digits, rest)

def isBinaryDigit (c : Char) : Bool := c = '0' || c = '1'

def isHexDigit (c : Char) : Bool :=
  ('0' ≤ c && c ≤ '9') || ('a' ≤ c && c ≤ 'f') || ('A' ≤ c && c ≤ 'F')

/-- A number, or a word that begins with digits. -/
def decimalOrWord (cs : List Char) : Form × List Char :=
  let (digits, rest) := numberEnd ⟨false, false, false⟩ cs
  if rest.head?.any fun c => isWord c && !isAnyDigit c then
    let (more, after) := span isWordPart rest
    (.word (digits ++ more), after)
  else (.number digits, rest)

def numberOrWord : List Char → Form × List Char
  | '0' :: c :: cs =>
    if c = 'x' || c = 'X' then based isHexDigit .hexadecimal ('0' :: c :: cs)
    else if c = 'b' || c = 'B' then based isBinaryDigit .bits ('0' :: c :: cs)
    else decimalOrWord ('0' :: c :: cs)
  | cs => decimalOrWord cs

/-- Marks of several characters, the longer ones first, and the marks they stand for. -/
def longMarks : List (String × String) :=
  [("->>", "->>"), ("<=>", "<=>"), ("<->", "<->"), ("~~~", "~~~"), ("~~*", "~~*"), ("!=", "<>"),
   ("&&", "&&"), ("->", "->"), ("::", "::"), (":=", ":="), ("<=", "<="), ("<>", "<>"), ("==", "="),
   ("=>", "=>"), (">=", ">="), ("??", "??"), ("@@", "@@"), ("|>", "|>"), ("||", "||"),
   ("~*", "~*"), ("~~", "~~")]

def longestMark (c : Char) (cs : List Char) : Form × List Char :=
  let found := longMarks.findSome? fun (written, symbol) =>
    (dropStart? written.toList (c :: cs)).map fun rest => (.mark symbol.toList, rest)
  found.getD (.mark [c], cs)

/-- A text after a letter that says how it is written, and the quote after the letter. -/
def lettered? (c : Char) (cs : List Char) : Option (Option (Form × List Char)) :=
  match cs with
  | [] => none
  | quote :: rest =>
    let digits (allowed : Char → Bool) (make : List Char → Form) :=
      some ((textBody? quote rest).bind fun (body, rest) =>
        if body.all allowed then some (make body, rest) else none)
    if (c = 'N' || c = 'n') && (quote = '\'' || quote = '"') then
      some ((textBody? quote rest).map fun (body, rest) => (.national body, rest))
    else if quote ≠ '\'' then none
    else if c = 'X' || c = 'x' then digits isHexDigit .hexadecimal
    else if c = 'B' || c = 'b' then digits isBinaryDigit .bits
    else none

/-- What comes next, from its first character on. -/
def next? (c : Char) (cs : List Char) : Option (Form × List Char) :=
  match lettered? c cs with
  | some found => found
  | none =>
    if c = '\'' || c = '"' then (textBody? c cs).map fun (body, rest) => (.text body, rest)
    else if c = '`' then (enclosedName? cs).map fun (name, rest) => (.enclosed name, rest)
    else if isAnyDigit c then some (numberOrWord (c :: cs))
    else if breaks.contains c then some (longestMark c cs)
    else let (name, rest) := span isWordPart (c :: cs); some (.word name, rest)

end Form

namespace Lexeme

/-- A word in capital letters, in which it is the same however it is spelled. -/
def keyword? (t : Lexeme) : Option String :=
  match t.form with
  | .word cs => some (String.ofList (upperChars cs))
  | _ => none

def isWord (name : String) (t : Lexeme) : Bool := t.keyword? = some name

def isMark (symbol : String) (t : Lexeme) : Bool := t.form = .mark symbol.toList

end Lexeme
end Query
end CrossCheck
