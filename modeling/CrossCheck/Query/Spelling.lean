import CrossCheck.Query.DataType
import CrossCheck.Query.Function
import CrossCheck.Query.Keyword

/-!
The two spellings of a query.  A database gets its query on one line, in the words it runs; a
reader gets one in the vendor's words, broken over indented lines.
-/

namespace CrossCheck
namespace Query

open Text

inductive Spelling
  | executable
  | readable
deriving DecidableEq

namespace Spelling

/-- Whether a query is broken over lines. -/
def broken (s : Spelling) : Bool := s = .readable

/-- What separates the clauses of a query. -/
def separator (s : Spelling) : Char := if s.broken then '\n' else ' '

/-- How a character of a text is written between single quotes. -/
def escape (s : Spelling) (c : Char) : List Char :=
  if c = '\'' then ['\'', '\'']
  else if s = .executable then [c]
  else if c = '\\' then ['\\', '\\']
  else if c = '\x07' then ['\\', 'a']
  else if c = '\x08' then ['\\', 'b']
  else if c = '\x0c' then ['\\', 'f']
  else if c = '\n' then ['\\', 'n']
  else if c = '\r' then ['\\', 'r']
  else if c = '\t' then ['\\', 't']
  else if c = '\x0b' then ['\\', 'v']
  else [c]

def text (s : Spelling) (body : List Char) : List Char :=
  '\'' :: body.flatMap s.escape ++ ['\'']

/-- The mark on both sides of a name that cannot stand alone; inside it is doubled. -/
def nameMark (s : Spelling) : Char := if s = .executable then '"' else '`'

/-- Whether a name cannot stand alone. -/
def encloses (s : Spelling) (n : Name) : Bool :=
  let small := String.ofList (lowerChars n.chars)
  n.enclosed ||
    match s with
    | .executable => Keyword.reservedByDatabase.contains small || n.chars.head?.any isAnyDigit
    | .readable => Keyword.reservedByVendor.contains small

def name (s : Spelling) (n : Name) : List Char :=
  if s.encloses n then
    let inside := n.chars.flatMap fun c => if c = s.nameMark then [c, c] else [c]
    s.nameMark :: inside ++ [s.nameMark]
  else n.chars

def hexadecimal (s : Spelling) (digits : List Char) : List Char :=
  match s with
  | .executable => "FROM_HEX('".toList ++ digits ++ "')".toList
  | .readable => "x'".toList ++ digits ++ ['\'']

def bits (s : Spelling) (digits : List Char) : List Char :=
  match s with
  | .executable => Nat.toDigits 10 (digits.foldl (fun n c => 2 * n + if c = '1' then 1 else 0) 0)
  | .readable => "b'".toList ++ digits ++ ['\'']

/-- A function that is called without parentheses. -/
def moment (s : Spelling) (function : String) : List Char :=
  let bare : Bool :=
    match s with
    | .executable => function ≠ "CURRENT_USER"
    | .readable => function = "CURRENT_DATE"
  function.toList ++ if bare then [] else ['(', ')']

/-- The mark of a parameter and that of a value that is given later. -/
def parameterMark (s : Spelling) : Char := if s = .executable then '$' else '@'

def placeholderMark (s : Spelling) : Char := if s = .executable then '$' else ':'

/-- The word for a type that values are cast to. -/
def type (s : Spelling) (t : SizedType) : List Char :=
  let words := match s with
    | .executable => DataType.ofDatabase
    | .readable => DataType.ofVendor
  ((words.lookup t.name).getD t.name).toList ++
    if t.sizes.isEmpty then [] else '(' :: joinWith [',', ' '] t.sizes ++ [')']

/-- The mark or word of an operator that stands between its operands. -/
def symbol (s : Spelling) : Operator → String
  | .or => "OR"
  | .and => "AND"
  | .xor => "XOR"
  | .equal => "="
  | .unequal => "<>"
  | .same => if s = .executable then "IS NOT DISTINCT FROM" else "<=>"
  | .different => if s = .executable then "IS DISTINCT FROM" else "<=>"
  | .less => "<"
  | .atMost => "<="
  | .greater => ">"
  | .atLeast => ">="
  | .like => "LIKE"
  | .alike => if s = .executable then "ILIKE" else "LIKE"
  | .glob => "GLOB"
  | .similar => "SIMILAR TO"
  | .escape => "ESCAPE"
  | .is => "IS"
  | .within => "IN"
  | .overlaps => "OVERLAPS"
  | .collate => "COLLATE"
  | .add => "+"
  | .subtract => "-"
  | .multiply => "*"
  | .divide => "/"
  | .divideWhole => if s = .executable then "//" else "DIV"
  | .remainder => "%"
  | .bitAnd => "&"
  | .bitOr => "|"
  | .bitXor => "^"
  | .shiftLeft => "<<"
  | .shiftRight => ">>"
  | .assign => ":="
  | .json => "->"
  | .jsonText => "->>"
  | .maps => "->"
  | .labels => "=>"
  | .inZone => "AT TIME ZONE"

/-- Words for units of time that the vendor has in the singular only. -/
def singulars : List (String × String) :=
  ["DAY", "HOUR", "MICROSECOND", "MINUTE", "MONTH", "QUARTER", "SECOND", "WEEK", "YEAR"].map
    fun unit => (unit ++ "S", unit)

def unit (s : Spelling) (word : List Char) : List Char :=
  match s with
  | .executable => word
  | .readable => ((singulars.lookup (String.ofList word)).map String.toList).getD word

/-- Functions that the database has other words for. -/
def ofDatabase : List (String × String) :=
  [("DATE_FORMAT", "STRFTIME"), ("FROM_UNIXTIME", "TO_TIMESTAMP"), ("MAKETIME", "MAKE_TIME"),
   ("RAND", "RANDOM"),
   ("REGEXP_LIKE", "REGEXP_MATCHES"), ("SCHEMA", "CURRENT_SCHEMA"), ("SHA", "SHA1"),
   ("STR_TO_TIME", "STRPTIME"), ("TRIM_BOTH", "TRIM"), ("VARIANCE_POP", "VAR_POP")]

/-- Functions that the vendor has other words for. -/
def ofVendor : List (String × String) :=
  [("CHR", "CHAR"), ("LENGTH", "CHAR_LENGTH"), ("OCTET_LENGTH", "LENGTH"), ("STRPOS", "LOCATE"),
   ("STR_TO_TIME", "STR_TO_DATE"), ("STUFF", "INSERT"), ("TRIM_BOTH", "TRIM")]

def function (s : Spelling) (name : String) : String :=
  let words := match s with
    | .executable => ofDatabase
    | .readable => ofVendor
  (words.lookup name).getD name

end Spelling
end Query
end CrossCheck
