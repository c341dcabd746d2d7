import CrossCheck.Query.DataType
import CrossCheck.Query.MomentFormat
import CrossCheck.Query.Statement
import CrossCheck.Text.Case

/-!
Functions that something is known about: the words that call them, how many arguments they take,
and the calls that stand for something else.
-/

namespace CrossCheck
namespace Query

/-- A function by the name it goes by, and the numbers of arguments that it takes. -/
structure Function where
  name : String
  least : Nat
  most : Option Nat

namespace Function

/-- Words that call functions of one argument, and the functions. -/
def ofOne : List (String × String) :=
  ["ABS", "ANY_VALUE", "AVG", "CBRT", "CHR", "EXP", "FIRST_VALUE", "HEX", "LAST_VALUE", "LN",
    "LOWER", "LTRIM", "MD5", "MEDIAN", "RTRIM", "SIGN", "SOUNDEX", "SQRT", "STDDEV", "STDDEV_POP",
    "STDDEV_SAMP", "SUM", "TIME", "TIMESTAMP", "UPPER", "VARIANCE", "VARIANCE_POP"].map
      (fun w => (w, w)) ++
  [("ASCII", "UNICODE"), ("LCASE", "LOWER"), ("SHA", "SHA"), ("SHA1", "SHA"), ("STDEV", "STDDEV"),
   ("UCASE", "UPPER"), ("UNICODE", "UNICODE"), ("VAR_POP", "VARIANCE_POP"),
   ("VAR_SAMP", "VARIANCE"), ("VARIANCE_SAMP", "VARIANCE")]

/-- Words that call functions, and the functions. -/
def words : List (String × Function) :=
  ofOne.map (fun (w, name) => (w, ⟨name, 1, some 1⟩)) ++
  [("CEIL", ⟨"CEIL", 0, none⟩), ("CEILING", ⟨"CEIL", 0, none⟩), ("COALESCE", ⟨"COALESCE", 1, none⟩),
   ("CONCAT", ⟨"CONCAT", 1, none⟩), ("CONCAT_WS", ⟨"CONCAT_WS", 1, none⟩),
   ("COUNT", ⟨"COUNT", 0, none⟩), ("DATABASE", ⟨"SCHEMA", 0, some 1⟩),
   ("FLOOR", ⟨"FLOOR", 0, none⟩), ("FORMAT", ⟨"FORMAT", 2, some 3⟩),
   ("GREATEST", ⟨"GREATEST", 1, none⟩), ("IFNULL", ⟨"COALESCE", 1, none⟩),
   ("INSERT", ⟨"STUFF", 4, some 4⟩),
   ("LAG", ⟨"LAG", 1, some 3⟩), ("LEAD", ⟨"LEAD", 1, some 3⟩), ("LEAST", ⟨"LEAST", 1, none⟩),
   ("LEFT", ⟨"LEFT", 2, some 2⟩), ("MAX", ⟨"MAX", 1, none⟩), ("MIN", ⟨"MIN", 1, none⟩),
   ("NTH_VALUE", ⟨"NTH_VALUE", 2, some 2⟩), ("NULLIF", ⟨"NULLIF", 2, some 2⟩),
   ("NVL", ⟨"COALESCE", 1, none⟩), ("POW", ⟨"POWER", 2, some 2⟩), ("POWER", ⟨"POWER", 2, some 2⟩),
   ("RAND", ⟨"RAND", 0, some 2⟩), ("RANDOM", ⟨"RAND", 0, some 2⟩),
   ("REGEXP_LIKE", ⟨"REGEXP_LIKE", 2, some 3⟩), ("REPEAT", ⟨"REPEAT", 2, some 2⟩),
   ("RIGHT", ⟨"RIGHT", 2, some 2⟩), ("RLIKE", ⟨"REGEXP_LIKE", 2, some 3⟩),
   ("ROUND", ⟨"ROUND", 1, some 3⟩), ("SCHEMA", ⟨"SCHEMA", 0, some 1⟩),
   ("SHA2", ⟨"SHA2", 1, some 2⟩),
   ("STUFF", ⟨"STUFF", 4, some 4⟩), ("SUBSTR", ⟨"SUBSTRING", 1, some 3⟩),
   ("SUBSTRING", ⟨"SUBSTRING", 1, some 3⟩)]

/-- Words that call functions of a day. -/
def ofDay : List String :=
  ["DAY", "DAYOFMONTH", "DAYOFWEEK", "DAYOFYEAR", "MONTH", "WEEK", "WEEKOFYEAR", "YEAR"]

/-- Words that call the number of characters of a text. -/
def lengths : List String := ["CHAR_LENGTH", "CHARACTER_LENGTH", "LEN"]

/-- Words that call a moment, and its name. -/
def moments : List (String × String) :=
  (["CURRENT_DATE", "CURRENT_TIME", "CURRENT_TIMESTAMP", "CURRENT_USER"].map fun w => (w, w)) ++
  [("CURDATE", "CURRENT_DATE"), ("NOW", "CURRENT_TIMESTAMP")]

/-- Functions whose values are texts. -/
def ofTexts : List String := ["CONCAT", "CONCAT_WS", "LOWER", "LTRIM", "RTRIM", "SUBSTRING", "TRIM",
  "UPPER"]

def known (name : String) (arguments : List Expr) : Expr := .call (.known name) arguments

/-- A value that is an argument of an operator. -/
def enclose (e : Expr) : Expr := if e.isBinary then .paren e else e

/-- A path into a value, which begins at the whole of it. -/
def jsonPath (e : Expr) : Expr :=
  match e with
  | .text cs => .text (if cs.head? = some '$' then cs else '$' :: '.' :: cs)
  | .number ds => .text ('$' :: '[' :: ds ++ [']'])
  | e => e

/-- A moment moved by a span, which counts days where it says nothing else. -/
def moved (name : String) (d span : Expr) : Option Expr :=
  match span.withoutNotes.1 with
  | .interval v unit => known name [d, .interval v (unit.getD (.bare "DAY".toList))]
  | _ => none

/-- A moment in a format of queries. -/
def formatted (name : String) (e format : Expr) : Expr :=
  match format with
  | .text cs => known name [e, .text (MomentFormat.ofQuery cs)]
  | format => known name [e, format]

/-- Words of functions whose calls are read in ways of their own. -/
def special : List String :=
  ["CONVERT_TZ", "DATE", "DATEDIFF", "DATE_ADD", "DATE_FORMAT", "DATE_SUB", "FROM_UNIXTIME",
   "INSTR", "ISNULL", "JSON_EXTRACT", "LENGTH", "LOCATE", "LOG", "LOG10", "LOG2", "LPAD",
   "MAKETIME", "MOD", "MONTHNAME", "RPAD", "STR_TO_DATE", "TIMESTAMPDIFF", "TO_DAYS"]

/-- What a call of such a function stands for, if the arguments fit. -/
def build (word : String) (arguments : List Expr) : Option Expr :=
  match word, arguments with
  | "CONVERT_TZ", d :: before :: after :: _ => known "CONVERT_TZ" [d, before, after]
  | "DATE", [x] => known "DATE" [x]
  | "DATEDIFF", [a, b] => known "DATEDIFF" [a, b]
  | "DATE_ADD", d :: span :: _ => moved "DATE_ADD" d span
  | "DATE_FORMAT", [x, format] => formatted "DATE_FORMAT" x format
  | "DATE_SUB", d :: span :: _ => moved "DATE_SUB" d span
  | "FROM_UNIXTIME", [x] => known "FROM_UNIXTIME" [x]
  | "FROM_UNIXTIME", x :: format :: _ => formatted "FROM_UNIXTIME" x format
  | "INSTR", [x, part] => known "STRPOS" [x, part]
  | "ISNULL", [x] => Expr.paren (.binary .is x (.constant .null))
  | "JSON_EXTRACT", [x, path] => Expr.binary .json x (jsonPath path)
  | "LENGTH", [x] => known "OCTET_LENGTH" [x]
  | "LOCATE", part :: x :: start => known "STRPOS" (x :: part :: start.take 1)
  | "LOG", [x] => known "LN" [x]
  | "LOG", [b, x] => known "LOG" [b, x]
  | "LOG10", [x] => known "LOG" [.number ['1', '0'], x]
  | "LOG2", [x] => known "LOG" [.number ['2'], x]
  | "LPAD", [x, length] => known "LPAD" [x, length, .text [' ']]
  | "LPAD", x :: length :: fill :: _ => known "LPAD" [x, length, fill]
  | "MAKETIME", hour :: minute :: second :: _ => known "MAKETIME" [hour, minute, second]
  | "MOD", a :: b :: _ => Expr.binary .remainder (enclose a) (enclose b)
  | "MONTHNAME", [x] => known "DATE_FORMAT" [.day x, .text "%B".toList]
  | "RPAD", [x, length] => known "RPAD" [x, length, .text [' ']]
  | "RPAD", x :: length :: fill :: _ => known "RPAD" [x, length, fill]
  | "STR_TO_DATE", [x, .text cs] =>
    known (if MomentFormat.asksTime cs then "STR_TO_TIME" else "STR_TO_DATE")
      [x, .text (MomentFormat.ofQuery cs)]
  | "STR_TO_DATE", [x, format] => known "STR_TO_DATE" [x, format]
  | "TIMESTAMPDIFF", [.field unit, a, b] =>
    known "TIMESTAMPDIFF" [.bare (Text.upperChars unit.chars), a, b]
  | "TO_DAYS", [x] =>
    Expr.paren (.binary .add (known "DATEDIFF" [.day x, .day (.text "0000-01-01".toList)])
      (.number ['1']))
  | _, _ => none

/-- A call of a function of a day. -/
def buildOfDay (word : String) (arguments : List Expr) : Option Expr :=
  match arguments with
  | [d] => known word [.day d]
  | [d, mode] => if word = "WEEK" then known word [.day d, mode] else none
  | _ => none

/-- What a call stands for: nothing where its word is not known, and no expression where the
arguments do not fit. -/
def called? (word : String) (arguments : List Expr) : Option (Option Expr) :=
  if special.contains word then some (build word arguments)
  else if ofDay.contains word then some (buildOfDay word arguments)
  else if lengths.contains word then
    some (if arguments.length = 1 then known "LENGTH" arguments else none)
  else match moments.lookup word with
  | some name =>
    some (match arguments with
      | [] => some (.moment name)
      | [_] => some (known name arguments)
      | _ => none)
  | none =>
    (words.lookup word).map fun f =>
      if f.least ≤ arguments.length && f.most.all (arguments.length ≤ ·) then
        some (known f.name arguments)
      else none

/-- Whether something is known about the function that a word calls. -/
def isKnown (word : String) : Bool :=
  special.contains word || ofDay.contains word || lengths.contains word ||
    (moments.lookup word).isSome || (words.lookup word).isSome

end Function

namespace Expr

/-- Whether a value is a text, as far as its form tells. -/
def isText : Expr → Bool
  | .text _ => Bool.true
  | .paren e => e.isText
  | .noted e _ => e.isText
  | .call (.known f) _ => Function.ofTexts.contains f
  | .cast _ type => DataType.texts.contains type.name
  | .gathered .. => Bool.true
  | _ => Bool.false

/-- Whether a value is a day, as far as its form tells. -/
def isDay : Expr → Bool
  | .call (.known f) _ => f = "DATE"
  | .cast _ type => type.name = "DATE"
  | _ => Bool.false

end Expr
end Query
end CrossCheck
