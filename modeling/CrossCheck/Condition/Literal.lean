import CrossCheck.Calendar.Written
import CrossCheck.Text.Case

/-!
Literal values in conditions: what a query can compare with as it stands, and how any other value
is quoted.
-/

namespace CrossCheck
namespace Literal

open Text

/-- Between quotes of one sort, whatever stands inside. -/
def isQuoted (cs : List Char) : Bool :=
  match cs with
  | q :: _ :: _ => (q = '\'' || q = '"') && cs.getLast? = some q
  | _ => false

def dropSign : List Char → List Char
  | '+' :: rest => rest
  | '-' :: rest => rest
  | cs => cs

/-- Digits with at most one point, and at least one digit. -/
def dropMantissa? (cs : List Char) : Option (List Char) :=
  let (whole, rest) := span isDigit cs
  match rest with
  | '.' :: rest =>
    let (fraction, rest) := span isDigit rest
    if whole.isEmpty && fraction.isEmpty then none else some rest
  | _ => if whole.isEmpty then none else some rest

def isExponent : List Char → Bool
  | [] => true
  | e :: rest =>
    let digits := dropSign rest
    (e = 'e' || e = 'E') && !digits.isEmpty && digits.all isDigit

def isNumber (cs : List Char) : Bool := (dropMantissa? (dropSign cs)).any isExponent

def isBoolOrNull (cs : List Char) : Bool :=
  isKeyword "true" cs || isKeyword "false" cs || isKeyword "null" cs

/-- The names of days and spans relative to the day of the query. -/
def dateKeywords : List String :=
  ["YESTERDAY", "TODAY", "TOMORROW", "LAST_WEEK", "THIS_WEEK", "NEXT_WEEK", "LAST_MONTH",
   "THIS_MONTH", "NEXT_MONTH", "LAST_90_DAYS", "NEXT_90_DAYS", "THIS_QUARTER", "LAST_QUARTER",
   "NEXT_QUARTER", "THIS_YEAR", "LAST_YEAR", "NEXT_YEAR", "THIS_FISCAL_QUARTER",
   "LAST_FISCAL_QUARTER", "NEXT_FISCAL_QUARTER", "THIS_FISCAL_YEAR", "LAST_FISCAL_YEAR",
   "NEXT_FISCAL_YEAR"]

def isDateKeyword (cs : List Char) : Bool :=
  dateKeywords.contains (String.ofList (upperChars cs))

def unitWords : List String :=
  ["days", "weeks", "months", "quarters", "years", "fiscal_quarters", "fiscal_years"]

/-- The words before the count of a span: `last_n_days` and `n_days_ago`, for every unit. -/
def spanWords : List String :=
  unitWords.flatMap fun unit =>
    ["last_n_" ++ unit, "next_n_" ++ unit, "n_" ++ unit ++ "_ago"]

/-- A span of so many units, such as `LAST_N_DAYS:30`. -/
def isCountedSpan (cs : List Char) : Bool :=
  spanWords.any fun word =>
    match dropKeyword? word.toList cs with
    | some (':' :: count) => !count.isEmpty && count.all isDigit
    | _ => false

def isLiteral (cs : List Char) : Bool :=
  isQuoted cs || isNumber cs || isBoolOrNull cs || WrittenTime.isDay cs ||
    WrittenTime.isMoment cs || isDateKeyword cs || isCountedSpan cs

/-- The mark that ends a literal, and the mark that escapes it, are escaped. -/
def escape : List Char → List Char
  | [] => []
  | c :: cs => if c = '\'' || c = '\\' then '\\' :: c :: escape cs else c :: escape cs

def quote (cs : List Char) : List Char := '\'' :: escape cs ++ ['\'']

end Literal
end CrossCheck
