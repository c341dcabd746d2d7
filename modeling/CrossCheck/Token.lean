import CrossCheck.Metric
import CrossCheck.Text.Basic
import CrossCheck.Text.Case

/-!
The notation of metrics: `count`, `sum:Amount`, `ratio:sum:Amount/avg:Amount`,
`count-if:StageName = Won`, `sum-if:Amount:IsWon = true`.  Keywords are read without regard to
case; fields and conditions are kept as written.
-/

namespace CrossCheck

open Text

namespace Token

inductive Fault where
  | unknownKeyword
  | unknownFunction (name : String)
  | missingField (label : String)
  | missingCondition (label : String)
  | missingSlash
deriving DecidableEq

/-- What is wrong, and the whole token, also where the fault lies in one part of it. -/
structure Error where
  token : String
  fault : Fault
deriving DecidableEq

namespace Error

def message (e : Error) : String :=
  match e.fault with
  | .unknownKeyword => "Unsupported metric token \"" ++ e.token ++ "\"."
  | .unknownFunction name =>
    "Unsupported aggregate function \"" ++ name ++ "\" in metric token \"" ++ e.token ++ "\"."
  | .missingField label => label ++ " metric requires a field name in \"" ++ e.token ++ "\"."
  | .missingCondition label => label ++ " metric requires a condition in \"" ++ e.token ++ "\"."
  | .missingSlash =>
    "Ratio metric \"" ++ e.token ++ "\" must look like ratio:<fn>:<field>/<fn>:<field>."

end Error

def keyword (cs : List Char) : String := String.ofList (lowerChars (trim cs))

/-- A part of a token without surrounding blanks, refused when nothing is left of it. -/
def required (cs : List Char) (fault : Fault) : Except Fault String :=
  if (trim cs).isEmpty then .error fault else .ok (String.ofList (trim cs))

/-- `<function>:<field>`.  An unknown function is found before a missing field. -/
def readAggregate (cs : List Char) : Except Fault FieldAggregate :=
  let (head, rest) := cut ':' cs
  match AggregateFunction.ofName? (keyword head) with
  | none => .error (.unknownFunction (String.ofList (trim head)))
  | some f => do
    let field ← required (rest.getD []) (.missingField f.keyword)
    return ⟨f, field⟩

/-- The metric that `head:rest` spells. -/
def readMetric (token head rest : List Char) : Except Fault Metric :=
  let key := keyword head
  if key = "count-distinct" then do
    return .countDistinct (← required rest (.missingField "COUNT-DISTINCT"))
  else if (AggregateFunction.ofName? key).isSome then do
    return .fieldAggregate (← readAggregate token)
  else if key = "ratio" then
    match cut '/' rest with
    | (_, none) => .error .missingSlash
    | (numerator, some denominator) => do
      let n ← readAggregate (trim numerator)
      let d ← readAggregate (trim denominator)
      return .ratio n d
  else if key = "count-if" then do
    return .countIf (← required rest (.missingCondition "COUNT-IF"))
  else if key = "sum-if" then
    let (field, condition) := cut ':' rest
    do
      let f ← required field (.missingField "SUM-IF")
      let c ← required (condition.getD []) (.missingCondition "SUM-IF")
      return .sumIf f c
  else .error .unknownKeyword

def readChars (cs : List Char) : Except Fault Metric :=
  match cut ':' cs with
  | (head, none) => if keyword head = "count" then .ok .count else .error .unknownKeyword
  | (head, some rest) => readMetric cs head rest

end Token

namespace Metric

/-- Reads one token, which is taken as it stands. -/
def ofToken (token : String) : Except Token.Error Metric :=
  match Token.readChars token.toList with
  | .ok m => .ok m
  | .error fault => .error ⟨token, fault⟩

end Metric

namespace Token

/-- Repeated and comma-joined tokens alike, trimmed, without empty ones. -/
def flatten (tokens : List String) : List String :=
  tokens.flatMap fun token =>
    ((splitOn ',' token.toList).map trim |>.filter (!·.isEmpty)).map String.ofList

end Token

namespace Metric

/-- Reads every token or stops at the first bad one.  No tokens at all ask for a count. -/
def ofTokens (tokens : List String) : Except Token.Error (List Metric) :=
  match Token.flatten tokens with
  | [] => .ok [.count]
  | flat => flat.mapM ofToken

end Metric

namespace FieldAggregate

def token (a : FieldAggregate) : String := a.function.name ++ ":" ++ a.field

end FieldAggregate

namespace Metric

/-- The token that spells a metric. -/
def token : Metric → Except UnsupportedMetric String
  | count => .ok "count"
  | fieldAggregate a => .ok a.token
  | countDistinct f => .ok ("count-distinct:" ++ f)
  | ratio n d => .ok ("ratio:" ++ n.token ++ "/" ++ d.token)
  | countIf c => .ok ("count-if:" ++ c)
  | sumIf f c => .ok ("sum-if:" ++ f ++ ":" ++ c)
  | other _ name => .error ⟨name⟩

end Metric
end CrossCheck
