import CrossCheck.Metric

/-!
A compiled plan: the queries one environment is asked, and where each metric finds its value in
the answers.
-/

namespace CrossCheck

/-- One column of the shared query. -/
structure Expression where
  aliasName : String
  call : String
  valueType : ValueType
deriving DecidableEq

/-- A query of its own, because its condition holds for no other column. -/
structure ConditionalQuery where
  aliasName : String
  call : String
  condition : String
  query : String
  valueType : ValueType
deriving DecidableEq

/-- How a metric is read off the answers.  `other` stands for definitions that no stage
supports. -/
inductive Definition where
  | direct (metric : ResolvedMetric) (aliasName : String)
  | ratio (metric : ResolvedMetric) (aliasName numerator denominator : String)
  | other (name : String)
deriving DecidableEq

namespace Definition

def aliasName : Definition → String
  | direct _ aliasName => aliasName
  | ratio _ aliasName _ _ => aliasName
  | other name => name

/-- The aliases whose values a definition takes. -/
def reads : Definition → List String
  | direct _ aliasName => [aliasName]
  | ratio _ _ numerator denominator => [numerator, denominator]
  | other _ => []

end Definition

/-- The shared query is missing when every metric is conditional. -/
structure Plan where
  object : String
  filter : Option String
  query : Option String
  expressions : List Expression
  definitions : List Definition
  conditionals : List ConditionalQuery
  sampleFields : List String
deriving DecidableEq

/-- `SELECT … FROM …`, with a filter unless it is empty. -/
def selectQuery (object columns : String) (filter : Option String) : String :=
  let query := "SELECT " ++ columns ++ " FROM " ++ object
  match filter with
  | some condition => if condition = "" then query else query ++ " WHERE " ++ condition
  | none => query

namespace Plan

def sampleColumns (p : Plan) : List String := "Id" :: p.sampleFields.filter (· ≠ "Id")

/-- Rows come in the order of `Id`, so that both environments show comparable slices. -/
def sampleQuery? (p : Plan) (size : Int) : Option String :=
  if size ≤ 0 then none
  else some (selectQuery p.object (", ".intercalate p.sampleColumns) p.filter ++
    " ORDER BY Id LIMIT " ++ toString size)

end Plan
end CrossCheck
