/-!
Metrics, as a user asks for them and as one environment's schema settles them.
-/

namespace CrossCheck

inductive AggregateFunction where
  | sum
  | avg
  | min
  | max
  | median
  | stddev
  | variance
deriving DecidableEq

namespace AggregateFunction

def all : List AggregateFunction := [sum, avg, min, max, median, stddev, variance]

def name : AggregateFunction → String
  | sum => "sum"
  | avg => "avg"
  | min => "min"
  | max => "max"
  | median => "median"
  | stddev => "stddev"
  | variance => "variance"

/-- The name in a query and in messages. -/
def keyword : AggregateFunction → String
  | sum => "SUM"
  | avg => "AVG"
  | min => "MIN"
  | max => "MAX"
  | median => "MEDIAN"
  | stddev => "STDDEV"
  | variance => "VARIANCE"

def ofName? (s : String) : Option AggregateFunction := all.find? (·.name == s)

/-- The extremes also accept dates. -/
def isExtreme : AggregateFunction → Bool
  | min | max => true
  | _ => false

theorem ofName?_name (f : AggregateFunction) : ofName? f.name = some f := by cases f <;> decide

theorem name_of_ofName? {s : String} {f : AggregateFunction} (h : ofName? s = some f) :
    f.name = s := by
  have := List.find?_some h
  simpa using this

end AggregateFunction

/-- Dates are shown side by side and never subtracted. -/
inductive ValueType where
  | number
  | date
deriving DecidableEq

namespace ValueType

def name : ValueType → String
  | number => "number"
  | date => "date"

def ofName? (s : String) : Option ValueType :=
  if s = "number" then some number else if s = "date" then some date else none

end ValueType

structure FieldAggregate where
  function : AggregateFunction
  field : String
deriving DecidableEq

/-- A metric before any schema is known.  `other` stands for kinds that no stage supports; it is
carried so that the first stage to meet it can refuse it by name. -/
inductive Metric where
  | count
  | fieldAggregate (a : FieldAggregate)
  | countDistinct (field : String)
  | ratio (numerator denominator : FieldAggregate)
  | countIf (condition : String)
  | sumIf (field condition : String)
  | other (kind name : String)
deriving DecidableEq

/-- A field as a schema spells it. -/
structure ResolvedField where
  name : String
  type : String
  label : String
deriving DecidableEq

structure ResolvedAggregate where
  function : AggregateFunction
  field : ResolvedField
  valueType : ValueType
deriving DecidableEq

inductive ResolvedMetric where
  | count (valueType : ValueType)
  | fieldAggregate (a : ResolvedAggregate)
  | countDistinct (field : ResolvedField) (valueType : ValueType)
  | ratio (numerator denominator : ResolvedAggregate) (valueType : ValueType)
  | countIf (condition : String) (valueType : ValueType)
  | sumIf (field : ResolvedField) (condition : String) (valueType : ValueType)
  | other (kind name : String)
deriving DecidableEq

/-- A metric of a kind that no stage supports. -/
structure UnsupportedMetric where
  name : String
deriving DecidableEq

namespace UnsupportedMetric

def message (e : UnsupportedMetric) : String := "Unsupported metric kind: " ++ e.name

end UnsupportedMetric

namespace ResolvedAggregate

def displayName (a : ResolvedAggregate) : String :=
  a.function.keyword ++ "(" ++ a.field.name ++ ")"

end ResolvedAggregate

namespace ResolvedMetric

def valueType : ResolvedMetric → ValueType
  | count t => t
  | fieldAggregate a => a.valueType
  | countDistinct _ t => t
  | ratio _ _ t => t
  | countIf _ t => t
  | sumIf _ _ t => t
  | other _ _ => .number

def kind : ResolvedMetric → String
  | count _ => "count"
  | fieldAggregate _ => "field_aggregate"
  | countDistinct _ _ => "count_distinct"
  | ratio _ _ _ => "ratio"
  | countIf _ _ => "count_if"
  | sumIf _ _ _ => "sum_if"
  | other kind _ => kind

def displayName : ResolvedMetric → String
  | count _ => "COUNT(Id)"
  | fieldAggregate a => a.displayName
  | countDistinct f _ => "COUNT_DISTINCT(" ++ f.name ++ ")"
  | ratio n d _ => n.displayName ++ " / " ++ d.displayName
  | countIf c _ => "COUNT_IF(" ++ c ++ ")"
  | sumIf f c _ => "SUM_IF(" ++ f.name ++ "|" ++ c ++ ")"
  | other _ name => name

end ResolvedMetric
end CrossCheck
