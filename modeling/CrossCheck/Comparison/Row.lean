import CrossCheck.Measurement
import CrossCheck.Plan

/-!
Rows of a comparison: for each metric its value in both environments and their difference.  A
missing value, a value that is no number and a zero divisor leave an empty cell.
-/

namespace CrossCheck

namespace Value

/-- The quotient of two values, where there is one. -/
def ratio (numerator denominator : Value) : Except ArithmeticError (Option Binary64) :=
  match numerator.number?, denominator.number? with
  | some n, some d => do
    let n ← n
    let d ← d
    if d.isZero then return none else return some (← n.divide d)
  | _, _ => .ok none

/-- How far the target is above the source, if both are numbers. -/
def difference (valueType : ValueType) (source target : Value) :
    Except ArithmeticError (Option Number) :=
  match valueType, source.number?, target.number? with
  | .number, some s, some t => do
    let t ← t
    let s ← s
    return some (← t.subtract s)
  | _, _, _ => .ok none

end Value

structure Row where
  metric : ResolvedMetric
  aliasName : String
  source : Cell
  target : Cell
  difference : Option Number
deriving DecidableEq

namespace Row

def label (r : Row) : String := r.metric.displayName

inductive Error where
  | arithmetic (e : ArithmeticError)
  /-- A value that no row can hold. -/
  | inadmissible
  | unsupportedDefinition (name : String)
deriving DecidableEq

namespace Error

def message : Error → String
  | unsupportedDefinition name => "Unsupported metric definition: " ++ name
  | _ => ""

end Error

def valueAt (raw : Record) (aliasName : String) : Value := (raw.get? aliasName).getD .null

def quotientAt (raw : Record) (numerator denominator : String) : Except ArithmeticError Value := do
  match ← Value.ratio (valueAt raw numerator) (valueAt raw denominator) with
  | some x => return .float x
  | none => return .null

def ofValues (metric : ResolvedMetric) (aliasName : String) (source target : Value) :
    Except Error Row := do
  let d ← (Value.difference metric.valueType source target).mapError .arithmetic
  match Cell.admit? source, Cell.admit? target with
  | some s, some t => return ⟨metric, aliasName, s, t, d⟩
  | _, _ => throw .inadmissible

def assemble (source target : Record) : Definition → Except Error Row
  | .direct metric aliasName =>
    ofValues metric aliasName (valueAt source aliasName) (valueAt target aliasName)
  | .ratio metric aliasName numerator denominator => do
    let s ← (quotientAt source numerator denominator).mapError .arithmetic
    let t ← (quotientAt target numerator denominator).mapError .arithmetic
    ofValues metric aliasName s t
  | .other name => throw (.unsupportedDefinition name)

/-- One row for each definition, in the order of the plan. -/
def assembleAll (definitions : List Definition) (source target : Record) :
    Except Error (List Row) :=
  definitions.mapM (assemble source target)

end Row
end CrossCheck
