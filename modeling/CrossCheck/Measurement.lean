import CrossCheck.Metric
import CrossCheck.Number.Lenient
import CrossCheck.Value

/-!
What one environment measured: the values that a backend may return, brought to the few sorts
that a comparison holds.
-/

namespace CrossCheck

/-- One side of a comparison. -/
inductive Cell where
  | null
  | number (n : Number)
  | text (s : String)
deriving DecidableEq

namespace Value

/-- The number that a value is.  Truth values are no numbers here: their difference would mean
nothing. -/
def number? : Value → Option (Except ArithmeticError Number)
  | int n => some (.ok (.int n))
  | float x => some (.ok (.float x))
  | decimal d => some d.toNumber
  | _ => none

def isNumber (v : Value) : Bool := v.number?.isSome

end Value

namespace Cell

def toValue : Cell → Value
  | null => .null
  | number (.int n) => .int n
  | number (.float x) => .float x
  | text s => .text s

def ofText (cs : List Char) : Cell :=
  match Reading.binary64? cs with
  | some x => number (.float x)
  | none => null

/-- A measured number.  Text counts when it spells one; bytes count as the text of ASCII. -/
def ofNumeric : Value → Except ArithmeticError Cell
  | .bool b => .ok (number (.int (if b then 1 else 0)))
  | .int n => .ok (number (.int n))
  | .float x => .ok (number (.float x))
  | .decimal d => d.toNumber.map number
  | .text s => .ok (ofText s.toList)
  | .bytes bs =>
    if bs.all (· < 0x80) then .ok (ofText (bs.map fun b => Char.ofNat b.toNat)) else .ok null
  | _ => .ok null

/-- A measured date, as text.  What is neither a date nor text is shown as it is, if it can be
written out. -/
def ofTemporal : Value → Except ArithmeticError Cell
  | .null => .ok null
  | .date d => .ok (text (String.ofList d.iso))
  | .time t => .ok (text (String.ofList t.iso))
  | .timestamp t => .ok (text (String.ofList t.iso))
  | v => if v.isWritable then .ok (text v.display) else .error .unwritable

/-- What a metric of a value type takes a raw value for. -/
def normalize : ValueType → Value → Except ArithmeticError Cell
  | .number, v => ofNumeric v
  | .date, v => ofTemporal v

/-- What bytes spell: a number if they can, or else a text. -/
def ofBytes? (bs : List UInt8) : Option Cell :=
  (String.fromUTF8? ⟨bs.toArray⟩).map fun s => ((Lenient.number? s).map number).getD (text s)

/-- A value as it is, if a comparison can hold it.  Truth values become whole numbers, decimals
binary ones, and bytes what they spell. -/
def admit? : Value → Option Cell
  | .null => some null
  | .bool b => some (number (.int (if b then 1 else 0)))
  | .int n => some (number (.int n))
  | .float x => some (number (.float x))
  | .text s => some (text s)
  | .decimal d => d.toBinary64?.map fun x => number (.float x)
  | .bytes bs => ofBytes? bs
  | _ => none

theorem toValue_injective {a b : Cell} (h : a.toValue = b.toValue) : a = b := by
  cases a with
  | null => cases b with
    | null => rfl
    | number n => cases n <;> simp [toValue] at h
    | text s => simp [toValue] at h
  | number n => cases b with
    | null => cases n <;> simp [toValue] at h
    | number m => cases n <;> cases m <;> simp_all [toValue]
    | text s => cases n <;> simp [toValue] at h
  | text s => cases b with
    | null => simp [toValue] at h
    | number n => cases n <;> simp [toValue] at h
    | text t => simp_all [toValue]

theorem admit?_toValue (c : Cell) : admit? c.toValue = some c := by
  cases c with
  | null => rfl
  | number n => cases n <;> rfl
  | text s => rfl

end Cell
end CrossCheck
