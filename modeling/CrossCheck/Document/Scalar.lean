import CrossCheck.Measurement

/-!
Reading the members of documents.  Readers are lenient where a value can only mean one thing: a
number may be written as text, a truth value as a word.
-/

namespace CrossCheck
namespace Document

open Text

/-- A text, or bytes that spell one. -/
def text? : Value → Option String
  | .text s => some s
  | .bytes bs => String.fromUTF8? ⟨bs.toArray⟩
  | _ => none

/-- A word that says what the rest of a document is.  It is never spelt in bytes. -/
def kind? : Value → Option String
  | .text s => some s
  | _ => none

def trueWords : List String := ["1", "true", "t", "yes", "y", "on"]

def falseWords : List String := ["0", "false", "f", "no", "n", "off"]

def boolOfText? (s : String) : Option Bool :=
  let word := String.ofList (s.toList.map Char.toLower)
  if trueWords.contains word then some true
  else if falseWords.contains word then some false
  else none

def boolOfNumber? : Number → Option Bool
  | .int 0 => some false
  | .int 1 => some true
  | .int _ => none
  | .float x =>
    if x.isZero then some false else if x = .ofRatio false 1 1 then some true else none

def number? (v : Value) : Option Number := v.number?.bind Except.toOption

def bool? (v : Value) : Option Bool :=
  match v with
  | .bool b => some b
  | v =>
    match text? v with
    | some s => boolOfText? s
    | none => (number? v).bind boolOfNumber?

/-- The whole number that a binary number is, where it is one of 64 bits. -/
def wholeOfBinary64? : Binary64 → Option Int
  | .finite negative rank =>
    let units := Binary64.units rank
    if units % Binary64.unitsPerOne = 0 && units / Binary64.unitsPerOne < Nat.pow 2 63 then
      some (Reading.signed negative (units / Binary64.unitsPerOne))
    else none
  | _ => none

def int? (v : Value) : Option Int :=
  match v with
  | .bool b => some (if b then 1 else 0)
  | v =>
    match text? v, number? v with
    | some s, _ => Lenient.int? s
    | none, some (.int n) => some n
    | none, some (.float x) => wholeOfBinary64? x
    | none, none => none

/-- The nearest binary number, which is infinite for a whole number that is too large. -/
def nearest : Number → Binary64
  | .float x => x
  | .int n => (Binary64.ofInt? n).getD (.infinite (n < 0))

def binary64? (v : Value) : Option Binary64 :=
  match v with
  | .bool b => some (.ofRatio false (if b then 1 else 0) 1)
  | v =>
    match text? v with
    | some s => Lenient.binary64? s
    | none => (number? v).map nearest

def record? : Value → Option Record
  | .record ms => some ms
  | _ => none

def list? : Value → Option (List Value)
  | .list vs => some vs
  | _ => none

/-- A member that has to be there. -/
def required {α : Type} (r : Record) (name : String) (read : Value → Option α) : Option α :=
  (r.get? name).bind read

/-- A member that may be missing, but is not null when it is there. -/
def withDefault {α : Type} (r : Record) (name : String) (default : α) (read : Value → Option α) :
    Option α :=
  match r.get? name with
  | none => some default
  | some v => read v

/-- A value that may be null. -/
def nullable {α : Type} (read : Value → Option α) : Value → Option (Option α)
  | .null => some none
  | v => (read v).map some

def optional {α : Type} (r : Record) (name : String) (read : Value → Option α) :
    Option (Option α) :=
  withDefault r name none (nullable read)

def items {α : Type} (read : Value → Option α) (v : Value) : Option (List α) :=
  (list? v).bind fun vs => vs.mapM read

def ofOption {α : Type} (write : α → Value) : Option α → Value
  | none => .null
  | some x => write x

def ofText? (s : Option String) : Value := ofOption .text s

end Document
end CrossCheck
