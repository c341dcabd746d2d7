import CrossCheck.Calendar
import CrossCheck.Named
import CrossCheck.Number.Decimal
import CrossCheck.Text.Quoted

/-!
Values as a backend returns them and as documents hold them.
-/

namespace CrossCheck

/-- Records keep their members in order. -/
inductive Value where
  | null
  | bool (b : Bool)
  | int (n : Int)
  | float (x : Binary64)
  | decimal (d : Decimal)
  | text (s : String)
  | date (d : Date)
  | time (t : TimeOfDay)
  | timestamp (t : Timestamp)
  | bytes (bs : List UInt8)
  | list (vs : List Value)
  | record (members : List (String × Value))

instance : Inhabited Value := ⟨.null⟩

/-- One row of a result, or an object of a document. -/
abbrev Record := Named Value

namespace Record

/-- The columns of a result with the fields of one row, taken from left to right. -/
def ofColumns (columns : List String) (fields : List Value) : Record :=
  Named.ofList (columns.zip fields)

end Record

namespace Value

/-- Whether a value counts as given: nothing, zero and what is empty do not. -/
def isTruthy : Value → Bool
  | null => false
  | bool b => b
  | int n => n ≠ 0
  | float x => !x.isZero
  | decimal (.finite _ c _) => c ≠ 0
  | text s => s ≠ ""
  | bytes bs => !bs.isEmpty
  | list vs => !vs.isEmpty
  | record ms => !ms.isEmpty
  | _ => true

/-- A name with what belongs to it in parentheses. -/
def named (name : String) (parts : List (List Char)) : List Char :=
  name.toList ++ '(' :: Text.joinWith [',', ' '] parts ++ [')']

def dateParts (d : Date) : List (List Char) := [natText d.year, natText d.month, natText d.day]

/-- Trailing parts that are zero are left out, but for the minute. -/
def timeParts (t : TimeOfDay) : List (List Char) :=
  [natText t.hour, natText t.minute] ++
    (if t.second = 0 && t.microsecond = 0 then [] else [natText t.second]) ++
    (if t.microsecond = 0 then [] else [natText t.microsecond])

/-- A distance from universal time in days and seconds, the seconds never below zero. -/
def zoneParts (minutes : Int) : List Char :=
  if minutes = 0 then "tzinfo=datetime.timezone.utc".toList
  else
    let seconds := "seconds=".toList ++ natText ((minutes * 60) % 86400).toNat
    "tzinfo=".toList ++ named "datetime.timezone"
      [named "datetime.timedelta" ((if minutes < 0 then ["days=-1".toList] else []) ++ [seconds])]

mutual

/-- A value as it is shown inside a list or record, where texts stand between quotes and dates,
times and decimals say what they are. -/
def shown : Value → List Char
  | null => ['N', 'o', 'n', 'e']
  | bool b => if b then ['T', 'r', 'u', 'e'] else ['F', 'a', 'l', 's', 'e']
  | int n => intText n
  | float x => x.text.toList
  | decimal d => named "Decimal" [Text.quoted d.text.toList]
  | text s => Text.quoted s.toList
  | date d => named "datetime.date" (dateParts d)
  | time t => named "datetime.time" (timeParts t)
  | timestamp t =>
    named "datetime.datetime"
      (dateParts t.date ++ timeParts t.time ++ (t.zoneMinutes.map zoneParts).toList)
  | bytes bs => Text.quotedBytes bs
  | list vs => '[' :: Text.joinWith [',', ' '] (shownAll vs) ++ [']']
  | record ms => '\x7b' :: Text.joinWith [',', ' '] (shownMembers ms) ++ ['\x7d']

def shownAll : List Value → List (List Char)
  | [] => []
  | v :: vs => shown v :: shownAll vs

def shownMembers : List (String × Value) → List (List Char)
  | [] => []
  | (name, v) :: ms => (Text.quoted name.toList ++ ':' :: ' ' :: shown v) :: shownMembers ms

end

/-- A value on its own: a text is itself, and a date or time stands in its ISO form. -/
def display : Value → String
  | text s => s
  | decimal d => d.text
  | date d => String.ofList d.iso
  | time t => String.ofList t.iso
  | timestamp t => String.ofList (t.write ' ')
  | v => String.ofList v.shown

mutual

/-- Whether no whole number in a value has more digits than are ever written out. -/
def isWritable : Value → Bool
  | int n => (natText n.natAbs).length ≤ longestWhole
  | list vs => areWritable vs
  | record ms => areMembersWritable ms
  | _ => true

def areWritable : List Value → Bool
  | [] => true
  | v :: vs => isWritable v && areWritable vs

def areMembersWritable : List (String × Value) → Bool
  | [] => true
  | (_, v) :: ms => isWritable v && areMembersWritable ms

end

end Value
end CrossCheck
