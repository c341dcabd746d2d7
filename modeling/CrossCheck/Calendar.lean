import CrossCheck.Number.Notation

/-!
Dates and times of day, and their ISO 8601 forms.
-/

namespace CrossCheck

structure Date where
  year : Nat
  month : Nat
  day : Nat
deriving DecidableEq

structure TimeOfDay where
  hour : Nat
  minute : Nat
  second : Nat
  microsecond : Nat
deriving DecidableEq

/-- A date and a time, either without a zone or at a fixed distance from universal time. -/
structure Timestamp where
  date : Date
  time : TimeOfDay
  zoneMinutes : Option Int
deriving DecidableEq

/-- A number padded with zeros on the left. -/
def zeroPadded (width n : Nat) : List Char :=
  List.replicate (width - (natText n).length) '0' ++ natText n

namespace Date

def isLeap (year : Nat) : Bool := year % 4 = 0 && (year % 100 ≠ 0 || year % 400 = 0)

def daysInMonth (year month : Nat) : Nat :=
  if month = 2 then (if isLeap year then 29 else 28)
  else if [4, 6, 9, 11].contains month then 30 else 31

/-- Whether there is such a day.  Years are 1 to 9999. -/
def isValid (d : Date) : Bool :=
  1 ≤ d.year && d.year ≤ 9999 && 1 ≤ d.month && d.month ≤ 12 && 1 ≤ d.day &&
    d.day ≤ daysInMonth d.year d.month

def iso (d : Date) : List Char :=
  zeroPadded 4 d.year ++ '-' :: zeroPadded 2 d.month ++ '-' :: zeroPadded 2 d.day

end Date

namespace TimeOfDay

/-- Whether there is such a time.  No second is the sixtieth. -/
def isValid (t : TimeOfDay) : Bool :=
  t.hour < 24 && t.minute < 60 && t.second < 60 && t.microsecond < 1000000

/-- The fraction is written in full or, when it is zero, not at all. -/
def iso (t : TimeOfDay) : List Char :=
  zeroPadded 2 t.hour ++ ':' :: zeroPadded 2 t.minute ++ ':' :: zeroPadded 2 t.second ++
    (if t.microsecond = 0 then [] else '.' :: zeroPadded 6 t.microsecond)

end TimeOfDay

namespace Timestamp

def zoneText (minutes : Int) : List Char :=
  (if minutes < 0 then '-' else '+') :: zeroPadded 2 (minutes.natAbs / 60) ++
    ':' :: zeroPadded 2 (minutes.natAbs % 60)

def write (separator : Char) (t : Timestamp) : List Char :=
  t.date.iso ++ separator :: t.time.iso ++ (t.zoneMinutes.map zoneText).getD []

def iso (t : Timestamp) : List Char := write 'T' t

end Timestamp
end CrossCheck
