import CrossCheck.Calendar

/-!
Moments by the seconds since the first of January 1970, in universal time.
-/

namespace CrossCheck

namespace Date

/-- Years begin in March here, so that a leap day is the last of its year; 400 of them are 146097
days. -/
def ofMarchDays (days : Nat) : Date :=
  let era := days / 146097
  let day := days % 146097
  let year := (day - day / 1460 + day / 36524 - day / 146096) / 365
  let dayOfYear := day - (365 * year + year / 4 - year / 100)
  let month := (5 * dayOfYear + 2) / 153
  let dayOfMonth := dayOfYear - (153 * month + 2) / 5 + 1
  if month < 10 then ⟨era * 400 + year, month + 3, dayOfMonth⟩
  else ⟨era * 400 + year + 1, month - 9, dayOfMonth⟩

/-- The first of March in year 0 was 719468 days before the epoch. -/
def ofEpochDays (days : Nat) : Date := ofMarchDays (days + 719468)

example : ofEpochDays 0 = ⟨1970, 1, 1⟩ := by decide
example : ofEpochDays 11016 = ⟨2000, 2, 29⟩ := by decide
example : ofEpochDays 19814 = ⟨2024, 4, 1⟩ := by decide

/-- How many days there are before a day, from the start of year 1 on. -/
def daysBefore (d : Date) : Nat :=
  let years := d.year - 1
  let months := (List.range (d.month - 1)).map fun m => daysInMonth d.year (m + 1)
  years * 365 + years / 4 - years / 100 + years / 400 + months.foldl (· + ·) 0 + (d.day - 1)

example : daysBefore ⟨1970, 1, 1⟩ = 719162 := by decide
example : daysBefore ⟨2001, 3, 1⟩ = daysBefore ⟨2001, 2, 28⟩ + 1 := by decide

end Date

namespace Timestamp

/-- The millionths of a second before a moment in universal time, if it has a zone. -/
def instant? (t : Timestamp) : Option Int :=
  t.zoneMinutes.map fun zone =>
    let minutes : Int := t.date.daysBefore * 1440 + t.time.hour * 60 + t.time.minute - zone
    (minutes * 60 + t.time.second) * 1000000 + t.time.microsecond

/-- Whether two moments are the same.  One with a zone is none without. -/
def isSame (t u : Timestamp) : Bool :=
  match t.instant?, u.instant? with
  | some a, some b => a = b
  | none, none => t = u
  | _, _ => false

end Timestamp

def Timestamp.ofEpoch (seconds microseconds : Nat) : Timestamp :=
  let second := seconds % 86400
  ⟨.ofEpochDays (seconds / 86400),
    ⟨second / 3600, second / 60 % 60, second % 60, microseconds⟩, some 0⟩

end CrossCheck
