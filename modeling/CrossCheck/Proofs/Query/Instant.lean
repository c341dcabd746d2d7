import CrossCheck.Calendar.Epoch
import CrossCheck.Proofs.Query.Alone
import Mathlib.Data.Rat.Defs
import Mathlib.Tactic.Ring

/-!
What typing leaves of a moment.  A time with a zone denotes a moment: the date and the clock of a
place, less what the clocks of that place are ahead of universal time.  Its typed literal holds the
date and the clock and nothing of the zone.
-/

namespace CrossCheck

open Text

namespace WrittenTime

/-! ## Moments -/

/-- The number that digits write, of whatever script they are. -/
def number (ds : List Char) : Nat := ds.foldl (fun n c => n * 10 + (digitValue? c).getD 0) 0

def date (t : WrittenTime) : Date :=
  ⟨number (t.day.take 4), number ((t.day.drop 5).take 2), number (t.day.drop 8)⟩

/-- The seconds since midnight.  A clock without seconds shows the beginning of its minute. -/
def clockSeconds (clock : List Char) : ℚ :=
  number (clock.take 2) * 3600 + number ((clock.drop 3).take 2) * 60 +
    number ((clock.drop 6).take 2) + number (clock.drop 9) / 10 ^ (clock.drop 9).length

/-- How many seconds a zone is ahead of universal time. -/
def zoneSeconds : List Char → Int
  | sign :: digits =>
    let ds := digits.filter isDigit
    let seconds : Int := (number (ds.take 2) * 60 + number (ds.drop 2)) * 60
    if sign = '-' then -seconds else seconds
  | [] => 0

/-- The seconds since the start of year 1 in the zone of the time itself. -/
def localSeconds (t : WrittenTime) : ℚ :=
  t.date.daysBefore * 86400 + clockSeconds (t.clock.getD [])

def offset (t : WrittenTime) : Int := zoneSeconds (t.zone.getD [])

/-- The seconds since the start of year 1 in universal time. -/
def instant (t : WrittenTime) : ℚ := t.localSeconds - t.offset

theorem localSeconds_congr {t u : WrittenTime} (hday : t.day = u.day) (hclock : t.clock = u.clock) :
    t.localSeconds = u.localSeconds := by
  rw [localSeconds, localSeconds, date, date, hday, hclock]

theorem instant_eq_iff {t u : WrittenTime} (h : t.localSeconds = u.localSeconds) :
    t.instant = u.instant ↔ t.offset = u.offset := by
  rw [instant, instant, h, sub_right_inj, Int.cast_inj]

/-- Half past one in the morning, five and a half hours ahead, is eight in the evening of the day
before. -/
example :
    instant ⟨"2024-03-01".toList, some "01:30".toList, some "+0530".toList⟩ =
      instant ⟨"2024-02-29".toList, some "20:00:00.00".toList, some ['Z']⟩ := by decide +kernel

end WrittenTime

namespace Query

open WrittenTime

theorem typedLiteral_inj {t u : WrittenTime} (ht : t.IsZoned) (hu : u.IsZoned)
    (h : typedLiteral t = typedLiteral u) : t.day = u.day ∧ t.clock = u.clock := by
  obtain ⟨clock, hclock⟩ := Option.isSome_iff_exists.1 ht.clock_isSome
  obtain ⟨clock', hclock'⟩ := Option.isSome_iff_exists.1 hu.clock_isSome
  rw [typedLiteral_eq, typedLiteral_eq, hclock, hclock', Option.elim_some, Option.elim_some,
    List.append_assoc, List.append_assoc] at h
  have hlength : t.day.length = u.day.length := by
    rw [length_dayForm ht.day, length_dayForm hu.day]
  obtain ⟨hday, hrest⟩ := List.append_inj (List.append_cancel_left h) hlength
  refine ⟨hday, ?_⟩
  rw [hclock, hclock', List.append_cancel_right (List.cons.inj hrest).2]

/-- A query with a time between two texts. -/
def queryAround (before after : String) (t : WrittenTime) : String :=
  before ++ String.ofList t.chars ++ after

/-- The time stands alone in the query and is replaced by the literal there. -/
structure BecomesAt (t : WrittenTime) (literal before after : String) : Prop where
  alone : StandsAlone before.toList after.toList
  typed : typeDates (queryAround before after t) = typeDates before ++ literal ++ typeDates after

theorem becomesAt_typedLiteral {t : WrittenTime} (ht : t.IsZoned) {before after : String}
    (h : StandsAlone before.toList after.toList) :
    BecomesAt t (String.ofList (typedLiteral t)) before after := by
  refine ⟨h, ?_⟩
  have hchars : (queryAround before after t).toList =
      before.toList ++ (t.chars ++ after.toList) := by
    simp [queryAround]
  rw [typeDates, hchars, typeDatesChars_alone ht h, String.ofList_append, String.ofList_append,
    ← String.append_assoc]
  rfl

theorem BecomesAt.toList_eq {t : WrittenTime} (ht : t.IsZoned) {literal before after : String}
    (h : BecomesAt t literal before after) : literal.toList = typedLiteral t := by
  have hsame := congrArg String.toList
    (h.typed.symm.trans (becomesAt_typedLiteral ht h.alone).typed)
  simp only [String.toList_append, String.toList_ofList, List.append_assoc] at hsame
  exact List.append_cancel_right (List.append_cancel_left hsame)

/-- Wherever a time with a zone stands alone it becomes its typed literal.  Times that become the
same literal agree in date and clock, so that they are as far apart as their zones are, and the
same moment exactly if their zones are equally far from universal time. -/
theorem typeDates_zoned {t u : WrittenTime} (ht : t.IsZoned) (hu : u.IsZoned) :
    (∀ before after : String, StandsAlone before.toList after.toList →
      BecomesAt t (String.ofList (typedLiteral t)) before after) ∧
    ∀ literal before after before' after' : String,
      BecomesAt t literal before after → BecomesAt u literal before' after' →
      t.day = u.day ∧ t.clock = u.clock ∧
      t.instant - u.instant = (u.offset : ℚ) - t.offset ∧
      (t.instant = u.instant ↔ t.offset = u.offset) := by
  refine ⟨fun before after h => becomesAt_typedLiteral ht h, ?_⟩
  intro literal before after before' after' hthere hthere'
  have hliteral : typedLiteral t = typedLiteral u :=
    (hthere.toList_eq ht).symm.trans (hthere'.toList_eq hu)
  obtain ⟨hday, hclock⟩ := typedLiteral_inj ht hu hliteral
  have hlocal := localSeconds_congr hday hclock
  refine ⟨hday, hclock, ?_, instant_eq_iff hlocal⟩
  rw [instant, instant, hlocal]
  ring

/-- Eight in the morning of the first of February 2024, in a zone. -/
def eightIn (zone : List Char) : WrittenTime :=
  ⟨"2024-02-01".toList, some "08:00:00".toList, some zone⟩

theorem isZoned_eightIn {zone : List Char}
    (h : (eightIn zone, []) ∈ readings (eightIn zone).chars) : (eightIn zone).IsZoned :=
  ⟨(readings_sound h).1, rfl, rfl⟩

theorem standsAlone_of_not_mem {before after : String} (hquote : '\'' ∉ before.toList)
    (hbefore : before.toList.getLast?.all (!clings ·) = true)
    (hafter : after.toList.head?.all (!clings ·) = true) :
    StandsAlone before.toList after.toList := by
  refine ⟨isClosed_of_not_mem hquote, fun c hc => ?_, fun c hc => ?_⟩
  · rw [hc] at hbefore
    simpa using hbefore
  · rw [hc] at hafter
    simpa using hafter

/-- Universal time, and no distance from it. -/
theorem typeDates_zoned_utc :
    (eightIn ['Z']).IsZoned ∧ (eightIn "-0000".toList).IsZoned ∧
      BecomesAt (eightIn ['Z']) "CAST('2024-02-01 08:00:00' AS TIMESTAMP)" "Closed >= " "" ∧
      BecomesAt (eightIn "-0000".toList) "CAST('2024-02-01 08:00:00' AS TIMESTAMP)" "(" ")" ∧
      (eightIn ['Z']).instant = (eightIn "-0000".toList).instant := by
  have ht : (eightIn ['Z']).IsZoned := isZoned_eightIn (by decide +kernel)
  have hu : (eightIn "-0000".toList).IsZoned := isZoned_eightIn (by decide +kernel)
  have hthere := (typeDates_zoned ht hu).1 "Closed >= " ""
    (standsAlone_of_not_mem (by decide) (by decide +kernel) (by decide))
  have hthere' := (typeDates_zoned hu ht).1 "(" ")"
    (standsAlone_of_not_mem (by decide) (by decide +kernel) (by decide +kernel))
  obtain ⟨-, -, -, hinstant⟩ := (typeDates_zoned ht hu).2 _ _ _ _ _ hthere hthere'
  exact ⟨ht, hu, hthere, hthere', hinstant.2 (by decide +kernel)⟩

/-- Two hours apart, and the same literal. -/
theorem typeDates_zoned_apart :
    (eightIn ['Z']).IsZoned ∧ (eightIn "+02:00".toList).IsZoned ∧
      BecomesAt (eightIn ['Z']) "CAST('2024-02-01 08:00:00' AS TIMESTAMP)" "CreatedDate >= " "" ∧
      BecomesAt (eightIn "+02:00".toList) "CAST('2024-02-01 08:00:00' AS TIMESTAMP)"
        "CreatedDate < " "" ∧
      (eightIn ['Z']).instant - (eightIn "+02:00".toList).instant = 7200 ∧
      typeDates ("CreatedDate >= 2024-02-01T08:00:00Z OR " ++
          "CreatedDate < 2024-02-01T08:00:00+02:00") =
        "CreatedDate >= CAST('2024-02-01 08:00:00' AS TIMESTAMP) OR " ++
          "CreatedDate < CAST('2024-02-01 08:00:00' AS TIMESTAMP)" := by
  have ht : (eightIn ['Z']).IsZoned := isZoned_eightIn (by decide +kernel)
  have hu : (eightIn "+02:00".toList).IsZoned := isZoned_eightIn (by decide +kernel)
  refine ⟨ht, hu, becomesAt_typedLiteral ht ?_, becomesAt_typedLiteral hu ?_, by decide +kernel,
    by decide +kernel⟩
  · exact standsAlone_of_not_mem (by decide) (by decide +kernel) (by decide)
  · exact standsAlone_of_not_mem (by decide) (by decide +kernel) (by decide)

end Query
end CrossCheck
