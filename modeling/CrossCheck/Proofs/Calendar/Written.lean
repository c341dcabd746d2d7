import CrossCheck.Calendar.Written
import CrossCheck.Proofs.Text.Run

/-!
The forms of days, clocks and zones, apart from their readers.  Where a time and nothing else
stands, the first thing that the reader tries is the whole of it.
-/

namespace CrossCheck
namespace WrittenTime

open Text

/-! ## Forms -/

def IsDigits (n : Nat) (cs : List Char) : Prop := cs.length = n ∧ cs.all isDigit = true

/-- `yyyy-mm-dd` -/
inductive DayForm : List Char → Prop where
  | intro {year month day : List Char} (hyear : IsDigits 4 year) (hmonth : IsDigits 2 month)
      (hday : IsDigits 2 day) : DayForm (year ++ '-' :: month ++ '-' :: day)

/-- `hh:mm`, perhaps with seconds, and these with any number of places -/
inductive ClockForm : List Char → Prop where
  | minutes {hour minute : List Char} (hhour : IsDigits 2 hour) (hminute : IsDigits 2 minute) :
      ClockForm (hour ++ ':' :: minute)
  | seconds {hour minute second : List Char} (hhour : IsDigits 2 hour)
      (hminute : IsDigits 2 minute) (hsecond : IsDigits 2 second) :
      ClockForm (hour ++ ':' :: minute ++ ':' :: second)
  | fraction {hour minute second places : List Char} (hhour : IsDigits 2 hour)
      (hminute : IsDigits 2 minute) (hsecond : IsDigits 2 second) (hne : places ≠ [])
      (hplaces : places.all isDigit = true) :
      ClockForm (hour ++ ':' :: minute ++ ':' :: second ++ '.' :: places)

def IsSign (c : Char) : Prop := c = '+' ∨ c = '-'

/-- `Z`, `+hh:mm` or `+hhmm`, and the same with a minus -/
inductive ZoneForm : List Char → Prop where
  | utc : ZoneForm ['Z']
  | colon {sign : Char} {hour minute : List Char} (hsign : IsSign sign) (hhour : IsDigits 2 hour)
      (hminute : IsDigits 2 minute) : ZoneForm (sign :: hour ++ ':' :: minute)
  | plain {sign : Char} {hour minute : List Char} (hsign : IsSign sign) (hhour : IsDigits 2 hour)
      (hminute : IsDigits 2 minute) : ZoneForm (sign :: hour ++ minute)

def chars (t : WrittenTime) : List Char :=
  t.day ++ (t.clock.elim [] ('T' :: ·) ++ t.zone.getD [])

structure IsFormed (t : WrittenTime) : Prop where
  day : DayForm t.day
  clock : ∀ clock ∈ t.clock, ClockForm clock
  zone : ∀ zone ∈ t.zone, ZoneForm zone

/-- What counts as a date of its own: a zone needs a clock. -/
structure IsDate (t : WrittenTime) : Prop extends IsFormed t where
  zone_clock : t.clock = none → t.zone = none

/-! ## Readers of one form -/

/-- A reader takes the texts of a form, whatever follows them, and nothing else. -/
structure Takes (read : List Char → Option Reading) (form : List Char → Prop) : Prop where
  sound : ∀ {cs taken rest}, read cs = some (taken, rest) → form taken ∧ cs = taken ++ rest
  complete : ∀ {taken} rest, form taken → read (taken ++ rest) = some (taken, rest)

theorem takes_digits? (n : Nat) : Takes (digits? n) (IsDigits n) := by
  induction n with
  | zero =>
    refine ⟨fun h => ?_, fun rest h => ?_⟩
    · obtain ⟨rfl, rfl⟩ := Prod.mk.inj (Option.some.inj h)
      exact ⟨⟨rfl, rfl⟩, rfl⟩
    · rw [List.length_eq_zero_iff.1 h.1]
      rfl
  | succ n ih =>
    refine ⟨fun {cs taken rest} h => ?_, fun {taken} rest h => ?_⟩
    · cases cs with
      | nil => cases h
      | cons c cs =>
        rw [digits?] at h
        split at h
        · next hc =>
          obtain ⟨⟨ds, after⟩, hds, heq⟩ := Option.map_eq_some_iff.1 h
          obtain ⟨rfl, rfl⟩ := Prod.mk.inj heq
          obtain ⟨⟨hlength, hall⟩, rfl⟩ := ih.sound hds
          exact ⟨⟨congrArg Nat.succ hlength, Bool.and_eq_true_iff.2 ⟨hc, hall⟩⟩, rfl⟩
        · cases h
    · obtain ⟨hlength, hall⟩ := h
      cases taken with
      | nil => cases hlength
      | cons c ds =>
        obtain ⟨hc, hds⟩ := Bool.and_eq_true_iff.1 hall
        rw [List.cons_append, digits?, if_pos hc, ih.complete rest ⟨Nat.succ.inj hlength, hds⟩]
        rfl

theorem takes_mark? (c : Char) : Takes (mark? c) (· = [c]) := by
  refine ⟨fun {cs taken rest} h => ?_, fun rest h => ?_⟩
  · cases cs with
    | nil => cases h
    | cons d cs =>
      rw [mark?] at h
      split at h
      · next hd =>
        obtain ⟨rfl, rfl⟩ := Prod.mk.inj (Option.some.inj h)
        exact ⟨rfl, congrArg (· :: cs) hd⟩
      · cases h
  · rw [h, List.singleton_append, mark?, if_pos rfl]

section
variable {first second : List Char → Option Reading} {form form' : List Char → Prop}

theorem andThen_eq_some_iff {cs taken rest : List Char} :
    andThen first second cs = some (taken, rest) ↔
      ∃ as mid bs, first cs = some (as, mid) ∧ second mid = some (bs, rest) ∧ taken = as ++ bs := by
  simp only [andThen, Option.bind_eq_bind, Option.bind_eq_some_iff]
  constructor
  · rintro ⟨⟨as, mid⟩, ha, ⟨bs, after⟩, hb, heq⟩
    obtain ⟨rfl, rfl⟩ := Prod.mk.inj (Option.some.inj heq)
    exact ⟨as, mid, bs, ha, hb, rfl⟩
  · rintro ⟨as, mid, bs, ha, hb, rfl⟩
    exact ⟨(as, mid), ha, (bs, rest), hb, rfl⟩

theorem Takes.andThen (h : Takes first form) (h' : Takes second form') :
    Takes (andThen first second) fun cs => ∃ as bs, form as ∧ form' bs ∧ cs = as ++ bs := by
  refine ⟨fun hread => ?_, fun rest hform => ?_⟩
  · obtain ⟨as, mid, bs, ha, hb, rfl⟩ := andThen_eq_some_iff.1 hread
    obtain ⟨hform, rfl⟩ := h.sound ha
    obtain ⟨hform', rfl⟩ := h'.sound hb
    exact ⟨⟨as, bs, hform, hform', rfl⟩, (List.append_assoc as bs _).symm⟩
  · obtain ⟨as, bs, hform, hform', rfl⟩ := hform
    rw [List.append_assoc]
    exact andThen_eq_some_iff.2
      ⟨as, bs ++ rest, bs, h.complete _ hform, h'.complete rest hform', rfl⟩

theorem Takes.congr (h : Takes first form) (hform : ∀ cs, form cs ↔ form' cs) :
    Takes first form' :=
  ⟨fun hread => ⟨(hform _).1 (h.sound hread).1, (h.sound hread).2⟩,
    fun rest hform' => h.complete rest ((hform _).2 hform')⟩

end

theorem takes_twoDigitsAfter (c : Char) :
    Takes (twoDigitsAfter c) fun cs => ∃ ds, IsDigits 2 ds ∧ cs = c :: ds := by
  refine ((takes_mark? c).andThen (takes_digits? 2)).congr fun cs => ?_
  constructor
  · rintro ⟨_, ds, rfl, hds, rfl⟩
    exact ⟨ds, hds, rfl⟩
  · rintro ⟨ds, hds, rfl⟩
    exact ⟨[c], ds, rfl, hds, rfl⟩

theorem takes_day? : Takes day? DayForm := by
  have htail := (takes_twoDigitsAfter '-').andThen (takes_twoDigitsAfter '-')
  refine ((takes_digits? 4).andThen htail).congr fun cs => ?_
  constructor
  · rintro ⟨year, _, hyear, ⟨_, _, ⟨month, hmonth, rfl⟩, ⟨day, hday, rfl⟩, rfl⟩, rfl⟩
    rw [← List.append_assoc]
    exact .intro hyear hmonth hday
  · rintro ⟨hyear, hmonth, hday⟩
    exact ⟨_, _, hyear, ⟨_, _, ⟨_, hmonth, rfl⟩, ⟨_, hday, rfl⟩, rfl⟩, List.append_assoc _ _ _⟩

theorem takes_minutes? : Takes minutes? fun cs => ∃ hour minute, IsDigits 2 hour ∧
    IsDigits 2 minute ∧ cs = hour ++ ':' :: minute := by
  refine ((takes_digits? 2).andThen (takes_twoDigitsAfter ':')).congr fun cs => ?_
  constructor
  · rintro ⟨hour, _, hhour, ⟨minute, hminute, rfl⟩, rfl⟩
    exact ⟨hour, minute, hhour, hminute, rfl⟩
  · rintro ⟨hour, minute, hhour, hminute, rfl⟩
    exact ⟨hour, _, hhour, ⟨minute, hminute, rfl⟩, rfl⟩

theorem takes_seconds? : Takes seconds? fun cs => ∃ hour minute second, IsDigits 2 hour ∧
    IsDigits 2 minute ∧ IsDigits 2 second ∧ cs = hour ++ ':' :: minute ++ ':' :: second := by
  refine (takes_minutes?.andThen (takes_twoDigitsAfter ':')).congr fun cs => ?_
  constructor
  · rintro ⟨_, _, ⟨hour, minute, hhour, hminute, rfl⟩, ⟨second, hsecond, rfl⟩, rfl⟩
    exact ⟨hour, minute, second, hhour, hminute, hsecond, rfl⟩
  · rintro ⟨hour, minute, second, hhour, hminute, hsecond, rfl⟩
    exact ⟨_, _, ⟨hour, minute, hhour, hminute, rfl⟩, ⟨second, hsecond, rfl⟩, rfl⟩

/-- The places of a second go on as long as there are digits. -/
theorem fraction?_eq_some_iff {cs taken rest : List Char} :
    fraction? cs = some (taken, rest) ↔ ∃ places, places ≠ [] ∧ places.all isDigit = true ∧
      (∀ c ∈ rest.head?, isDigit c = false) ∧ taken = '.' :: places ∧ cs = taken ++ rest := by
  simp only [fraction?, Option.bind_eq_bind, Option.bind_eq_some_iff]
  constructor
  · rintro ⟨⟨point, after⟩, hpoint, h⟩
    obtain ⟨rfl, rfl⟩ := (takes_mark? '.').sound hpoint
    rw [Option.ite_none_left_eq_some] at h
    obtain ⟨hne, heq⟩ := h
    obtain ⟨rfl, rfl⟩ := Prod.mk.inj (Option.some.inj heq)
    refine ⟨after.takeWhile isDigit, by simpa [span] using hne, List.all_takeWhile,
      fun c hc => ?_, rfl, ?_⟩
    · have hnot := List.head?_dropWhile_not isDigit after
      rw [show (after.dropWhile isDigit).head? = some c from hc] at hnot
      simpa using hnot
    · rw [List.append_assoc]
      exact congrArg ('.' :: ·) List.takeWhile_append_dropWhile.symm
  · rintro ⟨places, hne, hplaces, hrest, rfl, rfl⟩
    refine ⟨(['.'], places ++ rest), (takes_mark? '.').complete _ rfl, ?_⟩
    rw [span_append hplaces hrest]
    simp [hne]

theorem head?_of_isDigits {cs rest : List Char} (h : IsDigits 2 cs) :
    ∀ c ∈ (cs ++ rest).head?, isDigit c = true := by
  intro c hc
  cases cs with
  | nil => cases h.1
  | cons d cs =>
    obtain rfl : d = c := Option.some.inj hc
    exact (Bool.and_eq_true_iff.1 h.2).1

theorem mark?_eq_none {c : Char} {cs : List Char} (h : ∀ d ∈ cs.head?, d ≠ c) :
    mark? c cs = none := by
  cases cs with
  | nil => rfl
  | cons d cs => rw [mark?, if_neg (h d rfl)]

theorem twoDigitsAfter_eq_none {c : Char} {cs : List Char} (h : ∀ d ∈ cs.head?, d ≠ c) :
    twoDigitsAfter c cs = none := by
  rw [twoDigitsAfter, andThen, mark?_eq_none h]
  rfl

/-- A zone's minutes, with a colon or without. -/
theorem takes_zoneMinutes : Takes (fun cs => (twoDigitsAfter ':' cs).or (digits? 2 cs)) fun cs =>
    (∃ minute, IsDigits 2 minute ∧ cs = ':' :: minute) ∨ IsDigits 2 cs := by
  refine ⟨fun h => ?_, fun rest h => ?_⟩
  · rcases Option.or_eq_some_iff.1 h with h | ⟨-, h⟩
    · obtain ⟨hform, heq⟩ := (takes_twoDigitsAfter ':').sound h
      exact ⟨.inl hform, heq⟩
    · obtain ⟨hform, heq⟩ := (takes_digits? 2).sound h
      exact ⟨.inr hform, heq⟩
  · rcases h with h | h
    · exact Option.or_eq_some_iff.2 (.inl ((takes_twoDigitsAfter ':').complete rest h))
    · have hcolon : ∀ d ∈ (_ ++ rest).head?, d ≠ ':' := fun d hd hd' =>
        absurd (head?_of_isDigits h d hd) (by rw [hd']; decide)
      exact Option.or_eq_some_iff.2
        (.inr ⟨twoDigitsAfter_eq_none hcolon, (takes_digits? 2).complete rest h⟩)

theorem zoneForm_cons_iff {sign : Char} {cs : List Char} (hsign : IsSign sign) :
    ZoneForm (sign :: cs) ↔ ∃ hour minutes, IsDigits 2 hour ∧
      ((∃ minute, IsDigits 2 minute ∧ minutes = ':' :: minute) ∨ IsDigits 2 minutes) ∧
        cs = hour ++ minutes := by
  constructor
  · intro h
    cases h with
    | utc => rcases hsign with h | h <;> cases h
    | colon _ hhour hminute => exact ⟨_, _, hhour, .inl ⟨_, hminute, rfl⟩, rfl⟩
    | plain _ hhour hminute => exact ⟨_, _, hhour, .inr hminute, rfl⟩
  · rintro ⟨hour, minutes, hhour, ⟨minute, hminute, rfl⟩ | hminute, rfl⟩
    · exact .colon hsign hhour hminute
    · exact .plain hsign hhour hminute

theorem head_of_zoneForm {cs : List Char} (h : ZoneForm cs) :
    ∃ c rest, cs = c :: rest ∧ (c = 'Z' ∧ rest = [] ∨ IsSign c) := by
  cases h with
  | utc => exact ⟨'Z', [], rfl, .inl ⟨rfl, rfl⟩⟩
  | colon hsign _ _ => exact ⟨_, _, rfl, .inr hsign⟩
  | plain hsign _ _ => exact ⟨_, _, rfl, .inr hsign⟩

theorem zone?_sign {sign : Char} (hsign : IsSign sign) (cs : List Char) :
    zone? (sign :: cs) = (andThen (digits? 2)
      (fun cs => (twoDigitsAfter ':' cs).or (digits? 2 cs)) cs).map
        fun (taken, rest) => (sign :: taken, rest) := by
  have hutc : sign ≠ 'Z' := by rcases hsign with rfl | rfl <;> decide
  have hboth : (sign = '+' || sign = '-') = true := by
    rcases hsign with rfl | rfl <;> rfl
  rw [zone?, if_pos hboth, andThen]
  · cases digits? 2 cs with
    | none => rfl
    | some hour =>
      obtain ⟨hour, mid⟩ := hour
      cases h : (twoDigitsAfter ':' mid).or (digits? 2 mid) <;> simp [h]
  · exact hutc

theorem zone?_eq_none {c : Char} (hutc : c ≠ 'Z') (hsign : ¬ IsSign c) (cs : List Char) :
    zone? (c :: cs) = none := by
  rw [zone?, if_neg]
  · simpa [IsSign] using hsign
  · exact hutc

theorem takes_zone? : Takes zone? ZoneForm := by
  have hoffset := (takes_digits? 2).andThen takes_zoneMinutes
  refine ⟨fun {cs taken rest} h => ?_, fun {taken} rest h => ?_⟩
  · cases cs with
    | nil => cases h
    | cons c cs =>
      by_cases hutc : c = 'Z'
      · subst hutc
        obtain ⟨rfl, rfl⟩ := Prod.mk.inj (Option.some.inj h)
        exact ⟨.utc, rfl⟩
      by_cases hsign : IsSign c
      · rw [zone?_sign hsign] at h
        obtain ⟨⟨offset, after⟩, hread, heq⟩ := Option.map_eq_some_iff.1 h
        obtain ⟨rfl, rfl⟩ := Prod.mk.inj heq
        obtain ⟨⟨hour, minutes, hhour, hminutes, rfl⟩, rfl⟩ := hoffset.sound hread
        exact ⟨(zoneForm_cons_iff hsign).2 ⟨hour, minutes, hhour, hminutes, rfl⟩, rfl⟩
      · rw [zone?_eq_none hutc hsign] at h
        cases h
  · obtain ⟨c, more, rfl, ⟨rfl, rfl⟩ | hsign⟩ := head_of_zoneForm h
    · rfl
    · have hform := (zoneForm_cons_iff hsign).1 h
      obtain ⟨hour, minutes, hhour, hminutes, heq⟩ := hform
      rw [List.cons_append, zone?_sign hsign,
        hoffset.complete rest ⟨hour, minutes, hhour, hminutes, heq⟩]
      rfl

/-! ## Clocks -/

/-- A clock ends here: neither seconds nor places nor further digits follow. -/
def EndsClock (rest : List Char) : Prop :=
  ∀ c ∈ rest.head?, c ≠ ':' ∧ c ≠ '.' ∧ isDigit c = false

theorem clocks_sound {cs clock rest : List Char} (h : (clock, rest) ∈ clocks cs) :
    ClockForm clock ∧ cs = 'T' :: (clock ++ rest) := by
  have hT : ∃ after, cs = 'T' :: after := by
    unfold clocks at h
    split at h
    · exact ⟨_, rfl⟩
    · cases h
  obtain ⟨after, rfl⟩ := hT
  rw [clocks] at h
  simp only [List.mem_filterMap, List.mem_cons, List.not_mem_nil, or_false, id_eq,
    exists_eq_right] at h
  rcases h with h | h | h
  · obtain ⟨as, mid, bs, hseconds, hfraction, rfl⟩ := andThen_eq_some_iff.1 h.symm
    obtain ⟨⟨hour, minute, second, hhour, hminute, hsecond, rfl⟩, rfl⟩ :=
      takes_seconds?.sound hseconds
    obtain ⟨places, hne, hplaces, -, rfl, rfl⟩ := fraction?_eq_some_iff.1 hfraction
    exact ⟨.fraction hhour hminute hsecond hne hplaces, by simp⟩
  · obtain ⟨⟨hour, minute, second, hhour, hminute, hsecond, rfl⟩, rfl⟩ :=
      takes_seconds?.sound h.symm
    exact ⟨.seconds hhour hminute hsecond, rfl⟩
  · obtain ⟨⟨hour, minute, hhour, hminute, rfl⟩, rfl⟩ := takes_minutes?.sound h.symm
    exact ⟨.minutes hhour hminute, rfl⟩

theorem seconds?_eq_none {hour minute rest : List Char} (hhour : IsDigits 2 hour)
    (hminute : IsDigits 2 minute) (hrest : EndsClock rest) :
    seconds? (hour ++ ':' :: minute ++ rest) = none := by
  have hminutes := takes_minutes?.complete rest ⟨hour, minute, hhour, hminute, rfl⟩
  have hcolon : twoDigitsAfter ':' rest = none := twoDigitsAfter_eq_none fun d hd => (hrest d hd).1
  rw [seconds?, andThen, hminutes, Option.bind_eq_bind, Option.bind_some]
  dsimp only
  rw [hcolon]
  rfl

theorem fraction?_eq_none {rest : List Char} (hrest : EndsClock rest) : fraction? rest = none := by
  rw [fraction?, mark?_eq_none fun d hd => (hrest d hd).2.1]
  rfl

theorem andThen_fraction? {hour minute second places rest : List Char} (hhour : IsDigits 2 hour)
    (hminute : IsDigits 2 minute) (hsecond : IsDigits 2 second) (hne : places ≠ [])
    (hplaces : places.all isDigit = true) (hrest : ∀ c ∈ rest.head?, isDigit c = false) :
    andThen seconds? fraction?
        (hour ++ ':' :: minute ++ ':' :: second ++ '.' :: places ++ rest) =
      some (hour ++ ':' :: minute ++ ':' :: second ++ '.' :: places, rest) := by
  have hfraction := fraction?_eq_some_iff.2 ⟨places, hne, hplaces, hrest, rfl, rfl⟩
  have hseconds := takes_seconds?.complete ('.' :: places ++ rest)
    ⟨hour, minute, second, hhour, hminute, hsecond, rfl⟩
  rw [List.append_assoc]
  exact andThen_eq_some_iff.2 ⟨_, _, _, hseconds, hfraction, rfl⟩

theorem clocks_complete {clock rest : List Char} (h : ClockForm clock)
    (hrest : ∀ c ∈ rest.head?, isDigit c = false) :
    (clock, rest) ∈ clocks ('T' :: (clock ++ rest)) := by
  rw [clocks]
  simp only [List.mem_filterMap, List.mem_cons, List.not_mem_nil, or_false, id_eq,
    exists_eq_right]
  cases h with
  | minutes hhour hminute =>
    exact .inr (.inr (takes_minutes?.complete rest ⟨_, _, hhour, hminute, rfl⟩).symm)
  | seconds hhour hminute hsecond =>
    exact .inr (.inl (takes_seconds?.complete rest ⟨_, _, _, hhour, hminute, hsecond, rfl⟩).symm)
  | fraction hhour hminute hsecond hne hplaces =>
    exact .inl (andThen_fraction? hhour hminute hsecond hne hplaces hrest).symm

/-- The longest clock is tried first. -/
theorem clocks_head {clock rest : List Char} (h : ClockForm clock) (hrest : EndsClock rest) :
    ∃ more, clocks ('T' :: (clock ++ rest)) = (clock, rest) :: more := by
  rw [clocks]
  cases h with
  | minutes hhour hminute =>
    have hminutes := takes_minutes?.complete rest ⟨_, _, hhour, hminute, rfl⟩
    have hseconds := seconds?_eq_none hhour hminute hrest
    rw [andThen, hseconds, hminutes]
    exact ⟨[], rfl⟩
  | seconds hhour hminute hsecond =>
    have hseconds := takes_seconds?.complete rest ⟨_, _, _, hhour, hminute, hsecond, rfl⟩
    rw [andThen, hseconds, Option.bind_eq_bind, Option.bind_some]
    dsimp only
    rw [fraction?_eq_none hrest]
    exact ⟨_, rfl⟩
  | fraction hhour hminute hsecond hne hplaces =>
    rw [andThen_fraction? hhour hminute hsecond hne hplaces fun c hc => (hrest c hc).2.2]
    exact ⟨_, rfl⟩

/-! ## Times -/

theorem mem_orWithout {rs : List Reading} {part : Option (List Char)} {cs rest : List Char} :
    (part, rest) ∈ orWithout rs cs ↔
      (∃ taken, part = some taken ∧ (taken, rest) ∈ rs) ∨ part = none ∧ rest = cs := by
  rw [orWithout, List.mem_append, List.mem_map, List.mem_singleton, Prod.mk.injEq]
  refine or_congr_left ⟨?_, ?_⟩
  · rintro ⟨⟨taken, after⟩, hmem, heq⟩
    obtain ⟨rfl, rfl⟩ := Prod.mk.inj heq
    exact ⟨taken, rfl, hmem⟩
  · rintro ⟨taken, rfl, hmem⟩
    exact ⟨(taken, rest), hmem, rfl⟩

theorem readings_sound {cs rest : List Char} {t : WrittenTime} (h : (t, rest) ∈ readings cs) :
    t.IsFormed ∧ cs = t.chars ++ rest := by
  unfold readings at h
  split at h
  · cases h
  · next day afterDay hday =>
    obtain ⟨hform, rfl⟩ := takes_day?.sound hday
    obtain ⟨⟨clock, afterClock⟩, hclock, h⟩ := List.mem_flatMap.1 h
    obtain ⟨⟨zone, afterZone⟩, hzone, heq⟩ := List.mem_map.1 h
    obtain ⟨rfl, rfl⟩ := Prod.mk.inj heq
    have hclock' : (∀ c ∈ clock, ClockForm c) ∧
        afterDay = clock.elim [] ('T' :: ·) ++ afterClock := by
      rcases mem_orWithout.1 hclock with ⟨taken, rfl, hmem⟩ | ⟨rfl, rfl⟩
      · obtain ⟨hform, rfl⟩ := clocks_sound hmem
        exact ⟨fun c hc => Option.some.inj hc ▸ hform, rfl⟩
      · exact ⟨nofun, rfl⟩
    have hzone' : (∀ z ∈ zone, ZoneForm z) ∧ afterClock = zone.getD [] ++ afterZone := by
      rcases mem_orWithout.1 hzone with ⟨taken, rfl, hmem⟩ | ⟨rfl, rfl⟩
      · obtain ⟨hform, rfl⟩ := takes_zone?.sound (Option.mem_toList.1 hmem)
        exact ⟨fun z hz => Option.some.inj hz ▸ hform, rfl⟩
      · exact ⟨nofun, rfl⟩
    refine ⟨⟨hform, hclock'.1, hzone'.1⟩, ?_⟩
    rw [hclock'.2, hzone'.2, chars]
    simp only [List.append_assoc]

/-- The head of a zone, or of what follows where there is none. -/
theorem head?_zone_append {t : WrittenTime} (h : t.IsFormed) (rest : List Char) :
    ∀ c ∈ (t.zone.getD [] ++ rest).head?, c = 'Z' ∨ IsSign c ∨ c ∈ rest.head? := by
  intro c hc
  cases hzone : t.zone with
  | none =>
    rw [hzone] at hc
    exact .inr (.inr hc)
  | some zone =>
    rw [hzone] at hc
    obtain ⟨d, more, rfl, hd⟩ := head_of_zoneForm (h.zone zone hzone)
    obtain rfl : d = c := Option.some.inj hc
    exact hd.imp And.left .inl

theorem isDigit_utc : isDigit 'Z' = false := by decide

theorem isDigit_of_isSign {c : Char} (h : IsSign c) : isDigit c = false := by
  rcases h with rfl | rfl <;> decide

/-- Every time that can be read somewhere is among the readings, unless its last places are cut
off. -/
theorem readings_complete {t : WrittenTime} {rest : List Char} (h : t.IsFormed)
    (hrest : ∀ c ∈ rest.head?, isDigit c = false) : (t, rest) ∈ readings (t.chars ++ rest) := by
  have hafter : ∀ c ∈ (t.zone.getD [] ++ rest).head?, isDigit c = false := by
    intro c hc
    rcases head?_zone_append h rest c hc with rfl | hsign | hc
    · exact isDigit_utc
    · exact isDigit_of_isSign hsign
    · exact hrest c hc
  have hday : day? (t.chars ++ rest) =
      some (t.day, t.clock.elim [] ('T' :: ·) ++ (t.zone.getD [] ++ rest)) := by
    rw [chars, List.append_assoc, List.append_assoc]
    exact takes_day?.complete _ h.day
  rw [readings, hday]
  refine List.mem_flatMap.2 ⟨(t.clock, t.zone.getD [] ++ rest), mem_orWithout.2 ?_,
    List.mem_map.2 ⟨(t.zone, rest), mem_orWithout.2 ?_, rfl⟩⟩
  · cases hclock : t.clock with
    | none => exact .inr ⟨rfl, rfl⟩
    | some clock => exact .inl ⟨clock, rfl, clocks_complete (h.clock clock hclock) hafter⟩
  · cases hzone : t.zone with
    | none => exact .inr ⟨rfl, rfl⟩
    | some zone =>
      exact .inl ⟨zone, rfl,
        Option.mem_toList.2 (takes_zone?.complete rest (h.zone zone hzone))⟩

theorem endsClock_zone {t : WrittenTime} (h : t.IsFormed) : EndsClock (t.zone.getD []) := by
  intro c hc
  rw [← List.append_nil (t.zone.getD [])] at hc
  rcases head?_zone_append h [] c hc with rfl | (rfl | rfl) | hc
  · decide
  · decide
  · decide
  · cases hc

/-- Where a time and nothing else stands, the whole of it is the first reading. -/
theorem readings_chars {t : WrittenTime} (h : t.IsFormed) :
    ∃ more, readings t.chars = (t, []) :: more := by
  have hzone : ∃ more, orWithout (zone? (t.zone.getD [])).toList (t.zone.getD []) =
      (t.zone, []) :: more := by
    cases hz : t.zone with
    | none => exact ⟨[], rfl⟩
    | some zone =>
      have hread := takes_zone?.complete [] (h.zone zone hz)
      rw [List.append_nil] at hread
      rw [Option.getD_some, hread]
      exact ⟨_, rfl⟩
  have hclock : ∃ more, orWithout (clocks (t.clock.elim [] ('T' :: ·) ++ t.zone.getD []))
      (t.clock.elim [] ('T' :: ·) ++ t.zone.getD []) = (t.clock, t.zone.getD []) :: more := by
    cases hc : t.clock with
    | none =>
      have hnone : clocks (t.zone.getD []) = [] := by
        refine List.eq_nil_iff_forall_not_mem.2 fun ⟨clock, rest⟩ hmem => ?_
        have hhead : 'T' ∈ (t.zone.getD [] ++ []).head? := by
          rw [List.append_nil, (clocks_sound hmem).2]
          rfl
        rcases head?_zone_append h [] 'T' hhead with hT | (hT | hT) | hT <;> cases hT
      rw [Option.elim_none, List.nil_append, hnone]
      exact ⟨[], rfl⟩
    | some clock =>
      obtain ⟨more, hmore⟩ := clocks_head (h.clock clock hc) (endsClock_zone h)
      rw [Option.elim_some, List.cons_append, hmore]
      exact ⟨_, rfl⟩
  obtain ⟨zones, hzones⟩ := hzone
  obtain ⟨clocks, hclocks⟩ := hclock
  have hday : day? t.chars = some (t.day, t.clock.elim [] ('T' :: ·) ++ t.zone.getD []) :=
    takes_day?.complete _ h.day
  rw [readings, hday]
  dsimp only
  rw [hclocks, List.flatMap_cons]
  dsimp only
  rw [hzones]
  exact ⟨_, rfl⟩

theorem isDay_eq_true_iff {cs : List Char} : isDay cs = true ↔ DayForm cs := by
  rw [isDay, Option.any_eq_true_iff_get]
  constructor
  · rintro ⟨hsome, hrest⟩
    have hread := (Option.some_get hsome).symm
    obtain ⟨hform, heq⟩ := takes_day?.sound hread
    rw [List.isEmpty_iff.1 hrest, List.append_nil] at heq
    rwa [heq]
  · intro h
    have hread := takes_day?.complete [] h
    rw [List.append_nil] at hread
    simp [hread]

theorem isMoment_eq_true_iff {cs : List Char} :
    isMoment cs = true ↔ ∃ t : WrittenTime, t.IsFormed ∧ t.clock.isSome = true ∧ t.chars = cs := by
  rw [isMoment, List.any_eq_true]
  constructor
  · rintro ⟨⟨t, rest⟩, hmem, h⟩
    obtain ⟨hclock, hrest⟩ := Bool.and_eq_true_iff.1 h
    obtain ⟨hform, heq⟩ := readings_sound hmem
    rw [List.isEmpty_iff.1 hrest, List.append_nil] at heq
    exact ⟨t, hform, hclock, heq.symm⟩
  · rintro ⟨t, hform, hclock, rfl⟩
    obtain ⟨more, hmore⟩ := readings_chars hform
    exact ⟨(t, []), hmore ▸ List.mem_cons_self, by simp [hclock]⟩

theorem isDay_or_isMoment_iff {cs : List Char} :
    isDay cs = true ∨ isMoment cs = true ↔ ∃ t : WrittenTime, t.IsDate ∧ t.chars = cs := by
  rw [isDay_eq_true_iff, isMoment_eq_true_iff]
  constructor
  · rintro (hday | ⟨t, hform, hclock, rfl⟩)
    · exact ⟨⟨cs, none, none⟩, ⟨⟨hday, nofun, nofun⟩, fun _ => rfl⟩, List.append_nil cs⟩
    · refine ⟨t, ⟨hform, fun hnone => ?_⟩, rfl⟩
      rw [hnone] at hclock
      cases hclock
  · rintro ⟨t, hdate, rfl⟩
    cases hclock : t.clock with
    | none =>
      left
      rw [chars, hclock, hdate.zone_clock hclock, Option.elim_none, List.nil_append,
        Option.getD_none, List.append_nil]
      exact hdate.day
    | some clock => exact .inr ⟨t, hdate.toIsFormed, by rw [hclock]; rfl, rfl⟩

/-! ## The characters of a time -/

def isTimeChar (c : Char) : Bool := isDigit c || ['-', ':', '.', 'T', 'Z', '+'].contains c

theorem isTimeChar_marks : isTimeChar '-' = true ∧ isTimeChar ':' = true ∧
    isTimeChar '.' = true ∧ isTimeChar 'T' = true ∧ isTimeChar 'Z' = true ∧
      isTimeChar '+' = true := by decide

theorem isTimeChar_of_isSign {c : Char} (h : IsSign c) : isTimeChar c = true := by
  rcases h with rfl | rfl <;> decide

theorem all_isTimeChar {cs : List Char} (h : cs.all isDigit = true) :
    cs.all isTimeChar = true :=
  all_of_all (fun c hc => by rw [isTimeChar, hc, Bool.true_or]) h

theorem IsDigits.all_isTimeChar {n : Nat} {cs : List Char} (h : IsDigits n cs) :
    cs.all isTimeChar = true := WrittenTime.all_isTimeChar h.2

theorem DayForm.all_isTimeChar {cs : List Char} (h : DayForm cs) : cs.all isTimeChar = true := by
  cases h with
  | intro hyear hmonth hday =>
    simp only [List.all_append, List.all_cons, hyear.all_isTimeChar, hmonth.all_isTimeChar,
      hday.all_isTimeChar, isTimeChar_marks, Bool.and_true]

theorem ClockForm.all_isTimeChar {cs : List Char} (h : ClockForm cs) :
    cs.all isTimeChar = true := by
  cases h with
  | minutes hhour hminute =>
    simp only [List.all_append, List.all_cons, hhour.all_isTimeChar, hminute.all_isTimeChar,
      isTimeChar_marks, Bool.and_true]
  | seconds hhour hminute hsecond =>
    simp only [List.all_append, List.all_cons, hhour.all_isTimeChar, hminute.all_isTimeChar,
      hsecond.all_isTimeChar, isTimeChar_marks, Bool.and_true]
  | fraction hhour hminute hsecond _ hplaces =>
    simp only [List.all_append, List.all_cons, hhour.all_isTimeChar, hminute.all_isTimeChar,
      hsecond.all_isTimeChar, WrittenTime.all_isTimeChar hplaces, isTimeChar_marks, Bool.and_true]

theorem ZoneForm.all_isTimeChar {cs : List Char} (h : ZoneForm cs) : cs.all isTimeChar = true := by
  cases h with
  | utc => decide
  | colon hsign hhour hminute =>
    simp only [List.all_append, List.all_cons, isTimeChar_of_isSign hsign, hhour.all_isTimeChar,
      hminute.all_isTimeChar, isTimeChar_marks, Bool.and_true]
  | plain hsign hhour hminute =>
    simp only [List.all_append, List.all_cons, isTimeChar_of_isSign hsign, hhour.all_isTimeChar,
      hminute.all_isTimeChar, Bool.and_true]

theorem all_isTimeChar_chars {t : WrittenTime} (h : t.IsFormed) :
    t.chars.all isTimeChar = true := by
  have hclock : (t.clock.elim [] ('T' :: ·)).all isTimeChar = true := by
    cases hc : t.clock with
    | none => rfl
    | some clock =>
      rw [Option.elim_some, List.all_cons, isTimeChar_marks.2.2.2.1,
        (h.clock clock hc).all_isTimeChar, Bool.and_true]
  have hzone : (t.zone.getD []).all isTimeChar = true := by
    cases hz : t.zone with
    | none => rfl
    | some zone => exact (h.zone zone hz).all_isTimeChar
  rw [chars, List.all_append, List.all_append, h.day.all_isTimeChar, hclock, hzone]
  rfl

end WrittenTime
end CrossCheck
