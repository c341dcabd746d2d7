import CrossCheck.Proofs.Calendar.Written
import Mathlib.Data.List.Nodup

/-!
The order of readings.  A longer reading always comes before a shorter one: the clocks are tried
longest first, and where a longer clock could be read, no zone follows the shorter one.
-/

namespace CrossCheck
namespace WrittenTime

open Text

theorem orWithout_pairwise {S : List Char → List Char → Prop} {rs : List Reading} {cs : List Char}
    (hrs : rs.Pairwise fun a b => S a.2 b.2) (hcs : ∀ r ∈ rs, S r.2 cs) :
    (orWithout rs cs).Pairwise fun a b => S a.2 b.2 := by
  rw [orWithout, List.pairwise_append, List.pairwise_map]
  refine ⟨hrs, List.pairwise_singleton _ _, fun a ha b hb => ?_⟩
  obtain ⟨r, hr, rfl⟩ := List.mem_map.1 ha
  rw [List.mem_singleton.1 hb]
  exact hcs r hr

/-- What a shorter clock leaves begins with the mark after which the longer one goes on. -/
def LeavesMore (rest rest' : List Char) : Prop := rest.length < rest'.length ∧ zone? rest' = none

theorem leavesMore_of_mark {mark : Char} (hutc : mark ≠ 'Z') (hsign : ¬ IsSign mark)
    (taken rest : List Char) : LeavesMore rest (mark :: (taken ++ rest)) := by
  refine ⟨?_, zone?_eq_none hutc hsign _⟩
  rw [List.length_cons, List.length_append]
  omega

theorem leavesMore_fraction {cs : List Char} {longer shorter : Reading}
    (h : andThen seconds? fraction? cs = some longer) (h' : seconds? cs = some shorter) :
    LeavesMore longer.2 shorter.2 := by
  obtain ⟨as, mid, bs, hseconds, hfraction, -⟩ := andThen_eq_some_iff.1 h
  obtain rfl := Option.some.inj (hseconds.symm.trans h')
  obtain ⟨places, -, -, -, rfl, rfl⟩ := fraction?_eq_some_iff.1 hfraction
  exact leavesMore_of_mark (by decide) (by unfold IsSign; decide) places longer.2

theorem leavesMore_seconds {cs : List Char} {longer shorter : Reading}
    (h : seconds? cs = some longer) (h' : minutes? cs = some shorter) :
    LeavesMore longer.2 shorter.2 := by
  obtain ⟨as, mid, bs, hminutes, hsecond, -⟩ := andThen_eq_some_iff.1 h
  obtain rfl := Option.some.inj (hminutes.symm.trans h')
  obtain ⟨⟨second, -, rfl⟩, rfl⟩ := (takes_twoDigitsAfter ':').sound hsecond
  exact leavesMore_of_mark (by decide) (by unfold IsSign; decide) second longer.2

theorem LeavesMore.trans {xs ys zs : List Char} (h : LeavesMore xs ys) (h' : LeavesMore ys zs) :
    LeavesMore xs zs := ⟨h.1.trans h'.1, h'.2⟩

theorem clocks_pairwise (cs : List Char) :
    (clocks cs).Pairwise fun a b => LeavesMore a.2 b.2 := by
  unfold clocks
  split
  · next cs =>
    rw [List.pairwise_filterMap]
    refine .cons ?_ (.cons ?_ (List.pairwise_singleton _ _))
    · intro o ho longer hlonger shorter hshorter
      rcases List.mem_cons.1 ho with rfl | ho
      · exact leavesMore_fraction hlonger hshorter
      · obtain rfl := List.mem_singleton.1 ho
        obtain ⟨as, mid, bs, hseconds, -, -⟩ := andThen_eq_some_iff.1 hlonger
        exact (leavesMore_fraction hlonger hseconds).trans (leavesMore_seconds hseconds hshorter)
    · intro o ho longer hlonger shorter hshorter
      obtain rfl := List.mem_singleton.1 ho
      exact leavesMore_seconds hlonger hshorter
  · exact .nil

theorem length_le_of_mem_zones {cs : List Char} {zone : Option (List Char) × List Char}
    (h : zone ∈ orWithout (zone? cs).toList cs) : zone.2.length ≤ cs.length := by
  rcases mem_orWithout.1 h with ⟨taken, -, hmem⟩ | ⟨-, heq⟩
  · obtain ⟨-, hcs⟩ := takes_zone?.sound (Option.mem_toList.1 hmem)
    rw [hcs, List.length_append]
    omega
  · rw [heq]

/-- Every reading leaves less than the readings after it. -/
theorem readings_pairwise (cs : List Char) :
    (readings cs).Pairwise fun a b => a.2.length < b.2.length := by
  unfold readings
  split
  · exact .nil
  · next day afterDay hday =>
    rw [List.pairwise_flatMap]
    constructor
    · rintro ⟨clock, afterClock⟩ -
      rw [List.pairwise_map]
      refine orWithout_pairwise (S := fun xs ys => xs.length < ys.length) ?_ ?_
      · cases zone? afterClock with
        | none => exact .nil
        | some zone => exact List.pairwise_singleton _ _
      · intro zone hzone
        obtain ⟨hform, heq⟩ := takes_zone?.sound (Option.mem_toList.1 hzone)
        obtain ⟨c, more, hcons, -⟩ := head_of_zoneForm hform
        rw [heq, hcons, List.length_append, List.length_cons]
        omega
    · have hclocks : (orWithout (clocks afterDay) afterDay).Pairwise fun a b =>
          LeavesMore a.2 b.2 := by
        refine orWithout_pairwise (clocks_pairwise afterDay) fun clock hclock => ?_
        rw [(clocks_sound hclock).2]
        exact leavesMore_of_mark (by decide) (by unfold IsSign; decide) clock.1 clock.2
      refine hclocks.imp fun {a b} hmore x hx y hy => ?_
      obtain ⟨zone, hzone, rfl⟩ := List.mem_map.1 hx
      obtain ⟨zone', hzone', rfl⟩ := List.mem_map.1 hy
      -- No zone follows the shorter clock, so it leaves all that the clock leaves.
      rw [hmore.2] at hzone'
      obtain rfl := List.mem_singleton.1 hzone'
      exact Nat.lt_of_le_of_lt (length_le_of_mem_zones hzone) hmore.1

theorem readings_inj {cs : List Char} {x y : WrittenTime × List Char} (hx : x ∈ readings cs)
    (hy : y ∈ readings cs) (h : x.2.length = y.2.length) : x = y := by
  have hnodup : ((readings cs).map (·.2.length)).Nodup := by
    rw [List.Nodup, List.pairwise_map]
    exact (readings_pairwise cs).imp Nat.ne_of_lt
  exact List.inj_on_of_nodup_map hnodup hx hy h

/-! ## Times with a zone -/

/-- A day with a clock and a zone. -/
structure IsZoned (t : WrittenTime) : Prop extends IsFormed t where
  clock_isSome : t.clock.isSome = true
  zone_isSome : t.zone.isSome = true

/-- Behind its zone a time does not go on, whatever comes there. -/
theorem readings_zoned {t : WrittenTime} (h : t.IsZoned) (rest : List Char) :
    ∃ more, readings (t.chars ++ rest) = (t, rest) :: more := by
  obtain ⟨clock, hclock⟩ := Option.isSome_iff_exists.1 h.clock_isSome
  obtain ⟨zone, hzone⟩ := Option.isSome_iff_exists.1 h.zone_isSome
  have hends : EndsClock (zone ++ rest) := by
    intro c hc
    obtain ⟨d, more, rfl, hd⟩ := head_of_zoneForm (h.zone zone hzone)
    obtain rfl : d = c := Option.some.inj hc
    rcases hd with ⟨rfl, -⟩ | (rfl | rfl) <;> decide
  obtain ⟨clocks', hclocks⟩ := clocks_head (h.clock clock hclock) hends
  have hzones := takes_zone?.complete rest (h.zone zone hzone)
  have hday : day? (t.chars ++ rest) = some (t.day, 'T' :: (clock ++ (zone ++ rest))) := by
    have hread := takes_day?.complete ('T' :: (clock ++ (zone ++ rest))) h.day
    rw [chars, hclock, hzone]
    simpa using hread
  rw [readings, hday]
  dsimp only
  rw [hclocks, orWithout, List.map_cons, List.cons_append, List.flatMap_cons]
  dsimp only
  rw [hzones]
  refine ⟨_, congrArg (· :: _) ?_⟩
  show (WrittenTime.mk t.day (some clock) (some zone), rest) = (t, rest)
  rw [← hclock, ← hzone]

end WrittenTime
end CrossCheck
