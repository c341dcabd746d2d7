import CrossCheck.Proofs.Alias
import Mathlib.Data.Finset.Dedup
import Mathlib.Data.Finset.Lattice.Lemmas

/-!
Names for several bases in turn, each taken once it is given.  The search for a name tries the base
and then the base with 1, 2 and so on, with no bound on the numbers: that it ends is something to
prove.  `Seeks` and `Allocates` tell how the search runs, without a bound, and the theorem of this
file is `allocates_leastFree`: it always ends, in one way, with the names that `uniqueAll` gives,
each of which is the least that is free when its turn comes.
-/

namespace CrossCheck
namespace Alias

variable {taken : Finset String} {base : String}

/-- A search that holds a candidate and a number, and ends with a name.  A candidate that is taken
gives way to the base with the number. -/
inductive Seeks (taken : Finset String) (base : String) : String → Nat → String → Prop where
  | free {candidate : String} {k : Nat} (hfree : candidate ∉ taken) :
      Seeks taken base candidate k candidate
  | taken {candidate name : String} {k : Nat} (htaken : candidate ∈ taken)
      (hrest : Seeks taken base (base ++ "_" ++ toString k) (k + 1) name) :
      Seeks taken base candidate k name

/-- Searches for the bases in turn.  What one of them ends with is taken for the later ones. -/
inductive Allocates : Finset String → List String → List String → Finset String → Prop where
  | nil (taken : Finset String) : Allocates taken [] [] taken
  | cons {taken final : Finset String} {base name : String} {bases names : List String}
      (hname : Seeks taken base base 1 name)
      (hrest : Allocates (insert name taken) bases names final) :
      Allocates taken (base :: bases) (name :: names) final

/-- The base if it is free, and otherwise the base with the least number from 1 on that is. -/
inductive LeastFree (taken : Finset String) (base : String) : String → Prop where
  | base (hfree : base ∉ taken) : LeastFree taken base base
  | numbered {k : Nat} (htaken : base ∈ taken) (hk : 1 ≤ k)
      (hfree : base ++ "_" ++ toString k ∉ taken)
      (hleast : ∀ j, 1 ≤ j → j < k → base ++ "_" ++ toString j ∈ taken) :
      LeastFree taken base (base ++ "_" ++ toString k)

/-! ## One search -/

theorem numbered_of_pos {k : Nat} (hk : 1 ≤ k) :
    numbered base k = base ++ "_" ++ toString k := if_neg (by omega)

theorem Seeks.unique {candidate name name' : String} {k : Nat}
    (h : Seeks taken base candidate k name) (h' : Seeks taken base candidate k name') :
    name = name' := by
  induction h with
  | free hfree =>
    cases h' with
    | free => rfl
    | taken htaken => exact absurd htaken hfree
  | taken htaken _ ih =>
    cases h' with
    | free hfree => exact absurd htaken hfree
    | taken _ hrest => exact ih hrest

/-- A search passes over the numbers that are taken and ends with the first that is not. -/
theorem seeks_numbered {k n : Nat} (hkn : k ≤ n) (hfree : numbered base n ∉ taken)
    (htaken : ∀ j, k ≤ j → j < n → numbered base j ∈ taken) :
    Seeks taken base (numbered base k) (k + 1) (numbered base n) := by
  -- From `n` downwards: the search from a taken number goes on as the one from the next number.
  induction hkn using Nat.decreasingInduction with
  | self => exact .free hfree
  | of_succ k hk ih =>
    have hnext := ih fun j hj => htaken j (by omega)
    rw [numbered_of_pos (Nat.le_add_left 1 k)] at hnext
    exact .taken (htaken k (Nat.le_refl k) hk) hnext

theorem seeks_unique (taken : List String) (base : String) :
    Seeks taken.toFinset base base 1 (unique taken base) := by
  obtain ⟨k, hk, hfree, hleast⟩ := unique_spec taken base
  rw [hk]
  exact seeks_numbered (k := 0) (Nat.zero_le k) (by rwa [List.mem_toFinset])
    fun j _ hj => List.mem_toFinset.2 (hleast j hj)

theorem leastFree_unique (taken : List String) (base : String) :
    LeastFree taken.toFinset base (unique taken base) := by
  obtain ⟨k, hk, hfree, hleast⟩ := unique_spec taken base
  simp only [← List.mem_toFinset] at hfree hleast
  rw [hk]
  cases k with
  | zero => exact .base hfree
  | succ k =>
    rw [numbered_of_pos (Nat.le_add_left 1 k)] at hfree ⊢
    refine .numbered (hleast 0 (Nat.succ_pos k)) (Nat.le_add_left 1 k) hfree fun j hj hjk => ?_
    rw [← numbered_of_pos hj]
    exact hleast j hjk

/-! ## One search after another -/

theorem Allocates.unique {bases names names' : List String} {final final' : Finset String}
    (h : Allocates taken bases names final) (h' : Allocates taken bases names' final') :
    names = names' ∧ final = final' := by
  induction h generalizing names' with
  | nil =>
    cases h'
    exact ⟨rfl, rfl⟩
  | cons hname _ ih =>
    cases h' with
    | cons hname' hrest' =>
      obtain rfl := hname.unique hname'
      obtain ⟨rfl, rfl⟩ := ih hrest'
      exact ⟨rfl, rfl⟩

theorem allocates_uniqueAll (taken bases : List String) :
    Allocates taken.toFinset bases (uniqueAll taken bases)
      (taken.toFinset ∪ (uniqueAll taken bases).toFinset) := by
  induction bases generalizing taken with
  | nil =>
    rw [uniqueAll, List.toFinset_nil, Finset.union_empty]
    exact .nil _
  | cons base bases ih =>
    have hrest := ih (unique taken base :: taken)
    rw [List.toFinset_cons] at hrest
    rw [uniqueAll, List.toFinset_cons, Finset.union_insert, ← Finset.insert_union]
    exact .cons (seeks_unique taken base) hrest

/-- What the names are: one for each base, the least that neither the set nor an earlier name has
taken, none of them twice and none from the set. -/
structure Allocation (taken : Finset String) (bases names : List String) : Prop where
  length : names.length = bases.length
  leastFree : ∀ (i : Nat) (base name : String), bases[i]? = some base → names[i]? = some name →
    LeastFree (taken ∪ (names.take i).toFinset) base name
  distinct : names.Nodup
  fresh : ∀ name ∈ names, name ∉ taken

theorem allocation_uniqueAll (taken bases : List String) :
    Allocation taken.toFinset bases (uniqueAll taken bases) := by
  induction bases generalizing taken with
  | nil => exact ⟨rfl, fun _ _ _ hbase => absurd hbase nofun, List.nodup_nil, nofun⟩
  | cons base bases ih =>
    have hfirst := unique_not_mem taken base
    obtain ⟨hlength, hleast, hdistinct, hfresh⟩ := ih (unique taken base :: taken)
    simp only [List.toFinset_cons, Finset.mem_insert, not_or] at hleast hfresh
    rw [uniqueAll]
    refine ⟨congrArg Nat.succ hlength, fun i b name hb hname => ?_, ?_, ?_⟩
    · cases i with
      | zero =>
        rw [← Option.some.inj hb, ← Option.some.inj hname, List.take_zero, List.toFinset_nil,
          Finset.union_empty]
        exact leastFree_unique taken base
      | succ i =>
        have hrest := hleast i b name hb hname
        rwa [List.take_succ_cons, List.toFinset_cons, Finset.union_insert, ← Finset.insert_union]
    · exact List.nodup_cons.2 ⟨fun hmem => (hfresh _ hmem).1 rfl, hdistinct⟩
    · rw [List.forall_mem_cons, List.mem_toFinset]
      exact ⟨hfirst, fun name hname => (hfresh name hname).2⟩

/-- From every set, the searches for every list of bases end, in one way: with names that are the
least free ones in turn, and with these added to the set.  They are the names that are given in the
order of the bases, however the set is listed. -/
theorem allocates_leastFree (taken : Finset String) (bases : List String) :
    ∃ names, Allocation taken bases names ∧
      (∀ names' final, Allocates taken bases names' final ↔
        names' = names ∧ final = taken ∪ names.toFinset) ∧
      ∀ listed : List String, listed.toFinset = taken → uniqueAll listed bases = names := by
  obtain ⟨members, rfl⟩ := List.toFinset_surjective taken
  have hrun := allocates_uniqueAll members bases
  refine ⟨uniqueAll members bases, allocation_uniqueAll members bases, fun names final => ?_,
    fun listed hlisted => ?_⟩
  · constructor
    · exact fun h => h.unique hrun
    · rintro ⟨rfl, rfl⟩
      exact hrun
  · have hother := allocates_uniqueAll listed bases
    rw [hlisted] at hother
    exact (hother.unique hrun).1

example : uniqueAll ["b"] ["a", "a_1", "a", "a_1", "b"] = ["a", "a_1", "a_2", "a_1_1", "b_1"] := by
  decide +kernel

end Alias
end CrossCheck
