import Mathlib.Data.List.Forall2

/-!
Lists related member by member, and computations that work through a list and stop at the first
failure.
-/

namespace CrossCheck.Sequence

variable {α β ε : Type} {R : α → β → Prop}

theorem exists_of_mem_right {xs : List α} {ys : List β} (h : List.Forall₂ R xs ys) {y : β}
    (hy : y ∈ ys) : ∃ x ∈ xs, R x y := by
  induction h with
  | nil => exact absurd hy List.not_mem_nil
  | @cons a b xs ys hab _ ih =>
    rcases List.mem_cons.1 hy with rfl | hy
    · exact ⟨a, List.mem_cons_self, hab⟩
    · obtain ⟨x, hx, hxy⟩ := ih hy
      exact ⟨x, List.mem_cons_of_mem a hx, hxy⟩

theorem getElem?_left {xs : List α} {ys : List β} (h : List.Forall₂ R xs ys) {k : Nat} {y : β}
    (hy : ys[k]? = some y) : ∃ x, xs[k]? = some x ∧ R x y := by
  induction h generalizing k with
  | nil => exact absurd hy (by simp)
  | @cons a b xs ys hab _ ih =>
    cases k with
    | zero =>
      rw [← Option.some.inj hy]
      exact ⟨a, rfl, hab⟩
    | succ k => exact ih hy

theorem getElem?_right {xs : List α} {ys : List β} (h : List.Forall₂ R xs ys) {k : Nat} {x : α}
    (hx : xs[k]? = some x) : ∃ y, ys[k]? = some y ∧ R x y :=
  getElem?_left (List.Forall₂.flip (R := fun y x => R x y) h) hx

theorem forall₂_imp_of_mem {S : α → β → Prop} {xs : List α} {ys : List β}
    (h : List.Forall₂ R xs ys) (himp : ∀ x ∈ xs, ∀ y ∈ ys, R x y → S x y) :
    List.Forall₂ S xs ys := by
  induction h with
  | nil => exact .nil
  | cons hxy _ ih =>
    refine .cons (himp _ List.mem_cons_self _ List.mem_cons_self hxy) (ih fun x hx y hy => ?_)
    exact himp x (List.mem_cons_of_mem _ hx) y (List.mem_cons_of_mem _ hy)

/-- Lists related to one list are related to each other. -/
theorem forall₂_of_common {γ : Type} {S : α → γ → Prop} {T : β → γ → Prop} {xs : List α}
    {ys : List β} {zs : List γ} (hy : List.Forall₂ R xs ys) (hz : List.Forall₂ S xs zs)
    (h : ∀ x y z, R x y → S x z → T y z) : List.Forall₂ T ys zs := by
  induction hy generalizing zs with
  | nil =>
    cases hz with
    | nil => exact .nil
  | cons hxy _ ih =>
    cases hz with
    | cons hxz hrest => exact .cons (h _ _ _ hxy hxz) (ih hrest)

/-- `x` is the first member of a list that lacks a property. -/
inductive FirstWithout (P : α → Prop) : List α → α → Prop where
  | head {x : α} {xs : List α} (h : ¬ P x) : FirstWithout P (x :: xs) x
  | tail {x y : α} {xs : List α} (hy : P y) (h : FirstWithout P xs x) : FirstWithout P (y :: xs) x

namespace FirstWithout

variable {P : α → Prop} {xs : List α} {x y : α}

theorem of_append {before after : List α} (hbefore : ∀ y ∈ before, P y) (h : ¬ P x) :
    FirstWithout P (before ++ x :: after) x := by
  induction before with
  | nil => exact .head h
  | cons y before ih =>
    obtain ⟨hy, hbefore⟩ := List.forall_mem_cons.1 hbefore
    exact .tail hy (ih hbefore)

theorem mem (h : FirstWithout P xs x) : x ∈ xs := by
  induction h with
  | head => exact List.mem_cons_self
  | tail _ _ ih => exact List.mem_cons_of_mem _ ih

theorem not_prop (h : FirstWithout P xs x) : ¬ P x := by
  induction h with
  | head h => exact h
  | tail _ _ ih => exact ih

theorem unique (hx : FirstWithout P xs x) (hy : FirstWithout P xs y) : x = y := by
  induction hx with
  | head hx =>
    cases hy with
    | head => rfl
    | tail hx' => exact absurd hx' hx
  | tail hz _ ih =>
    cases hy with
    | head hz' => exact absurd hz hz'
    | tail _ hy => exact ih hy

end FirstWithout

theorem error_ne_ok {e : ε} {a : α} : (Except.error e : Except ε α) ≠ .ok a := nofun

/-- A computation of two parts gives a result when its first part gives one that the second part
gives it from. -/
theorem bind_ok_iff {x : Except ε α} {g : α → Except ε β} {b : β} :
    (x >>= g) = .ok b ↔ ∃ a, x = .ok a ∧ g a = .ok b := by
  cases x <;> simp [bind, Except.bind]

/-- It fails as its first part fails, or else as its second part does. -/
theorem bind_error_iff {x : Except ε α} {g : α → Except ε β} {e : ε} :
    (x >>= g) = .error e ↔ x = .error e ∨ ∃ a, x = .ok a ∧ g a = .error e := by
  cases x <;> simp [bind, Except.bind]

theorem pure_ne_error {a : α} {e : ε} : (pure a : Except ε α) ≠ .error e := nofun

theorem pure_ok_iff {a b : α} : (pure a : Except ε α) = .ok b ↔ a = b := by
  simp [pure, Except.pure]

section
variable {f : α → Except ε β}

theorem mapM_cons_ok {x : α} {xs : List α} {ys : List β} (h : (x :: xs).mapM f = .ok ys) :
    ∃ y rest, f x = .ok y ∧ xs.mapM f = .ok rest ∧ ys = y :: rest := by
  rw [List.mapM_cons, bind_ok_iff] at h
  obtain ⟨y, hx, h⟩ := h
  obtain ⟨rest, hxs, h⟩ := bind_ok_iff.1 h
  exact ⟨y, rest, hx, hxs, (pure_ok_iff.1 h).symm⟩

/-- A list is worked through if and only if each member is. -/
theorem mapM_ok_iff {xs : List α} {ys : List β} :
    xs.mapM f = .ok ys ↔ List.Forall₂ (fun x y => f x = .ok y) xs ys := by
  constructor
  · intro h
    induction xs generalizing ys with
    | nil =>
      have hys : ([] : List β) = ys := Except.ok.inj h
      rw [← hys]
      exact .nil
    | cons x xs ih =>
      obtain ⟨y, rest, hx, hxs, rfl⟩ := mapM_cons_ok h
      exact .cons hx (ih hxs)
  · intro h
    induction h with
    | nil => rfl
    | cons hx _ ih =>
      rw [List.mapM_cons, hx, ih]
      rfl

/-- Member `k` fails, and none before it does. -/
inductive FailsAt (f : α → Except ε β) : List α → Nat → ε → Prop where
  | head {x : α} {xs : List α} {e : ε} (h : f x = .error e) : FailsAt f (x :: xs) 0 e
  | tail {x : α} {xs : List α} {b : β} {k : Nat} {e : ε} (hx : f x = .ok b)
      (h : FailsAt f xs k e) : FailsAt f (x :: xs) (k + 1) e

theorem exists_failsAt_of_mapM_error {xs : List α} {e : ε} (h : xs.mapM f = .error e) :
    ∃ k, FailsAt f xs k e := by
  induction xs with
  | nil => exact absurd h pure_ne_error
  | cons x xs ih =>
    rw [List.mapM_cons, bind_error_iff] at h
    rcases h with hx | ⟨y, hx, h⟩
    · exact ⟨0, .head hx⟩
    · rcases bind_error_iff.1 h with hxs | ⟨rest, _, hdone⟩
      · obtain ⟨k, hk⟩ := ih hxs
        exact ⟨k + 1, .tail hx hk⟩
      · exact absurd hdone pure_ne_error

theorem FailsAt.mapM_error {xs : List α} {k : Nat} {e : ε} (h : FailsAt f xs k e) :
    xs.mapM f = .error e := by
  induction h with
  | head h => rw [List.mapM_cons, h]; rfl
  | tail hx _ ih => rw [List.mapM_cons, hx, ih]; rfl

theorem FailsAt.exists_first {xs : List α} {k : Nat} {e : ε} (h : FailsAt f xs k e) :
    ∃ before x after, xs = before ++ x :: after ∧ (∀ y ∈ before, ∃ b, f y = .ok b) ∧
      f x = .error e := by
  induction h with
  | @head x xs _ h => exact ⟨[], x, xs, rfl, nofun, h⟩
  | @tail x _ b _ _ hx _ ih =>
    obtain ⟨before, y, after, rfl, hbefore, hy⟩ := ih
    exact ⟨x :: before, y, after, rfl, List.forall_mem_cons.2 ⟨⟨b, hx⟩, hbefore⟩, hy⟩

/-- A list fails as its first member that fails. -/
theorem exists_first_of_mapM_error {xs : List α} {e : ε} (h : xs.mapM f = .error e) :
    ∃ before x after, xs = before ++ x :: after ∧ (∀ y ∈ before, ∃ b, f y = .ok b) ∧
      f x = .error e := by
  obtain ⟨_, hfails⟩ := exists_failsAt_of_mapM_error h
  exact hfails.exists_first

/-- The failure of a list is the failure of a member. -/
theorem exists_of_mapM_error {xs : List α} {e : ε} (h : xs.mapM f = .error e) :
    ∃ x ∈ xs, f x = .error e := by
  obtain ⟨before, x, after, rfl, _, hx⟩ := exists_first_of_mapM_error h
  exact ⟨x, List.mem_append_right before List.mem_cons_self, hx⟩

theorem exists_mapM_ok_iff {xs : List α} :
    (∃ ys, xs.mapM f = .ok ys) ↔ ∀ x ∈ xs, ∃ y, f x = .ok y := by
  constructor
  · rintro ⟨ys, hys⟩ x hx
    obtain ⟨y, _, hxy⟩ := exists_of_mem_right (R := fun y x => f x = .ok y)
      (mapM_ok_iff.1 hys).flip hx
    exact ⟨y, hxy⟩
  · intro h
    cases hys : xs.mapM f with
    | ok ys => exact ⟨ys, rfl⟩
    | error e =>
      obtain ⟨x, hx, hfail⟩ := exists_of_mapM_error hys
      obtain ⟨y, hy⟩ := h x hx
      rw [hfail] at hy
      exact absurd hy error_ne_ok

theorem exists_mapM_error_of_mem {xs : List α} {x : α} (hx : x ∈ xs) (h : ∃ e, f x = .error e) :
    ∃ e, xs.mapM f = .error e := by
  obtain ⟨e, he⟩ := h
  cases hxs : xs.mapM f with
  | error e' => exact ⟨e', rfl⟩
  | ok ys =>
    obtain ⟨y, hy⟩ := exists_mapM_ok_iff.1 ⟨ys, hxs⟩ x hx
    exact absurd (he.symm.trans hy) error_ne_ok

end

/-- What a list was worked through to comes from its members. -/
theorem exists_of_mem_mapM_some {f : α → Option β} {xs : List α} {ys : List β}
    (h : xs.mapM f = some ys) {y : β} (hy : y ∈ ys) : ∃ x ∈ xs, f x = some y := by
  induction xs generalizing ys with
  | nil =>
    cases h
    exact absurd hy List.not_mem_nil
  | cons x xs ih =>
    rw [List.mapM_cons, Option.bind_eq_bind, Option.bind_eq_some_iff] at h
    obtain ⟨first, hfirst, h⟩ := h
    obtain ⟨rest, hrest, h⟩ := Option.bind_eq_some_iff.1 h
    cases h
    rcases List.mem_cons.1 hy with rfl | hy
    · exact ⟨x, List.mem_cons_self, hfirst⟩
    · obtain ⟨x', hx', hf⟩ := ih hrest hy
      exact ⟨x', List.mem_cons_of_mem _ hx', hf⟩

end CrossCheck.Sequence
