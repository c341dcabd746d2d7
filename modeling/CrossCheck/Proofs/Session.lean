import CrossCheck.Backend
import CrossCheck.Proofs.Sequence

/-!
Sessions taken apart: what the parts of one give, from which state and with which state left.
-/

namespace CrossCheck.Session

variable {σ ε α β : Type} {x : Session σ ε α} {f : α → Session σ ε β} {s t u : σ}

theorem bind_of_ok {a : α} (h : x s = (.ok a, t)) : (x >>= f) s = f a t := by
  simp [bind, ExceptT.bind, ExceptT.mk, ExceptT.bindCont, StateT.bind, h]

theorem bind_of_failed {e : ε} (h : x s = (.error e, t)) : (x >>= f) s = (.error e, t) := by
  simp [bind, ExceptT.bind, ExceptT.mk, ExceptT.bindCont, StateT.bind, h]
  rfl

theorem bind_of_error {e : ε} (h : (x s).1 = .error e) : ((x >>= f) s).1 = .error e := by
  rw [bind_of_failed (t := (x s).2) (Prod.ext h rfl)]

theorem failed_inj {e e' : ε} (h : ((.error e, s) : Except ε α × σ) = (.error e', t)) :
    e = e' ∧ s = t := by
  obtain ⟨he, hs⟩ := Prod.mk.inj h
  exact ⟨Except.error.inj he, hs⟩

theorem failed_ne_ok {e : ε} {a : α} :
    ((.error e, s) : Except ε α × σ) ≠ (.ok a, t) := nofun

theorem bind_ok_iff {b : β} :
    (x >>= f) s = (.ok b, u) ↔ ∃ a t, x s = (.ok a, t) ∧ f a t = (.ok b, u) := by
  constructor
  · intro h
    rcases hx : x s with ⟨r, t⟩
    cases r with
    | ok a => exact ⟨a, t, rfl, (bind_of_ok hx).symm.trans h⟩
    | error e => exact absurd ((bind_of_failed hx).symm.trans h) failed_ne_ok
  · rintro ⟨a, t, hx, hf⟩
    rw [bind_of_ok hx, hf]

theorem ofExcept_ok_iff {δ : Type} {name : δ → ε} {r : Except δ α} {a : α} :
    ofExcept name r s = (.ok a, t) ↔ r = .ok a ∧ s = t := by
  cases r with
  | error e => exact ⟨fun h => absurd h failed_ne_ok, fun h => absurd h.1 Sequence.error_ne_ok⟩
  | ok b =>
    constructor
    · intro h
      obtain ⟨hb, hs⟩ := Prod.mk.inj h
      exact ⟨congrArg _ (Except.ok.inj hb), hs⟩
    · rintro ⟨hb, rfl⟩
      rw [hb]
      rfl

theorem pure_ok_iff {a b : α} : (pure a : Session σ ε α) s = (.ok b, t) ↔ a = b ∧ s = t := by
  constructor
  · intro h
    obtain ⟨hb, hs⟩ := Prod.mk.inj h
    exact ⟨Except.ok.inj hb, hs⟩
  · rintro ⟨rfl, rfl⟩
    rfl

/-- What a session gives does not depend on the state it begins with. -/
def IsBlind (x : Session σ ε α) : Prop := ∀ s t, (x s).1 = (x t).1

theorem IsBlind.bind (hx : IsBlind x) (hf : ∀ a, IsBlind (f a)) : IsBlind (x >>= f) := by
  intro s t
  have hst := hx s t
  rcases hs : x s with ⟨r, s'⟩
  rcases ht : x t with ⟨r', t'⟩
  rw [hs, ht] at hst
  dsimp only at hst
  subst hst
  cases r with
  | ok a =>
    rw [bind_of_ok hs, bind_of_ok ht]
    exact hf a s' t'
  | error e => rw [bind_of_failed hs, bind_of_failed ht]

theorem isBlind_pure (a : α) : IsBlind (pure a : Session σ ε α) := fun _ _ => rfl

theorem isBlind_ofExcept {δ : Type} (name : δ → ε) (r : Except δ α) :
    IsBlind (ofExcept name r : Session σ ε α) := by
  cases r with
  | ok a => exact fun _ _ => rfl
  | error e => exact fun _ _ => rfl

end CrossCheck.Session
