import CallSnapshot.Note
import Mathlib

/-! Computations that may fail or leave notes, taken apart into their steps. -/

namespace CallSnapshot

lemma bind_eq_ok {ε α β : Type} {x : Except ε α} {f : α → Except ε β} {b : β} :
    (x >>= f) = .ok b ↔ ∃ a, x = .ok a ∧ f a = .ok b := by
  cases x with
  | error e => exact ⟨nofun, nofun⟩
  | ok a => exact ⟨fun h => ⟨a, rfl, h⟩, fun ⟨_, h, h'⟩ => by cases h; exact h'⟩

lemma bind_eq_error {ε α β : Type} {x : Except ε α} {f : α → Except ε β} {e : ε} :
    (x >>= f) = .error e ↔ x = .error e ∨ ∃ a, x = .ok a ∧ f a = .error e := by
  constructor
  · intro h
    cases x with
    | error e' =>
      cases h
      exact .inl rfl
    | ok a => exact .inr ⟨a, rfl, h⟩
  · rintro (rfl | ⟨a, rfl, h⟩)
    · rfl
    · exact h

lemma run_bind_eq_ok {ε σ α β : Type} {c : ExceptT ε (StateM σ) α} {f : α → ExceptT ε (StateM σ) β}
    {b : β} {s t : σ} : (c >>= f).run.run s = (.ok b, t) ↔
      ∃ a u, c.run.run s = (.ok a, u) ∧ (f a).run.run u = (.ok b, t) := by
  simp only [ExceptT.run_bind, StateT.run_bind]
  rcases c.run.run s with ⟨e | a, u⟩
  · exact ⟨fun h => (by cases congrArg Prod.fst h), fun ⟨_, _, h, _⟩ => by cases congrArg Prod.fst h⟩
  · refine ⟨fun h => ⟨a, u, rfl, h⟩, ?_⟩
    rintro ⟨_, _, h, h'⟩
    cases h
    exact h'

lemma throw_bind_ne_ok {ε σ α β : Type} {e : ε} {f : α → ExceptT ε (StateM σ) β} {b : β} {s t : σ} :
    (throw e >>= f).run.run s ≠ (.ok b, t) := by
  intro h
  obtain ⟨_, _, h, -⟩ := run_bind_eq_ok.mp h
  cases congrArg Prod.fst h

section Traversal

variable {m : Type → Type} [Monad m] {S : Type}

end Traversal

lemma ok_bind {ε α β : Type} (a : α) (f : α → Except ε β) : (Except.ok a >>= f) = f a := rfl

end CallSnapshot
