import CallSnapshot.Proofs.Steps
import CallSnapshot.Note

/-! Computations that leave notes are blind to the notes that were left before them. -/

namespace CallSnapshot.Noting

variable {α β : Type}

/-- Whatever notes there are before, the outcome is the same, and the same notes are added. -/
def Steady (c : Noting α) : Prop := ∀ ns, c.run.run ns = (c.start.1, ns ++ c.start.2)

lemma Steady.of {c : Noting α} (r : Except Fault α) (new : List Note)
    (h : ∀ ns, c.run.run ns = (r, ns ++ new)) : Steady c := by
  have hstart : c.start = (r, new) := h []
  intro ns
  rw [hstart, h]

lemma run_bind (c : Noting α) (f : α → Noting β) (ns : List Note) :
    (c >>= f).run.run ns = match c.run.run ns with
      | (.ok a, ms) => (f a).run.run ms
      | (.error e, ms) => (.error e, ms) := by
  simp only [ExceptT.run_bind, StateT.run_bind]
  rcases c.run.run ns with ⟨e | a, ms⟩ <;> rfl

lemma steady_pure (a : α) : Steady (pure a) := .of (.ok a) [] fun ns => by rw [List.append_nil]; rfl

lemma steady_throw (f : Fault) : Steady (throw f : Noting α) :=
  .of (.error f) [] fun ns => by rw [List.append_nil]; rfl

lemma steady_fail (kind : FaultKind) (message : String) : Steady (fail kind message : Noting α) :=
  steady_throw _

lemma steady_settle (r : Except Fault α) : Steady (settle r) := by
  cases r with
  | ok a => exact steady_pure a
  | error f => exact steady_throw f

lemma steady_note (n : Note) : Steady (note n) := .of (.ok ()) [n] fun _ => rfl

lemma Steady.run_bind {c : Noting α} {f : α → Noting β} (hc : Steady c) (hf : ∀ a, Steady (f a))
    (ns : List Note) : (c >>= f).run.run ns = match c.start.1 with
      | .ok a => ((f a).start.1, ns ++ (c.start.2 ++ (f a).start.2))
      | .error e => (.error e, ns ++ c.start.2) := by
  rw [Noting.run_bind, hc]
  cases c.start.1 with
  | ok a => exact (hf a _).trans (by rw [List.append_assoc])
  | error e => rfl

lemma Steady.start_bind {c : Noting α} {f : α → Noting β} (hc : Steady c) (hf : ∀ a, Steady (f a)) :
    (c >>= f).start = match c.start.1 with
      | .ok a => ((f a).start.1, c.start.2 ++ (f a).start.2)
      | .error e => (.error e, c.start.2) := hc.run_bind hf []

lemma Steady.bind {c : Noting α} {f : α → Noting β} (hc : Steady c) (hf : ∀ a, Steady (f a)) :
    Steady (c >>= f) := by
  intro ns
  rw [hc.start_bind hf, hc.run_bind hf]
  cases c.start.1 <;> rfl

lemma Steady.map {c : Noting α} (hc : Steady c) (f : α → β) : Steady (f <$> c) := by
  rw [← bind_pure_comp]
  exact hc.bind fun a => steady_pure (f a)

/-- A property that goes from the steps of a computation over to the whole. -/
structure Closed (P : ∀ {α : Type}, Noting α → Prop) : Prop where
  pure {α : Type} (a : α) : P (pure a : Noting α)
  throw {α : Type} (f : Fault) : P (throw f : Noting α)
  debug (text : String) (cause : Option Fault) : P (note ⟨.debug, text, cause⟩)
  bind {α β : Type} {c : Noting α} {f : α → Noting β} : P c → (∀ a, P (f a)) → P (c >>= f)

namespace Closed

variable {P : ∀ {α : Type}, Noting α → Prop} (hP : Closed P)

include hP

lemma fail (kind : FaultKind) (message : String) : P (fail kind message : Noting α) := hP.throw _

lemma settle (r : Except Fault α) : P (settle r) := by
  cases r with
  | ok a => exact hP.pure a
  | error f => exact hP.throw f

lemma mapM {f : α → Noting β} (hf : ∀ a, P (f a)) (xs : List α) : P (xs.mapM f) := by
  induction xs with
  | nil => exact hP.pure []
  | cons x xs ih =>
    rw [List.mapM_cons]
    exact hP.bind (hf x) fun y => hP.bind ih fun ys => hP.pure _

end Closed

lemma closed_steady : Closed Steady where
  pure := steady_pure
  throw := steady_throw
  debug _ _ := steady_note _
  bind := Steady.bind

/-- Nothing but what is of use for finding errors is noted. -/
def Quiet (c : Noting α) : Prop :=
  ∀ ns, (∀ n ∈ ns, n.level = .debug) → ∀ n ∈ (c.run.run ns).2, n.level = .debug

lemma closed_quiet : Closed Quiet where
  pure _ _ h := h
  throw _ _ h := h
  debug text cause ns h := List.forall_mem_append.mpr ⟨h, by simp⟩
  bind {_ _ c f} hc hf ns h := by
    have hfirst := hc ns h
    rw [run_bind]
    rcases hrun : c.run.run ns with ⟨e | a, ms⟩ <;> rw [hrun] at hfirst
    · exact hfirst
    · exact hf a ms hfirst

lemma run_tryCatch (c : Noting α) (g : Fault → Noting α) (ns : List Note) :
    (MonadExcept.tryCatch c g : Noting α).run.run ns = match c.run.run ns with
      | (.ok a, ms) => (.ok a, ms)
      | (.error e, ms) => (g e).run.run ms := by
  simp only [ExceptT.run_tryCatch, StateT.run_bind]
  rcases c.run.run ns with ⟨e | a, ms⟩ <;> rfl

lemma Steady.tryCatch {c : Noting α} {g : Fault → Noting α} (hc : Steady c) (hg : ∀ f, Steady (g f)) :
    Steady (MonadExcept.tryCatch c g) := by
  cases hr : c.start.1 with
  | ok a =>
    refine .of (.ok a) c.start.2 fun ns => ?_
    rw [run_tryCatch, hc, hr]
  | error e =>
    refine .of (g e).start.1 (c.start.2 ++ (g e).start.2) fun ns => ?_
    rw [run_tryCatch, hc, hr]
    exact (hg e _).trans (by rw [List.append_assoc])

lemma Steady.start_tryCatch {c : Noting α} {g : Fault → Noting α} (hc : Steady c)
    (hg : ∀ f, Steady (g f)) : (MonadExcept.tryCatch c g).start.1 = match c.start.1 with
      | .ok a => .ok a
      | .error e => (g e).start.1 := by
  have hrun := run_tryCatch c g []
  rw [hc] at hrun
  refine (congrArg Prod.fst hrun).trans ?_
  cases c.start.1 with
  | ok a => rfl
  | error e =>
    have hfst : ((g e).run.run ([] ++ c.start.2)).1 = (g e).start.1 := by rw [hg]
    exact hfst

end CallSnapshot.Noting
