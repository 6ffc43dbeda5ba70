import CallSnapshot.Proofs.Log.Storing
import CallSnapshot.Proofs.Replay.Ending

/-!
When a whole verification ends in a report. Beside the replays it is the names of the records that
decide: calls are grouped by them, and one by which that cannot be done is not caught.
-/

namespace CallSnapshot

namespace Log

lemma forM_eq_ok {ε α : Type} {g : α → Except ε Unit} {xs : List α} :
    xs.forM g = .ok () ↔ ∀ x ∈ xs, g x = .ok () := by
  induction xs with
  | nil => exact iff_of_true rfl (by simp)
  | cons x xs ih =>
    rw [List.forall_mem_cons, ← ih]
    change (g x >>= fun _ => xs.forM g) = .ok () ↔ _
    rw [bind_eq_ok]
    exact ⟨fun ⟨_, h, h'⟩ => ⟨h, h'⟩, fun ⟨h, h'⟩ => ⟨(), h, h'⟩⟩

lemma groupable_eq_ok {name : Json} : groupable name = .ok () ↔ (Codec.ofJson name).hashFault? = none := by
  unfold groupable
  cases (Codec.ofJson name).hashFault? <;> simp

lemma decoded?_name {mode : Codec.Mode} {r : Record} {e : Event} (h : decoded? mode r = some e) :
    e.name = r.name := by
  have hstart : (Event.ofRecord mode r).start.1 = .ok e := by
    rw [decoded?] at h
    cases hr : (Event.ofRecord mode r).start.1 <;> rw [hr] at h <;> cases h
    rfl
  have hrun : (Event.ofRecord mode r).run.run [] = (.ok e, ((Event.ofRecord mode r).run.run []).2) :=
    Prod.ext hstart rfl
  obtain ⟨name, ns, hname, hrest⟩ := run_bind_eq_ok.mp hrun
  obtain ⟨args, ns₁, -, hrest⟩ := run_bind_eq_ok.mp hrest
  obtain ⟨kw, ns₂, -, hrest⟩ := run_bind_eq_ok.mp hrest
  obtain ⟨kwargs, ns₃, -, hrest⟩ := run_bind_eq_ok.mp hrest
  obtain ⟨result, ns₄, -, hrest⟩ := run_bind_eq_ok.mp hrest
  cases hrest
  change name = r.name
  unfold Codec.field at hname
  rw [Record.name]
  cases hf : Json.find? "fn_name" r.members <;> rw [hf] at hname <;> cases hname
  rfl

end Log

namespace Registry

variable {names : List String} {s s' : Scene}

end Registry

namespace Workspace

open Acting Replaying

variable {w : Workspace} {host : Host} {log : Log} {t : Diff.Tolerance} {p : Program} {r : Registry}

end Workspace

/-- A function that always gives a half. -/
def half : Routine Run := ⟨false, fun c => pure (.ended (.value c (.float (.finite false 1 (-1)))))⟩

end CallSnapshot
