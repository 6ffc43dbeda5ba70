import CallSnapshot.Proofs.Diff.Clash
import CallSnapshot.Proofs.Replay.Reproduction
import CallSnapshot.Proofs.Replay.Verdict

/-!
When the replays of a function end in a report. A fault of the function is part of it. What is not
caught comes up beside the call: a result that cannot be compared with the recorded one, or a
difference that has no text.
-/

namespace CallSnapshot

namespace Replaying

variable {σ : Type} [Noted σ] {t : Diff.Tolerance} {name : String} {f : Routine σ}

lemma run_newResult (f : Routine σ) (e : Event) (heap : Heap) (s : σ) :
    ∃ r s', (newResult f e heap).run.run s = (.ok r, s') := by
  have hcall : ∃ o u, ((f.run ⟨e.args, e.kwargs, heap⟩ : StateM σ Outcome) : Trying σ Outcome).run.run s =
      (.ok o, u) := ⟨_, _, rfl⟩
  obtain ⟨⟨result, call⟩, u, hcall⟩ := hcall
  cases result with
  | error fault => exact ⟨.error fault, u, run_bind_eq_ok.mpr ⟨_, u, hcall, rfl⟩⟩
  | ok v =>
    obtain ⟨s', hnoting⟩ := run_noting (Codec.normalize call.heap v) u
    exact ⟨_, s', run_bind_eq_ok.mpr ⟨_, u, hcall, hnoting⟩⟩

omit [Noted σ] in
lemma settle_eq_ok {α : Type} {r : Except Fault α} {a : α} {s s' : σ} :
    (settle r : Trying σ α).run.run s = (.ok a, s') ↔ r = .ok a ∧ s' = s := by
  cases r with
  | ok b =>
    constructor
    · rintro ⟨⟩
      exact ⟨rfl, rfl⟩
    · rintro ⟨⟨⟩, rfl⟩
      rfl
  | error fault => exact iff_of_false (fun h => by cases congrArg Prod.fst h) (by rintro ⟨⟨⟩, -⟩)

lemma replayAll_event {events : List (Heap × Event)} {xs : List Replay} {s s' : σ}
    (h : (replayAll t name f events).run.run s = (.ok xs, s')) : xs.map Replay.event = events.map Prod.snd := by
  have hall := replayAll_ok h
  clear h
  induction hall with
  | nil => rfl
  | cons hx _ ih => rw [List.map_cons, List.map_cons, hx.event, ih]

lemma verifyFunction_event {data : Json} {events : List (Heap × Event)} {report : FunctionReport} {s s' : σ}
    (h : (verifyFunction t data f events).run.run s = (.ok report, s')) :
    report.replays.map Replay.event = events.map Prod.snd := by
  unfold verifyFunction at h
  dsimp only at h
  split at h
  · rename_i hnone
    obtain ⟨_, u, -, h⟩ := run_bind_eq_ok.mp h
    cases h
    rw [List.isEmpty_iff.mp hnone]
    rfl
  · obtain ⟨xs, u, hxs, h⟩ := run_bind_eq_ok.mp h
    split at h <;> cases h <;> exact replayAll_event hxs

end Replaying

end CallSnapshot
