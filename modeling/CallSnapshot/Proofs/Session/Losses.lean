import CallSnapshot.Proofs.Session.Pristine

/-!
Either place of copies may be lost, and with it copies that are in no other place. The copies that
remain are true, but when everything is restored only those in the project are asked for, and all
of them are removed.
-/

namespace CallSnapshot.Workspace

open Files Acting

/-- What happens in a session, in which the copies in the project may be cleared away too. -/
inductive Turn where
  | deed (d : Deed)
  | strip

variable {w : Workspace} {temp : Place} {start fs gs : Files} {rel : List String} {bs : List UInt8}

/-- A file is as it was at first, or there is a copy of it. -/
def Saved (w : Workspace) (fs : Files) (file : Path) (bs : List UInt8) : Prop :=
  fs.hasEntry (w.primaryBackup file) = true ∨ fs.hasEntry (w.localBackup file) = true ∨
    fs.read file = .ok bs

namespace Turn

def act (w : Workspace) : Turn → Acting Unit
  | .deed d => d.act w
  | .strip => modify fun s => { s with files := s.files.removeTree w.localDir }

/-- The files that are found by it are regular files of the project and none of the session's, and
what is instrumented is not yet, or there is a copy of it. -/
def Within (w : Workspace) (temp : Place) (start fs : Files) : Turn → Prop
  | .deed (.inject pattern _) => ∀ p ∈ fs.sourceFiles w.project pattern,
    ∃ rel bs, Source w temp start rel bs ∧ p = w.file rel ∧ Saved w fs p bs
  | .deed (.injectFile file _) => ∃ rel bs, Source w temp start rel bs ∧
    fs.resolve (w.located file) = w.file rel ∧ Saved w fs (w.file rel) bs
  | .deed d => d.Within w temp start fs
  | .strip => True

end Turn

/-- The files after some turns, one after another. -/
inductive Exposed (w : Workspace) (temp : Place) (start : Files) : Files → Prop
  | start : Exposed w temp start start
  | step {fs : Files} (turn : Turn) (s : Scene) : Exposed w temp start fs →
    turn.Within w temp start fs → s.files = fs →
    Exposed w temp start ((turn.act w).run.run s).2.files

namespace Site

variable (h : Site w temp start)

include h

lemma guarded_of_saved (hs : Shape w temp start fs) (hrel : Source w temp start rel bs)
    (hsaved : Saved w fs (w.file rel) bs) : (w.standing temp fs rel).Guarded bs := by
  intro hp hl
  obtain ⟨c, hc⟩ := hs.content rel bs hrel
  rw [Saved, hasEntry, hasEntry, h.entry_primary hs hrel, h.entry_fallback hs hrel, hp, hl,
    read_file ((entry_content hs hrel).1.trans hc)] at hsaved
  rcases hsaved with hsome | hsome | hread
  · cases hsome
  · cases hsome
  · cases hread
    exact hc

lemma turn_does (hs : Shape w temp start fs) {turn : Turn} (ht : turn.Within w temp start fs) :
    Does (turn.act w) fs fun _ gs => Shape w temp start gs := by
  rcases turn with (⟨pattern, force⟩ | ⟨file, force⟩ | pattern | _ | _) | _
  · have hfound : ∀ p ∈ fs.sourceFiles w.project pattern, ∃ rel bs, Source w temp start rel bs ∧
        p = w.file rel ∧ (w.standing temp fs rel).Guarded bs := by
      intro p hp
      obtain ⟨rel, bs, hrel, rfl, hsaved⟩ := ht p hp
      exact ⟨rel, bs, hrel, rfl, h.guarded_of_saved hs hrel hsaved⟩
    exact (h.inject_works hs force hfound).bind fun _ _ hgs => does_pure hgs.shape
  · obtain ⟨rel, bs, hrel, hfile, hsaved⟩ := ht
    have hg := h.guarded_of_saved hs hrel hsaved
    exact (h.injectFile_works hs hrel hg hfile force).bind fun _ _ hgs => does_pure hgs.1.shape
  · by_cases hne : pattern = ""
    · subst hne
      exact (h.restore_empties hs).bind fun _ _ hgs => does_pure hgs.1
    · exact (h.restore_pattern hs hne ht).bind fun _ _ hgs => does_pure hgs.shape
  · exact (h.restore_empties hs).bind fun _ _ hgs => does_pure hgs.1
  · have hcut := cut_removeTree (h.leads_temp hs) hs.sound (sessionName_proper w) hs.session_entry
    rintro s rfl
    exact ⟨(), rfl, (h.cut_session hs hcut).1⟩
  · have hcut := cut_removeTree (h.leads_project hs) hs.sound localName_proper hs.local_entry
    rintro s rfl
    exact ⟨(), rfl, (h.cut_local hs hcut).1⟩

lemma exposed_shape (hr : Exposed w temp start fs) : Shape w temp start fs := by
  induction hr with
  | start => exact h.shape_start
  | step turn s _ ht hs ih =>
    obtain ⟨-, -, hshape⟩ := h.turn_does ih ht s hs
    exact hshape

end Site

/-- When everything is restored nothing fails and no copies are left. The files that have a copy in
the project are those that are restored from one; every other file stays as it is, also where there
was a copy of it among the temporary files. -/
theorem restored_iff_local_copy (h : Site w temp start) (hr : Exposed w temp start fs) (s : Scene)
    (hs : s.files = fs) :
    ∃ ps gs, ((w.restore none none).run.run s).1 = .ok ps ∧
      ((w.restore none none).run.run s).2.files = gs ∧
      ∀ rel bs, Source w temp start rel bs →
        (∀ copy ∈ [w.primaryBackup (w.file rel), w.localBackup (w.file rel)],
          (fs.hasEntry copy = true → fs.read copy = .ok bs) ∧ gs.hasEntry copy = false) ∧
        (w.file rel ∈ ps ↔ fs.hasEntry (w.localBackup (w.file rel)) = true) ∧
        (gs.read (w.file rel) = .ok bs ↔
          fs.hasEntry (w.localBackup (w.file rel)) = true ∨ fs.read (w.file rel) = .ok bs) ∧
        (fs.hasEntry (w.localBackup (w.file rel)) = false → gs.read (w.file rel) = fs.read (w.file rel)) := by
  have hshape := h.exposed_shape hr
  obtain ⟨ps, hok, hshape', hps, hstanding, -⟩ := h.restore_empties hshape s hs
  refine ⟨ps, _, hok, rfl, fun rel bs hrel => ?_⟩
  revert hshape' hstanding
  generalize ((w.restore none none).run.run s).2.files = gs
  intro hshape' hstanding
  have hst := hstanding rel bs hrel
  have hlocal : fs.hasEntry (w.localBackup (w.file rel)) = (w.standing temp fs rel).fallback.isSome := by
    rw [hasEntry, h.entry_fallback hshape hrel]
  obtain ⟨c, hc⟩ := hshape.content rel bs hrel
  have hread : fs.read (w.file rel) = .ok c := read_file ((Site.entry_content hshape hrel).1.trans hc)
  have hread' : gs.read (w.file rel) =
      .ok (if fs.hasEntry (w.localBackup (w.file rel)) then bs else c) := by
    refine read_file ((Site.entry_content hshape' hrel).1.trans ?_)
    rw [hst, hlocal]
    split
    · rfl
    · exact hc
  refine ⟨fun copy hm => ⟨h.read_copy hshape hrel hm, ?_⟩, ?_, ?_, ?_⟩
  · simp only [List.mem_cons, List.not_mem_nil, or_false] at hm
    rcases hm with rfl | rfl
    · rw [hasEntry, h.entry_primary hshape' hrel, hst]
      rfl
    · rw [hasEntry, h.entry_fallback hshape' hrel, hst]
      rfl
  · rw [hlocal, hps rel bs hrel]
  · rw [hread, hread']
    cases fs.hasEntry (w.localBackup (w.file rel)) <;> simp
  · intro hnone
    rw [hread, hread', hnone]
    rfl

/-- The files of a small project after one is instrumented and the copies in the project are lost. -/
def smallStripped : Files := ((Turn.strip.act smallWorkspace).run.run ⟨smallInjected, [], .warning⟩).2.files

/-- The copy among the temporary files goes, and the file stays instrumented. -/
theorem restored_iff_local_copy_stripped : Exposed smallWorkspace ["t"] smallFiles smallStripped ∧
    smallStripped.hasEntry (smallWorkspace.primaryBackup ⟨.single, ["p", "a.py"]⟩) = true ∧
    ∃ gs, ((smallWorkspace.restore none none).run.run ⟨smallStripped, [], .warning⟩).2.files = gs ∧
      gs.hasEntry (smallWorkspace.primaryBackup ⟨.single, ["p", "a.py"]⟩) = false ∧
      gs.read ⟨.single, ["p", "a.py"]⟩ ≠ .ok smallContent := by
  have hinjected : Exposed smallWorkspace ["t"] smallFiles smallInjected :=
    .step (.deed (.injectFile ⟨.relative, ["a.py"]⟩ false)) _ .start
      ⟨_, _, small_source, rfl, .inr (.inr rfl)⟩ rfl
  have hstripped : Exposed smallWorkspace ["t"] smallFiles smallStripped :=
    .step .strip ⟨smallInjected, [], .warning⟩ hinjected trivial rfl
  have hprimary : smallStripped.hasEntry (smallWorkspace.primaryBackup ⟨.single, ["p", "a.py"]⟩) = true := by
    decide +kernel
  have hlocal : smallStripped.hasEntry (smallWorkspace.localBackup ⟨.single, ["p", "a.py"]⟩) = false := by
    decide +kernel
  have hread : (smallStripped.read ⟨.single, ["p", "a.py"]⟩).toOption ≠ some smallContent := by
    decide +kernel
  obtain ⟨ps, gs, -, hgs, hrestored⟩ :=
    restored_iff_local_copy small_site hstripped ⟨smallStripped, [], .warning⟩ rfl
  obtain ⟨hcopies, -, -, hsame⟩ := hrestored _ _ small_source
  refine ⟨hstripped, hprimary, gs, hgs, (hcopies _ List.mem_cons_self).2, fun h => hread ?_⟩
  exact congrArg Except.toOption ((hsame hlocal).symm.trans h)

end CallSnapshot.Workspace
