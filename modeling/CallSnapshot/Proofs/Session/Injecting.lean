import CallSnapshot.Proofs.Session.Restoring
import CallSnapshot.Proofs.Session.Sparing

/-!
Instrumenting files and restoring those of a pattern spares the number of the collector: the copies
lie beside it, and a source file is not named as it is.
-/

namespace CallSnapshot.Workspace

open Files Acting

variable {w : Workspace} {fs gs : Files} {p q : Path}

/-! Where the copies of files lie. -/

lemma relative_dots (hw : w.project.isAbsolute = true) (p : Path) : ∀ n ∈ w.relative p, n ≠ ".." := by
  have habs : (w.project.join p).isAbsolute = true := by
    rw [Path.join]
    split
    · assumption
    · exact hw
  have htarget : ∀ n ∈ (w.target p).names, n ≠ ".." := by
    intro n hn
    rw [target, Path.normalize, habs] at hn
    rcases Path.mem_collapse hn with hn | hn
    · cases hn
    · exact hn.2
  intro n hn
  rcases relative_cases w p with ht | ⟨-, ht⟩
  · refine htarget n ?_
    rw [ht]
    exact List.mem_append_right _ hn
  · exact htarget n (ht ▸ hn)

lemma extend_dots {rel : List String} (h : ∀ n ∈ rel, n ≠ "..") :
    ∀ n ∈ Path.extend rel backupSuffix, n ≠ ".." := by
  have hlong : ∀ s : String, s ++ backupSuffix ≠ ".." := by
    intro s hs
    have := congrArg (fun t => t.toList.length) hs
    simp [backupSuffix] at this
  intro n hn
  by_cases hrel : rel = []
  · subst hrel
    obtain rfl := List.mem_singleton.mp hn
    exact hlong "."
  · rw [Path.extend_eq hrel] at hn
    rcases List.mem_append.mp hn with hn | hn
    · exact h n (List.mem_of_mem_dropLast hn)
    · rw [List.mem_singleton.mp hn]
      exact hlong _

namespace Layout

variable (hw : Layout w)

include hw

lemma primaryDir_beside : Beside w w.primaryDir := by
  have hdir : w.primaryDir.names = w.sessionDir.names ++ ["backup"] := rfl
  have hne : "backup" ≠ "io-snapshot.pid" := by decide
  refine ⟨hw.temp.absolute, fun n hn => ?_, fun h => ?_, fun h => ?_⟩
  · rw [hdir, sessionDir_names, List.append_assoc] at hn
    rcases List.mem_append.mp hn with hn | hn
    · exact (hw.temp.proper n hn).2
    · simp only [List.cons_append, List.nil_append, List.mem_cons, List.not_mem_nil, or_false] at hn
      rcases hn with rfl | rfl
      · exact (sessionName_proper w).2
      · decide
  · rw [hdir, pidFile_names, List.prefix_append_right_inj] at h
    simp at h
  · rw [hdir, pidFile_names, List.prefix_append_right_inj] at h
    simp at h

lemma localDir_beside : Beside w w.localDir := by
  have hdir : w.localDir.names = w.project.names ++ [localBackupName] := rfl
  refine ⟨hw.project.absolute, fun n hn => ?_, hw.backups, fun h => ?_⟩
  · rw [hdir] at hn
    rcases List.mem_append.mp hn with hn | hn
    · exact (hw.project.proper n hn).2
    · rw [List.mem_singleton.mp hn]
      exact localName_proper.2
  · rw [hdir] at h
    rcases List.prefix_concat_iff.mp h with h | h
    · have := congrArg List.getLast? h
      rw [pidFile_names, List.getLast?_concat, List.getLast?_concat] at this
      revert this
      decide
    · exact hw.below h

lemma primaryBackup_beside (p : Path) : Beside w (w.primaryBackup p) :=
  hw.primaryDir_beside.extend (extend_dots (relative_dots hw.project.absolute p))

lemma localBackup_beside (p : Path) : Beside w (w.localBackup p) :=
  hw.localDir_beside.extend (extend_dots (relative_dots hw.project.absolute p))

end Layout

lemma located_absolute (hp : p.isAbsolute = true) : w.located p = p := by
  rw [located, Path.join, if_pos hp]

lemma Beside.parent {d : Path} {r : List String} (hd : Beside w d) (hr : r ≠ []) (hn : ∀ n ∈ r, n ≠ "..") :
    Beside w (Path.parent ⟨d.root, d.names ++ r⟩) := by
  rw [Path.parent, List.dropLast_append_of_ne_nil hr]
  exact hd.extend fun n hm => hn n (List.mem_of_mem_dropLast hm)

/-! Copies and source files. -/

section Work

variable (h : Ready w fs)

include h

omit h in
lemma hasBackup_asks (p : Path) : Does (w.hasBackup p) fs fun b gs =>
    gs = fs ∧ b = fs.hasEntry (w.primaryBackup p) := does_files_bind (does_pure ⟨rfl, rfl⟩)

omit h in
lemma hasLocalBackup_asks (p : Path) : Does (w.hasLocalBackup p) fs fun b gs =>
    gs = fs ∧ b = fs.hasEntry (w.localBackup p) := does_files_bind (does_pure ⟨rfl, rfl⟩)

lemma hasBackup_sparing (p : Path) : Sparing w (w.hasBackup p) fs :=
  Does.sparing (hasBackup_asks p) fun _ _ hg => hg.1 ▸ h.spared

lemma hasLocalBackup_sparing (p : Path) : Sparing w (w.hasLocalBackup p) fs :=
  Does.sparing (hasLocalBackup_asks p) fun _ _ hg => hg.1 ▸ h.spared

lemma copyFile_sparing {source target : Path} (hs : follow (fs.startOf target) target.names ≠ w.sessionDir.names)
    (hp : follow (fs.startOf target) target.names ≠ w.pidFile.names) : Sparing w (copyFile source target) fs := by
  refine ends_files_bind ?_
  refine ends_settle_bind (fun gs hgs => ?_) fun _ _ => h.spared
  refine Does.sparing (does_modify (Q := fun _ hs => hs = gs) rfl) ?_
  rintro _ _ rfl
  obtain ⟨bs, -, hwrite⟩ := copy_eq_ok.mp hgs
  exact write_spared h hs hp hwrite

lemma copyFile_source {source target : Path} (ht : SourcePath target) :
    Sparing w (copyFile source target) fs := by
  have hplace : follow (fs.startOf target) target.names = target.names := by
    rw [startOf_absolute ht.absolute, follow_eq ht.proper, List.nil_append]
  refine copyFile_sparing h ?_ ?_
  · rw [hplace]
    exact ht.ne_sessionDir
  · rw [hplace]
    exact ht.ne_pidFile

lemma copyInto_sparing {source target : Path} (ht : Beside w target) (hd : Beside w target.parent) :
    Sparing w (copyInto source target) fs := by
  refine Sparing.bind (sparing_change h _ fun gs hg => ?_) fun _ gs hg => ?_
  · exact makeDirectories_spared h (hd.aside fs).way hg
  · exact copyFile_sparing hg.ready (ht.aside gs).session ((ht.aside gs).way _ (List.prefix_refl _))

lemma prunes_spared {top : Path} (ht : Beside w top) {r : List String} {o : Except Fault Unit}
    (hprunes : Prunes top r fs o gs) (hr : ∀ n ∈ r, n ≠ "..") : Spared w fs gs := by
  induction hprunes with
  | absent hdir => exact h.spared
  | unlisted hdir hlist => exact h.spared
  | full hdir hlist hne => exact h.spared
  | kept hdir hlist hremove => exact h.spared
  | last htop hdir hlist hremove => exact removeDirectory_spared h (ht.extend hr) hremove
  | next hne hdir hlist hremove hprune ih =>
    have hspared := removeDirectory_spared h (ht.extend hr) hremove
    exact hspared.trans (ih hspared.ready fun n hn => hr n (List.mem_of_mem_dropLast hn))

lemma discardCopy_sparing {top : Path} (ht : Beside w top) {r : List String} (hne : r ≠ [])
    (hr : ∀ n ∈ r, n ≠ "..") : Sparing w (discardCopy top (down top r)) fs := by
  have hparent : ∀ n ∈ r.dropLast, n ≠ ".." := fun n hn => hr n (List.mem_of_mem_dropLast hn)
  refine (discardCopy_discards top hne).mono fun o gs hdiscards => ?_
  cases hdiscards with
  | kept hcopy hremove => exact h.spared
  | removed hcopy hremove hprune =>
    have hspared := remove_spared h (((ht.extend hr).aside fs).way _ (List.prefix_refl _)) hremove
    exact hspared.trans (prunes_spared hspared.ready ht hprune hparent)
  | missing hcopy hprune => exact prunes_spared h ht hprune hparent

variable (hw : Layout w)

include hw

lemma discard_sparing (p : Path) : Sparing w (w.discard p) fs := by
  have hdots := extend_dots (relative_dots hw.project.absolute p)
  have hne := Path.extend_ne_nil (w.relative p) backupSuffix
  refine (discardCopy_sparing h hw.primaryDir_beside hne hdots).bind fun _ gs hg => ?_
  exact discardCopy_sparing hg.ready hw.localDir_beside hne hdots

lemma backup_sparing (p : Path) : Sparing w (w.backup p) fs := by
  have hdots := extend_dots (relative_dots hw.project.absolute (w.located p))
  have hne := Path.extend_ne_nil (w.relative (w.located p)) backupSuffix
  refine (copyInto_sparing h (hw.primaryBackup_beside _) (hw.primaryDir_beside.parent hne hdots)).bind
    fun _ gs hg => ?_
  refine (copyInto_sparing hg.ready (hw.localBackup_beside _) (hw.localDir_beside.parent hne hdots)).bind
    fun _ hs hh => ?_
  exact (sparing_note hh.ready _).bind fun _ ks hk => sparing_pure hk.ready _

end Work

variable (hp : SourcePath p)

include hp

lemma restoreFile_sparing (h : Ready w fs) : Sparing w (w.restoreFile p) fs := by
  unfold restoreFile
  rw [located_absolute hp.absolute]
  refine (hasBackup_sparing h p).bind fun _ gs hg => ?_
  split
  · exact (copyFile_source hg.ready hp).bind fun _ hs hh => sparing_pure hh.ready true
  · refine (hasLocalBackup_sparing hg.ready p).bind fun _ hs hh => ?_
    split
    · refine (sparing_note hh.ready _).bind fun _ ks hk => ?_
      exact (copyFile_source hk.ready hp).bind fun _ ls hl => sparing_pure hl.ready true
    · exact (sparing_note hh.ready _).bind fun _ ks hk => sparing_pure hk.ready false

lemma instrumentFile_sparing (h : Ready w fs) : Sparing w (instrumentFile p) fs := by
  have hplace : ∀ gs : Files, follow (gs.startOf p) p.names = p.names := fun gs => by
    rw [startOf_absolute hp.absolute, follow_eq hp.proper, List.nil_append]
  refine (sparing_ask h _ _).bind fun content gs hg => ?_
  refine (sparing_settle hg.ready _).bind fun source hs hh => ?_
  refine (sparing_settle hh.ready _).bind fun r ks hk => ?_
  obtain ⟨text, wrapped⟩ := r
  cases text with
  | none => exact sparing_pure hk.ready none
  | some text =>
    refine (sparing_change hk.ready _ fun ls hl => ?_).bind fun _ ls hl => sparing_pure hl.ready _
    refine write_spared hk.ready ?_ ?_ hl
    · rw [hplace]
      exact hp.ne_sessionDir
    · rw [hplace]
      exact hp.ne_pidFile

lemma prepare_sparing (h : Ready w fs) (hw : Layout w) (had : Bool) : Sparing w (w.prepare p had) fs := by
  unfold prepare
  split
  · refine (restoreFile_sparing hp h).bind fun _ gs hg => ?_
    exact (backup_sparing hg.ready hw p).bind fun _ hs hh => sparing_pure hh.ready _
  · exact (backup_sparing h hw p).bind fun _ hs hh => sparing_pure hh.ready _

lemma injectPrepared_sparing (h : Ready w fs) (hw : Layout w) : Sparing w (w.injectPrepared p) fs := by
  refine (sparing_outcome ?_).bind fun r gs hg => ?_
  · refine (instrumentFile_sparing hp h).bind fun r gs hg => ?_
    cases r with
    | some wrapped => exact sparing_pure hg.ready _
    | none =>
      refine (sparing_note hg.ready _).bind fun _ hs hh => ?_
      exact (discard_sparing hh.ready hw p).bind fun _ ks hk => sparing_pure hk.ready _
  · match r with
    | .ok (some wrapped) => exact (sparing_note hg.ready _).bind fun _ hs hh => sparing_pure hh.ready _
    | .ok none => exact sparing_pure hg.ready _
    | .error f =>
      refine (sparing_note hg.ready _).bind fun _ hs hh => ?_
      refine (restoreFile_sparing hp hh.ready).bind fun _ ks hk => ?_
      exact (discard_sparing hk.ready hw p).bind fun _ ls hl => sparing_pure hl.ready _

lemma SourcePath.resolve (h : Ready w fs) : fs.resolve (w.located p) = p := by
  rw [located_absolute hp.absolute, resolve_follow h.direct, startOf_absolute hp.absolute,
    follow_eq hp.proper, List.nil_append, ← hp.root]

lemma injectFile_sparing (h : Ready w fs) (hw : Layout w) (force : Bool) :
    Sparing w (w.injectFile p force) fs := by
  refine ends_files_bind ?_
  dsimp only
  rw [hp.resolve h]
  refine (hasBackup_sparing h p).bind fun _ gs hg => ?_
  split
  · exact (sparing_note hg.ready _).bind fun _ hs hh => sparing_pure hh.ready _
  · refine (hasBackup_sparing hg.ready p).bind fun _ hs hh => ?_
    refine (hasLocalBackup_sparing hh.ready p).bind fun _ ks hk => ?_
    refine (sparing_outcome (prepare_sparing hp hk.ready hw _)).bind fun r ls hl => ?_
    match r with
    | .ok () => exact injectPrepared_sparing hp hl.ready hw
    | .error f =>
      dsimp only
      split
      · exact sparing_throw_bind hl.ready f _
      · refine (sparing_note hl.ready _).bind fun _ ms hm => ?_
        split
        · exact (discard_sparing hm.ready hw p).bind fun _ ns hn => sparing_pure hn.ready _
        · exact sparing_pure hm.ready _

omit hp

variable (h : Ready w fs) (hw : Layout w)

include h

lemma sourcePath_found {pattern : Option String} (hp : p ∈ fs.sourceFiles w.project pattern) :
    SourcePath p := by
  have hmem := Path.mem_sorted.mp hp
  simp only [List.mem_filter, List.mem_map, Bool.and_eq_true, beq_iff_eq] at hmem
  obtain ⟨⟨g, -, rfl⟩, ⟨-, hsuffix⟩, -⟩ := hmem
  have hstart : ∀ n ∈ fs.startOf g, n ≠ ".." := by
    unfold startOf
    split
    · simp
    · exact h.current
  refine ⟨?_, ?_, hsuffix⟩ <;> rw [resolve_follow h.direct]
  exact follow_proper hstart g.names

omit h in
lemma restorable_does (pattern : String) : Does (w.restorable (some pattern)) fs fun ps gs =>
    gs = fs ∧ ∀ p ∈ ps, p ∈ fs.sourceFiles w.project (some pattern) := by
  refine (files_does w (some pattern)).bind ?_
  rintro _ gs ⟨rfl, rfl⟩
  have hask : ∀ p ∈ gs.sourceFiles w.project (some pattern), Does
      (do return (← w.hasBackup p) || (← w.hasLocalBackup p)) gs
      fun b hs => hs = gs ∧ b = (gs.hasEntry (w.primaryBackup p) || gs.hasEntry (w.localBackup p)) := by
    intro p _
    refine (hasBackup_asks p).bind ?_
    rintro _ _ ⟨rfl, rfl⟩
    refine (hasLocalBackup_asks p).bind ?_
    rintro _ _ ⟨rfl, rfl⟩
    exact does_pure ⟨rfl, rfl⟩
  refine (does_filterM hask).mono ?_
  rintro _ _ ⟨rfl, rfl⟩
  exact ⟨rfl, fun p hp => (List.mem_filter.mp hp).1⟩

include hw

lemma inject_sparing (pattern : Option String) (force : Bool) : Sparing w (w.inject pattern force) fs := by
  refine Does.ends_bind (files_does w pattern) ?_
  rintro _ gs ⟨rfl, rfl⟩
  dsimp only
  split
  · exact (sparing_note h _).bind fun _ hs hh => sparing_pure hh.ready _
  · refine (sparing_note h _).bind fun _ hs hh => ?_
    exact sparing_mapM hh.ready fun p hp ks hk => injectFile_sparing (sourcePath_found h hp) hk hw force

omit hw in
lemma removeLog_sparing {log : Log} (habs : log.path.isAbsolute = true)
    (hlog : follow [] log.path.names ≠ w.pidFile.names) : Sparing w (removeLog log) fs := by
  have hremove : Sparing w log.remove fs := by
    refine ends_files_bind ?_
    split
    · refine (sparing_change h _ fun gs hg => ?_).bind fun _ gs hg => sparing_pure hg.ready _
      exact remove_spared h (by rwa [startOf_absolute habs]) hg
    · exact sparing_pure h _
  refine hremove.bind fun _ gs hg => ?_
  split
  · exact sparing_note hg.ready _
  · exact sparing_pure hg.ready _

omit hw in
lemma appendLine_sparing {log : Log} (hlog : Aside w (fs.startOf log.path) log.path) (line : String) :
    Sparing w (log.appendLine line) fs := by
  unfold Log.appendLine
  dsimp only
  split
  · exact sparing_pure h ()
  · refine sparing_change h _ fun gs hg => ?_
    obtain ⟨⟨b, rfl⟩, hdir⟩ := append_put h.direct hg
    exact Spared.put h hdir hlog.session (hlog.way _ (List.prefix_refl _)) b

lemma restore_sparing {pattern : String} (hne : pattern ≠ "") {log : Log}
    (habs : log.path.isAbsolute = true) (hlog : follow [] log.path.names ≠ w.pidFile.names) :
    Sparing w (w.restore (some pattern) (some log)) fs := by
  unfold restore
  dsimp only
  split
  · simp_all
  · refine Does.ends_bind (restorable_does pattern) ?_
    rintro ps _ ⟨rfl, hps⟩
    have hrest : ∀ gs, Ready w gs → Sparing w (do
        let restored := (← ps.mapM w.restoreNoted).flatten
        (some log).forM removeLog
        restored.forM w.discard
        return restored) gs := by
      intro gs hg
      refine (sparing_mapM hg fun p hp hs hh => ?_).bind fun rs hs hh => ?_
      · refine (restoreFile_sparing (sourcePath_found h (hps p hp)) hh).bind fun _ ks hk => ?_
        split
        · exact (sparing_note hk.ready _).bind fun _ ls hl => sparing_pure hl.ready _
        · exact sparing_pure hk.ready _
      · have hforM : (some log).forM removeLog = removeLog log := rfl
        rw [hforM]
        refine (removeLog_sparing hh.ready habs hlog).bind fun _ ks hk => ?_
        refine (sparing_forM hk.ready fun p _ ls hl => discard_sparing hl hw p).bind fun _ ls hl => ?_
        exact sparing_pure hl.ready _
    split
    · exact (sparing_note h _).bind fun _ gs hg => hrest gs hg.ready
    · exact hrest _ h

end CallSnapshot.Workspace
