import CallSnapshot.Proofs.Session.Restoring

/-!
Sources are never lost in a session: through any instrumenting and restoring, and though the
temporary files may go at any time, a file is as it was at first, or it is that file instrumented
and there is a true copy of it.
-/

namespace CallSnapshot.Workspace

open Files Acting

/-- What happens in a session. The temporary files may be cleared away by others. -/
inductive Deed where
  | inject (pattern : Option String) (force : Bool)
  | injectFile (file : Path) (force : Bool)
  | restore (pattern : String)
  | restoreAll
  | lose

namespace Deed

def act (w : Workspace) : Deed → Acting Unit
  | .inject pattern force => do
    let _ ← w.inject pattern force
  | .injectFile file force => do
    let _ ← w.injectFile file force
  | .restore pattern => do
    let _ ← w.restore (some pattern) none
  | .restoreAll => do
    let _ ← w.restore none none
  | .lose => modify fun s => { s with files := s.files.removeTree w.sessionDir }

/-- The files that are found by it are regular files of the project, and none of the session's. -/
def Within (w : Workspace) (temp : Place) (start fs : Files) : Deed → Prop
  | .inject pattern _ => ∀ p ∈ fs.sourceFiles w.project pattern,
    ∃ rel bs, Source w temp start rel bs ∧ p = w.file rel
  | .injectFile file _ => ∃ rel bs, Source w temp start rel bs ∧ fs.resolve (w.located file) = w.file rel
  | .restore pattern => ∀ p ∈ fs.sourceFiles w.project (some pattern),
    ∃ rel bs, Source w temp start rel bs ∧ p = w.file rel
  | .restoreAll => True
  | .lose => True

end Deed

/-- The files after some deeds, one after another. -/
inductive Reachable (w : Workspace) (temp : Place) (start : Files) : Files → Prop
  | start : Reachable w temp start start
  | step {fs : Files} (deed : Deed) (s : Scene) : Reachable w temp start fs →
    deed.Within w temp start fs → s.files = fs →
    Reachable w temp start ((deed.act w).run.run s).2.files

/-- What there is of a file whose first content is `bs`: the copies are true, without them the file
is as it was, and never is it anything but that, or that instrumented. -/
structure Pristine (w : Workspace) (fs : Files) (file : Path) (bs : List UInt8) : Prop where
  copies : ∀ copy ∈ [w.primaryBackup file, w.localBackup file], fs.hasEntry copy = true →
    fs.read copy = .ok bs
  original : fs.hasEntry (w.primaryBackup file) = false → fs.hasEntry (w.localBackup file) = false →
    fs.read file = .ok bs
  content : fs.read file = .ok bs ∨ ∃ cs, Rewrites bs cs ∧ fs.read file = .ok cs

variable {w : Workspace} {temp : Place} {start fs : Files} {rel : List String} {bs : List UInt8}

namespace Site

variable (h : Site w temp start)

include h

lemma held_start : Held w temp start start := by
  have hs := h.shape_start
  refine ⟨hs, fun rel bs hrel => ⟨.inl hrel.content, fun hsome => ?_⟩⟩
  exfalso
  have hnone : (w.standing temp start rel).primary ≠ some (.file bs) := by
    intro hp
    have hbelow : w.sessionPlace temp ++ ["backup"] <+: (w.primaryDepot temp).copyPlace rel := by
      have : (w.primaryDepot temp).dir = w.sessionPlace temp ++ ["backup"] := by
        simp [Depot.dir, Depot.lead, primaryDepot, sessionPlace]
      rw [← this]
      exact List.prefix_append _ _
    rcases h.noCopies _ (.inl hbelow) with hq | hq <;> simp [standing, hq] at hp
  rcases h.standing_primary hs hrel with hp | hp
  · simp [hp] at hsome
  · exact hnone hp

lemma act_does (hh : Held w temp start fs) {deed : Deed} (hd : deed.Within w temp start fs) :
    Does (deed.act w) fs fun _ gs => Held w temp start gs := by
  cases deed with
  | inject pattern force =>
    have hfound : ∀ p ∈ fs.sourceFiles w.project pattern, ∃ rel bs, Source w temp start rel bs ∧
        p = w.file rel ∧ (w.standing temp fs rel).Guarded bs := by
      intro p hp
      obtain ⟨rel, bs, hrel, rfl⟩ := hd p hp
      exact ⟨rel, bs, hrel, rfl, (hh.kept rel bs hrel).guarded⟩
    refine (h.inject_works hh.shape force hfound).bind fun _ _ hgs => does_pure ?_
    exact hh.course hgs fun _ _ _ => Standing.Kept.injected
  | injectFile file force =>
    obtain ⟨rel, bs, hrel, hfile⟩ := hd
    have hg := (hh.kept rel bs hrel).guarded
    refine (h.injectFile_works hh.shape hrel hg hfile force).bind fun _ _ hgs => does_pure ?_
    exact hh.course (hgs.1.injected hh.shape hrel hgs.2) fun _ _ _ => Standing.Kept.injected
  | restore pattern =>
    by_cases hne : pattern = ""
    · subst hne
      exact (h.restore_all hh).bind fun _ _ hgs => does_pure hgs.1
    · refine (h.restore_pattern hh.shape hne hd).bind fun _ _ hgs => does_pure ?_
      exact hh.course hgs fun _ _ _ => Standing.Kept.freed
  | restoreAll => exact (h.restore_all hh).bind fun _ _ hgs => does_pure hgs.1
  | lose =>
    have hcut := cut_removeTree (h.leads_temp hh.shape) hh.shape.sound (sessionName_proper w)
      hh.shape.session_entry
    obtain ⟨hs, hstanding⟩ := h.cut_session hh.shape hcut
    rintro s rfl
    refine ⟨(), rfl, hs, fun rel bs hrel => ?_⟩
    change (w.standing temp (s.files.removeTree (down w.temp [w.sessionName])) rel).Kept bs
    rw [hstanding rel bs hrel]
    exact ⟨(hh.kept rel bs hrel).content, nofun⟩

lemma reachable_held (hr : Reachable w temp start fs) : Held w temp start fs := by
  induction hr with
  | start => exact h.held_start
  | step deed s _ hd hs ih =>
    obtain ⟨-, -, hheld⟩ := h.act_does ih hd s hs
    exact hheld

lemma read_copy (hs : Shape w temp start fs) (hrel : Source w temp start rel bs) {copy : Path}
    (hm : copy ∈ [w.primaryBackup (w.file rel), w.localBackup (w.file rel)])
    (hhas : fs.hasEntry copy = true) : fs.read copy = .ok bs := by
  have hprimary := h.entry_primary hs hrel
  have hfallback := h.entry_fallback hs hrel
  rw [hasEntry] at hhas
  simp only [List.mem_cons, List.not_mem_nil, or_false] at hm
  rcases hm with rfl | rfl
  · rw [hprimary] at hhas
    rcases h.standing_primary hs hrel with hp | hp
    · simp [hp] at hhas
    · exact read_file (hprimary.trans hp)
  · rw [hfallback] at hhas
    rcases h.standing_fallback hs hrel with hp | hp
    · simp [hp] at hhas
    · exact read_file (hfallback.trans hp)

lemma pristine (hh : Held w temp start fs) (hrel : Source w temp start rel bs) :
    Pristine w fs (w.file rel) bs := by
  have hs := hh.shape
  have hcontent := (entry_content hs hrel).1
  refine ⟨fun copy => h.read_copy hs hrel, fun _ hlocal => ?_, ?_⟩
  · rcases (hh.kept rel bs hrel).content with hc | ⟨hsome, -⟩
    · exact read_file (hcontent.trans hc)
    · rw [hasEntry, h.entry_fallback hs hrel, hsome] at hlocal
      cases hlocal
  · rcases (hh.kept rel bs hrel).content with hc | ⟨-, cs, hcs, hc⟩
    · exact .inl (read_file (hcontent.trans hc))
    · exact .inr ⟨cs, hcs, read_file (hcontent.trans hc)⟩

lemma read_restored (hs : Shape w temp start fs)
    (hall : ∀ rel bs, Source w temp start rel bs → w.standing temp fs rel = ⟨some (.file bs), none, none⟩)
    (hsession : fs.get? (w.sessionPlace temp) = none) (hlocal : fs.get? w.localPlace = none) :
    (∀ rel bs, Source w temp start rel bs → fs.read (w.file rel) = .ok bs ∧
      fs.hasEntry (w.primaryBackup (w.file rel)) = false ∧ fs.hasEntry (w.localBackup (w.file rel)) = false) ∧
    fs.hasEntry w.sessionDir = false ∧ fs.hasEntry w.localDir = false := by
  refine ⟨fun rel bs hrel => ?_, ?_, ?_⟩
  · have hst := hall rel bs hrel
    refine ⟨?_, ?_, ?_⟩
    · exact read_file ((entry_content hs hrel).1.trans (by rw [hst]))
    · rw [hasEntry, h.entry_primary hs hrel, hst]
      rfl
    · rw [hasEntry, h.entry_fallback hs hrel, hst]
      rfl
  · have := hasEntry_child (h.leads_temp hs) hs.sound (sessionName_proper w) hs.session_entry
    exact this.trans (congrArg Option.isSome hsession)
  · have := hasEntry_child (h.leads_project hs) hs.sound localName_proper hs.local_entry
    exact this.trans (congrArg Option.isSome hlocal)

end Site

/-- In every state of a session nothing fails, all sources are kept, and they can all be had back:
when everything is restored, each file is as it was at first and no copy is left. -/
theorem pristine_kept (h : Site w temp start) (hr : Reachable w temp start fs) :
    (∀ deed : Deed, deed.Within w temp start fs → ∀ s : Scene, s.files = fs →
      ((deed.act w).run.run s).1 = .ok ()) ∧
    (∀ rel bs, Source w temp start rel bs → Pristine w fs (w.file rel) bs) ∧
    ∀ s : Scene, s.files = fs → ∃ gs, ((w.restore none none).run.run s).2.files = gs ∧
      (∀ rel bs, Source w temp start rel bs → gs.read (w.file rel) = .ok bs ∧
        gs.hasEntry (w.primaryBackup (w.file rel)) = false ∧
        gs.hasEntry (w.localBackup (w.file rel)) = false) ∧
      gs.hasEntry w.sessionDir = false ∧ gs.hasEntry w.localDir = false := by
  have hh := h.reachable_held hr
  refine ⟨fun deed hd s hs => ?_, fun rel bs hrel => h.pristine hh hrel, fun s hs => ?_⟩
  · obtain ⟨_, hok, -⟩ := h.act_does hh hd s hs
    exact hok
  · obtain ⟨_, -, hheld, hall, hsession, hlocal⟩ := h.restore_all hh s hs
    exact ⟨_, rfl, h.read_restored hheld.shape hall hsession hlocal⟩

/-! A session in a small project. -/

def smallWorkspace : Workspace := ⟨⟨.single, ["p"]⟩, ⟨.single, ["t"]⟩⟩

def smallContent : List UInt8 := Text.encodeUtf8 "def f(x):\n    return x\n"

def smallFiles : Files := ⟨[(["p"], .directory), (["t"], .directory), (["p", "a.py"], .file smallContent)], []⟩

/-- The files after one is instrumented. -/
def smallInjected : Files :=
  (((Deed.injectFile ⟨.relative, ["a.py"]⟩ false).act smallWorkspace).run.run ⟨smallFiles, [], .warning⟩).2.files

/-- The files after one is instrumented and the temporary files are lost. -/
def smallLost : Files := ((Deed.lose.act smallWorkspace).run.run ⟨smallInjected, [], .warning⟩).2.files

lemma small_places {q : Place} (hq : q ≠ []) (hs : (smallFiles.get? q).isSome = true) :
    q = ["p"] ∨ q = ["t"] ∨ q = ["p", "a.py"] := by
  have hm := (isSome_get? hq).mp hs
  simpa [smallFiles] using hm

lemma small_sessionPlace : smallWorkspace.sessionPlace ["t"] = ["t", smallWorkspace.sessionName] := rfl

lemma small_localPlace : smallWorkspace.localPlace = ["p", ".io-snapshot-backups"] := rfl

lemma small_source : Source smallWorkspace ["t"] smallFiles ["a.py"] smallContent := by
  refine ⟨rfl, ?_, ?_⟩
  · rw [small_sessionPlace]
    simp [smallWorkspace]
  · rw [small_localPlace]
    simp [smallWorkspace]

lemma small_sound : Sound smallFiles := by
  refine ⟨by decide, by decide, fun q n hs => ?_, fun q hs n hn => ?_⟩
  · rcases small_places (by simp) hs with h | h | h
    · obtain ⟨rfl, -⟩ := List.append_inj' (h.trans (List.nil_append ["p"]).symm) rfl
      rfl
    · obtain ⟨rfl, -⟩ := List.append_inj' (h.trans (List.nil_append ["t"]).symm) rfl
      rfl
    · obtain ⟨rfl, -⟩ := List.append_inj' (show q ++ [n] = ["p"] ++ ["a.py"] from h) rfl
      rfl
  · by_cases hq : q = []
    · simp [hq] at hn
    · have hp : Proper "p" := ⟨⟨by decide, by decide, by decide⟩, by decide⟩
      have ht : Proper "t" := ⟨⟨by decide, by decide, by decide⟩, by decide⟩
      have ha : Proper "a.py" := ⟨⟨by decide, by decide, by decide⟩, by decide⟩
      rcases small_places hq hs with rfl | rfl | rfl <;>
        simp only [List.mem_cons, List.not_mem_nil, or_false] at hn
      · exact hn ▸ hp
      · exact hn ▸ ht
      · rcases hn with rfl | rfl
        · exact hp
        · exact ha

lemma small_eraseTree {dir : Place} (h : smallFiles.entries.filter (fun x => !isBelow dir x.1) =
    smallFiles.entries) : smallFiles.eraseTree dir = smallFiles := by
  rw [eraseTree, h]

lemma small_outside :
    (smallFiles.eraseTree (smallWorkspace.sessionPlace ["t"])).eraseTree smallWorkspace.localPlace = smallFiles := by
  have hsession : smallFiles.eraseTree (smallWorkspace.sessionPlace ["t"]) = smallFiles := by
    rw [small_sessionPlace]
    generalize smallWorkspace.sessionName = name
    exact small_eraseTree rfl
  rw [hsession]
  exact small_eraseTree rfl

lemma small_site : Site smallWorkspace ["t"] smallFiles := by
  have hnone : ∀ q : Place, smallWorkspace.sessionPlace ["t"] <+: q ∨ smallWorkspace.localPlace <+: q →
      smallFiles.get? q = none := by
    intro q hq
    rw [← Option.not_isSome_iff_eq_none]
    intro hs
    have hne : q ≠ [] := by
      rintro rfl
      simp [small_sessionPlace, small_localPlace] at hq
    rw [small_sessionPlace, small_localPlace] at hq
    rcases small_places hne hs with rfl | rfl | rfl <;> simp at hq
  refine ⟨small_sound, rfl, rfl, ?_, .inl (hnone _ (.inl (List.prefix_refl _))), ⟨?_, ?_⟩,
    fun q hq => .inl (hnone q ?_), fun q n _ hs => ?_⟩
  · rw [small_outside]
    exact ⟨rfl, rfl⟩
  · rw [small_sessionPlace, small_localPlace]
    simp
  · rw [small_sessionPlace, small_localPlace]
    simp
  · exact hq.imp_left fun h => (List.prefix_append _ _).trans h
  · have hn : n = "p" ∨ n = "t" ∨ n = "a.py" := by
      rcases small_places (q := q ++ [n]) (by simp) (by rw [hs]; rfl) with h | h | h <;>
        have := congrArg List.getLast? h <;> simp at this <;> simp [this]
    rcases hn with rfl | rfl | rfl <;> decide

theorem pristine_kept_small : Reachable smallWorkspace ["t"] smallFiles smallLost ∧
    Pristine smallWorkspace smallLost ⟨.single, ["p", "a.py"]⟩ smallContent ∧
    ∃ gs, ((smallWorkspace.restore none none).run.run ⟨smallLost, [], .warning⟩).2.files = gs ∧
      gs.read ⟨.single, ["p", "a.py"]⟩ = .ok smallContent := by
  have hinjected : Reachable smallWorkspace ["t"] smallFiles smallInjected :=
    .step (.injectFile ⟨.relative, ["a.py"]⟩ false) _ .start ⟨_, _, small_source, rfl⟩ rfl
  have hlost : Reachable smallWorkspace ["t"] smallFiles smallLost :=
    .step .lose ⟨smallInjected, [], .warning⟩ hinjected trivial rfl
  obtain ⟨-, hkept, hrestored⟩ := pristine_kept small_site hlost
  obtain ⟨gs, hgs, hread, -⟩ := hrestored ⟨smallLost, [], .warning⟩ rfl
  exact ⟨hlost, hkept _ _ small_source, gs, hgs, (hread _ _ small_source).1⟩

end CallSnapshot.Workspace
