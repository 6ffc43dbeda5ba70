import CallSnapshot.Proofs.CommandLine.Recording
import CallSnapshot.Proofs.CommandLine.Stop

/-!
Recording that starts no collector. Refused options and a collector that is there leave everything as it
was; once they are passed the log is made empty, be there a file to instrument or not.
-/

namespace CallSnapshot

open Files Reaching Workspace

/-- What is at other places is as it was, but for directories that were made. -/
def Files.KeptBut (skip : Place → Prop) (fs gs : Files) : Prop :=
  ∀ q, ¬ skip q → gs.get? q = fs.get? q ∨ (fs.get? q = none ∧ gs.get? q = some .directory)

namespace Files

variable {fs gs hs : Files} {skip skip' : Place → Prop} {p : Path}

lemma KeptBut.refl (skip : Place → Prop) (fs : Files) : KeptBut skip fs fs := fun _ _ => .inl rfl

lemma KeptBut.trans (h : KeptBut skip fs gs) (h' : KeptBut skip gs hs) : KeptBut skip fs hs := by
  intro q hq
  rcases h' q hq with heq | ⟨hnone, hdir⟩
  · rw [heq]
    exact h q hq
  · rcases h q hq with heq | ⟨-, hmade⟩
    · exact .inr ⟨heq ▸ hnone, hdir⟩
    · rw [hmade] at hnone
      cases hnone

lemma KeptBut.mono (h : KeptBut skip fs gs) (hskip : ∀ q, skip q → skip' q) : KeptBut skip' fs gs :=
  fun q hq => h q fun hs => hq (hskip q hs)

lemma kept_makeFrom {fuel : ℕ} {dir : Place} {names : List String} (h : makeFrom fuel fs dir names = .ok gs) :
    KeptBut (fun _ => False) fs gs := by
  induction fuel generalizing fs dir names with
  | zero => cases h
  | succ fuel ih =>
    cases names with
    | nil =>
      cases h
      exact .refl _ _
    | cons n rest =>
      simp only [makeFrom] at h
      split at h
      · exact ih h
      · split at h
        · rename_i hnone
          have hmade : KeptBut (fun _ => False) fs (fs.put (dir ++ [n]) .directory) := by
            intro q _
            rw [get?_put fs (by simp)]
            split
            · rename_i hq
              exact .inr ⟨hq ▸ hnone, rfl⟩
            · exact .inl rfl
          exact hmade.trans (ih h)
        · exact ih h
        · cases h
        · exact ih h

end Files

/-- The files with the log made empty, where that can be done. -/
def Log.emptied (log : Log) (fs : Files) : Except FileError Files :=
  fs.makeDirectories log.path.parent >>= fun fs => fs.write log.path []

namespace Log

variable {log : Log} {fs gs : Files}

lemma emptied_kept (h : log.emptied fs = .ok gs) :
    ∃ q, gs.get? q = some (.file []) ∧ KeptBut (fun p => p = q) fs gs := by
  obtain ⟨made, hmade, hwrite⟩ := bind_eq_ok.mp h
  obtain ⟨q, -, hput⟩ := bind_eq_ok.mp hwrite
  have hkept : KeptBut (fun p => p = q) fs made := (kept_makeFrom hmade).mono fun _ => False.elim
  have hne : made.get? q ≠ some .directory → q ≠ [] := by
    rintro hq rfl
    exact hq (get?_nil made)
  split at hput
  · cases hput
  · rename_i hq
    cases hput
    have hget := get?_put made (hne hq) (.file [])
    refine ⟨q, by rw [hget, if_pos rfl], hkept.trans fun p hp => .inl ?_⟩
    rw [hget, if_neg hp]

end Log

namespace CommandLine

variable {w : Workspace} {host : Host} {env : Environment} {time : String} {line : CommandLine} {c : Context}
  {s t : Setting} {target port timeout : Option String} {force : Bool} {v : Value} {log : Log} {fs gs : Files}

def timeoutOf (c : Context) (given : Option String) : Except Fault ℤ :=
  match given with
  | some s => Options.timeout (.str s)
  | none => .ok c.config.timeout

def numberOf (w : Workspace) (fs : Files) : Option ℤ := (w.keptPid fs).filter (· != 0)

/-- The files without the number of a process, where it can be taken away. -/
def unnumbered (w : Workspace) (fs : Files) : Except FileError Files :=
  match numberOf w fs with
  | none => .ok fs
  | some _ => fs.remove w.pidFile

/-- No collector is there: the number that is kept can be read, and is of no process. -/
structure Unoccupied (c : Context) (s : Setting) : Prop where
  readable : s.scene.files.hasEntry c.workspace.pidFile = true →
    ∃ bs, s.scene.files.read c.workspace.pidFile = .ok bs
  gone : ∀ pid, numberOf c.workspace s.scene.files = some pid →
    s.outside.stateOf pid ≠ .running ∧ s.outside.stateOf pid ≠ .denied

/-- The options of a recording are in order, no collector is there, and the log can be made empty. -/
structure Clears (c : Context) (s : Setting) (target port timeout : Option String) (v : Value) (gs : Files) :
    Prop where
  port : ∃ n, c.portOf port = .ok n
  timeout : ∃ n, timeoutOf c timeout = .ok n
  target : c.targetOf target = .ok v
  unoccupied : Unoccupied c s
  log : ∃ log fs, c.log = .ok log ∧ unnumbered c.workspace s.scene.files = .ok fs ∧ log.emptied fs = .ok gs

def NumberAt (w : Workspace) (fs : Files) (q : Place) : Prop := fs.ownPlaceOf w.pidFile = .ok q

lemma unnumbered_kept (h : unnumbered w fs = .ok gs) : KeptBut (NumberAt w fs) fs gs := by
  unfold unnumbered at h
  split at h
  · cases h
    exact .refl _ _
  · obtain ⟨q, hq, hremove⟩ := bind_eq_ok.mp h
    split at hremove
    · cases hremove
    · cases hremove
    · rename_i e hdir he
      cases hremove
      have hne : q ≠ [] := by
        rintro rfl
        exact hdir (Option.some.inj (he.symm.trans (get?_nil fs)))
      intro p hp
      rw [get?_erase fs hne, if_neg]
      · exact .inl rfl
      · rintro rfl
        exact hp hq

lemma Clears.kept (h : Clears c s target port timeout v gs) : ∃ q, gs.get? q = some (.file []) ∧
    KeptBut (fun p => NumberAt c.workspace s.scene.files p ∨ p = q) s.scene.files gs := by
  obtain ⟨log, fs, -, hfs, hgs⟩ := h.log
  obtain ⟨q, hq, hkept⟩ := Log.emptied_kept hgs
  exact ⟨q, hq, ((unnumbered_kept hfs).mono fun _ => .inl).trans (hkept.mono fun _ => .inr)⟩

/-! The look for a collector. -/

def Readable (w : Workspace) (fs : Files) : Prop :=
  fs.hasEntry w.pidFile = true → ∃ bs, fs.read w.pidFile = .ok bs

def Unmatched (c : Context) (v : Value) (fs : Files) : Prop :=
  ∀ pattern, Context.patternOf v = .ok pattern → fs.sourceFiles c.workspace.project pattern = []

lemma unoccupied_congr (h : Same s t) : Unoccupied c t ↔ Unoccupied c s := by
  constructor <;> rintro ⟨hread, hgone⟩
  · rw [h.files] at hread hgone
    rw [h.outside] at hgone
    exact ⟨hread, hgone⟩
  · rw [← h.files] at hread hgone
    rw [← h.outside] at hgone
    exact ⟨hread, hgone⟩

lemma clears_congr (h : Same s t) : Clears c t target port timeout v gs ↔ Clears c s target port timeout v gs := by
  constructor <;> rintro ⟨hport, htimeout, htarget, hfree, hlog⟩
  · exact ⟨hport, htimeout, htarget, (unoccupied_congr h).mp hfree, h.files ▸ hlog⟩
  · exact ⟨hport, htimeout, htarget, (unoccupied_congr h).mpr hfree, h.files.symm ▸ hlog⟩

/-- What comes of a recording without a file to instrument, and of one that leaves the log alone. -/
def Spares (c : Context) (s : Setting) (target port timeout : Option String) (r : Except Fault ℕ) (t : Setting) :
    Prop :=
  (∀ v gs, Clears c s target port timeout v gs → Unmatched c v gs →
    (r = .ok 1 ∨ ∃ f, r = .error f ∧ f.kind.isFinal = false) ∧ Quiet s t ∧ t.scene.files = gs) ∧
  ((∀ v gs, ¬ Clears c s target port timeout v gs) →
    Quiet s t ∧ KeptBut (NumberAt c.workspace s.scene.files) s.scene.files t.scene.files)

lemma Spares.congr {r : Except Fault ℕ} {u : Setting} (hsame : Same s t)
    (h : Spares c t target port timeout r u) : Spares c s target port timeout r u := by
  refine ⟨fun v gs hc hun => ?_, fun hnone => ?_⟩
  · obtain ⟨hr, hquiet, hfiles⟩ := h.1 v gs ((clears_congr hsame).mpr hc) hun
    exact ⟨hr, hsame.calm.quiet.trans hquiet, hfiles⟩
  · obtain ⟨hquiet, hkept⟩ := h.2 fun v gs hc => hnone v gs ((clears_congr hsame).mp hc)
    exact ⟨hsame.calm.quiet.trans hquiet, hsame.files ▸ hkept⟩

/-- The settings that a command line is carried out with. -/
def Settled (w : Workspace) (env : Environment) (line : CommandLine) (s : Setting) (config : Config) : Prop :=
  ((Config.forProject env w.project (some (settingsPath w line))).run.run (informed s).scene).1 = .ok config

end CommandLine

end CallSnapshot
