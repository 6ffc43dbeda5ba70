import CallSnapshot.Proofs.CommandLine.Running
import CallSnapshot.Proofs.Session.Injecting
import CallSnapshot.Proofs.Session.Number

/-!
Commands beside a collector whose number is kept. All but recording start no process, and most of them
spare the number.
-/

namespace CallSnapshot

open Files Reaching Workspace

lemma Config.create_sparing {w : Workspace} {fs : Files} {p : Path} (h : Ready w fs)
    (hp : Aside w (fs.startOf p) p) : Sparing w (Config.create p) fs := by
  unfold Config.create Config.save
  refine Sparing.bind (Sparing.bind (put_sparing h hp []) fun _ gs hg => ?_) fun _ gs hg =>
    sparing_note hg.ready _
  refine (sparing_settle hg.ready _).bind fun text hs hh => ?_
  have hstart : hs.startOf p = fs.startOf p := by simp only [startOf, hh.current, hg.current]
  refine sparing_change hh.ready _ fun ks hk => write_spared hh.ready ?_ ?_ hk
  · rw [hstart]
    exact hp.session
  · rw [hstart]
    exact hp.way _ (List.prefix_refl _)

namespace CommandLine

variable {α β : Type} {w : Workspace} {c : Context} {s t : Setting} {r : Reaching α}

/-- Whatever comes of it, no process is started and the number is spared. -/
def Sparingly (w : Workspace) (r : Reaching α) (s : Setting) : Prop :=
  Ends r s fun _ t => Quiet s t ∧ (Ready w s.scene.files → Spared w s.scene.files t.scene.files)

lemma Sparingly.bind {f : α → Reaching β} (h : Sparingly w r s) (hf : ∀ a t, Sparingly w (f a) t) :
    Sparingly w (r >>= f) s := by
  refine Ends.bind h (fun a t ht => (hf a t).mono fun _ u hu => ?_) fun _ _ => id
  refine ⟨ht.1.trans hu.1, fun hs => ?_⟩
  have hspared := ht.2 hs
  exact hspared.trans (hu.2 hspared.ready)

lemma sparingly_lift {work : Acting α} (h : Ready w s.scene.files → Sparing w work s.scene.files) :
    Sparingly w (liftM work) s := ⟨quietly_lift work, fun hs => h hs s.scene rfl⟩

lemma Quietly.sparingly (hr : Quietly r s) (hf : Ends r s fun _ t => t.scene.files = s.scene.files) :
    Sparingly w r s := by
  refine ⟨hr, fun h => ?_⟩
  rw [show (r.run.run s).2.scene.files = s.scene.files from hf]
  exact h.spared

lemma Calmly.sparingly (hr : Calmly r s) : Sparingly w r s :=
  Quietly.sparingly hr.quietly (hr.mono fun _ _ ht => ht.files)

lemma sparingly_pure (a : α) : Sparingly w (pure a) s := Calmly.sparingly (calmly_pure a)

lemma sparingly_throw (f : Fault) : Sparingly w (throw f : Reaching α) s :=
  Calmly.sparingly (calmly_throw f)

lemma sparingly_throw_bind (f : Fault) (g : α → Reaching β) : Sparingly w (throw f >>= g) s :=
  Calmly.sparingly (Calm.refl s)

lemma sparingly_say (text : String) : Sparingly w (say text) s :=
  Calmly.sparingly ((does_say text).calmly fun _ _ => Same.calm)

lemma sparingly_warn (text : String) : Sparingly w (warn text) s :=
  Calmly.sparingly ((does_warn text).calmly fun _ _ => Same.calm)

lemma sparingly_settle (x : Except Fault α) : Sparingly w (settle x) s :=
  Calmly.sparingly ((ends_settle x).mono fun _ _ ht => ht.2.calm)

lemma sparingly_shown (members : List (String × Value)) :
    Sparingly w (members.forM fun (k, v) => say s!"  {k}: {v.plainText}") s := by
  induction members generalizing s with
  | nil => exact sparingly_pure ()
  | cons m ms ih =>
    change Sparingly w (say s!"  {m.1}: {m.2.plainText}" >>= fun _ => ms.forM _) s
    exact (sparingly_say _).bind fun _ _ => ih

lemma sparingly_isRunning (pid : ℤ) : Sparingly w (Daemon.isRunning pid) s := by
  obtain ⟨b, -, -, hquiet, hscene⟩ := does_isRunning (s := s) pid
  refine ⟨hquiet, fun h => ?_⟩
  rw [hscene]
  exact h.spared

lemma sparingly_tellStatus (reply : Json) : Sparingly w (tellStatus reply) s := by
  cases reply with
  | obj ms =>
    unfold tellStatus
    refine (sparingly_say _).bind fun _ t => ?_
    refine (sparingly_say _).bind fun _ u => ?_
    exact (sparingly_settle _).bind fun _ v => sparingly_say _
  | _ => exact sparingly_throw _

/-! Commands that spare the number. -/

lemma instrument_sparingly (hw : Workspace.Layout c.workspace) (target : Value) (force : Bool) :
    Sparingly c.workspace (instrument c target force) s := by
  refine (sparingly_settle _).bind fun pattern t => ?_
  exact sparingly_lift fun h => inject_sparing h hw pattern force

lemma inject_sparingly (hw : Workspace.Layout c.workspace) (target : Option String) (force : Bool) :
    Sparingly c.workspace (inject c target force) s := by
  refine (sparingly_settle _).bind fun target t => ?_
  refine (instrument_sparingly hw target force).bind fun results u => ?_
  split
  · exact sparingly_pure 1
  · exact (sparingly_say _).bind fun _ v => sparingly_pure _

lemma ownTarget_some {pattern : String} {target : Option String}
    (h : Context.ownTarget (some pattern) = .ok target) : ∃ p, target = some p ∧ p ≠ "" := by
  have hpattern : Options.pattern (.str pattern) = if (Text.trim pattern).isEmpty
      then .error (optionFault "File pattern must be a non-empty string.") else .ok (Text.trim pattern) := rfl
  rw [Context.ownTarget, hpattern] at h
  split at h
  · cases h
  · rename_i hempty
    cases h
    exact ⟨_, rfl, by simpa using hempty⟩

def LogAside (c : Context) : Prop := ∀ log, c.log = .ok log → Aside c.workspace [] log.path

lemma log_absolute (hw : Workspace.Layout c.workspace) {log : Log} (h : c.log = .ok log) :
    log.path.isAbsolute = true := by
  unfold Context.log at h
  split at h
  · cases h
    unfold Path.join
    split
    · assumption
    · exact hw.project.absolute
  · cases h

lemma clean_sparingly (hw : Workspace.Layout c.workspace) {pattern : String} (hlog : LogAside c) :
    Sparingly c.workspace (clean c (some pattern)) s := by
  refine (ends_settle (Context.ownTarget (some pattern))).bind ?_ fun _ _ ht =>
    ⟨ht.2.calm.quiet, fun h => ht.2.files ▸ h.spared⟩
  rintro target t ⟨htarget, ht⟩
  obtain ⟨p, rfl, hp⟩ := ownTarget_some htarget.symm
  refine (ends_settle c.log).bind ?_ fun _ _ hu =>
    ⟨(ht.trans hu.2).calm.quiet, fun h => (ht.trans hu.2).files ▸ h.spared⟩
  rintro log u ⟨hclog, hu⟩
  have hsame := ht.trans hu
  have hrestore : Sparingly c.workspace (do
      let _ ← (c.workspace.restore (some p) (some log) : Acting (List Path))
      return 0 : Reaching ℕ) u :=
    (sparingly_lift fun h => restore_sparing h hw hp (log_absolute hw hclog.symm)
      ((hlog log hclog.symm).way _ (List.prefix_refl _))).bind fun _ v => sparingly_pure 0
  refine Ends.mono hrestore fun _ v hv => ⟨hsame.calm.quiet.trans hv.1, ?_⟩
  rw [← hsame.files]
  exact hv.2

lemma status_sparingly (port : Option String) : Sparingly w (status c port) s := by
  refine (sparingly_settle _).bind fun port t => ?_
  refine (Calmly.sparingly calmly_savedPid).bind fun saved u => ?_
  refine (Calmly.sparingly ((does_outcome (Client.calmly_request _ "GET" "/status")).calmly
    fun _ _ hv => hv)).bind fun reply v => ?_
  match reply with
  | .error f =>
    dsimp only
    split
    · exact sparingly_throw_bind f _
    · refine (sparingly_say _).bind fun _ x => ?_
      cases saved with
      | none => exact sparingly_pure 1
      | some pid =>
        refine (sparingly_isRunning pid).bind fun b y => ?_
        split
        · exact (sparingly_warn _).bind fun _ z => sparingly_pure 1
        · exact sparingly_pure 1
  | .ok reply =>
    refine (sparingly_say _).bind fun _ x => ?_
    exact (sparingly_tellStatus reply).bind fun _ y => sparingly_pure 0

lemma configure_sparingly {create display : Bool}
    (hp : create = true → Aside w (s.scene.files.startOf c.configPath) c.configPath) :
    Sparingly w (configure c create display) s := by
  unfold configure
  split
  · rename_i hcreate
    exact (sparingly_lift fun h => Config.create_sparing h (hp hcreate)).bind fun _ t => sparingly_pure 0
  · split
    · refine (sparingly_say _).bind fun _ t => ?_
      exact (sparingly_shown _).bind fun _ u => sparingly_pure 0
    · exact (sparingly_say _).bind fun _ t => sparingly_pure 0

/-! Commands that take the number away. -/

lemma quietly_say (text : String) : Quietly (say text) s := quietly_note _

lemma quietly_settle (x : Except Fault α) : Quietly (settle x) s := quietly_lift _

lemma quietly_sayAll (texts : List String) : Quietly (texts.forM say) s :=
  ((does_sayAll texts).calmly fun _ _ => Same.calm).quietly

lemma clean_quietly (target : Option String) : Quietly (clean c target) s := by
  refine (quietly_settle _).bind fun pattern t => ?_
  refine (quietly_settle _).bind fun log u => ?_
  exact (quietly_lift _).bind fun _ v => quietly_pure 0

lemma quietly_stop (pid : ℤ) : Quietly (Daemon.stop pid) s := by
  refine (quietly_signal pid _).bind fun state t => ?_
  cases state with
  | running => exact quietly_pure true
  | broken => exact quietly_throw _
  | _ => exact quietly_pure false

lemma stopCollector_quietly : Quietly (stopCollector c) s := by
  refine (quietly_say _).bind fun _ t => ?_
  refine calmly_savedPid.quietly.bind fun saved u => ?_
  cases saved with
  | none => exact quietly_pure ()
  | some pid =>
    refine (quietly_stop pid).bind fun b v => ?_
    dsimp only
    split
    · exact (quietly_note _).bind fun _ _ => quietly_lift _
    · exact (quietly_note _).bind fun _ _ => quietly_lift _

lemma restoreAll_quietly : Quietly (restoreAll c) s := by
  refine (quietly_say _).bind fun _ t => ?_
  refine (quietly_settle _).bind fun log u => ?_
  refine (quietly_lift _).bind fun _ v => ?_
  refine (quietly_lift _).bind fun fs x => ?_
  have hlast : ∀ y, Quietly (do
      [divider, "Original code restored. Snapshots preserved for testing.",
        "Run \"io-snapshot test\" to verify your code changes.", divider].forM say
      return 0 : Reaching ℕ) y := fun y => (quietly_sayAll _).bind fun _ _ => quietly_pure 0
  dsimp only
  split
  · exact (quietly_say _).bind fun _ y => hlast y
  · exact hlast _

lemma stop_quietly (port : Option String) : Quietly (stop c port) s := by
  rw [stop_eq]
  refine (quietly_settle _).bind fun port t => ?_
  have hrecording : Quietly (stopRecording port) t := (ends_stopRecording port).mono fun _ _ h => h.1.quiet
  exact hrecording.bind fun _ u => stopCollector_quietly.bind fun _ v => restoreAll_quietly

end CommandLine

end CallSnapshot
