import CallSnapshot.CommandLine.Perform
import CallSnapshot.Proofs.Reaching
import CallSnapshot.Proofs.Session.Number

/-! What all commands do: they read the settings, tell what happens and ask a collector. -/

namespace CallSnapshot

lemma Config.does_load (p : Path) {fs : Files} : Acting.Does (Config.load p) fs fun _ gs => gs = fs := by
  unfold Config.load
  refine Acting.does_files_bind ?_
  split
  · exact Acting.does_pure rfl
  · refine (Acting.does_outcome (Q := fun _ gs => gs = fs) ?_).bind ?_
    · refine Acting.Ends.bind (Acting.ends_ask (Q := fun _ gs => gs = fs) (fun _ _ => rfl) fun _ => rfl) ?_
        fun _ _ => id
      rintro content _ rfl
      exact (Acting.ends_start _).mono fun _ _ h => h.2
    · rintro r _ rfl
      cases r with
      | ok c => exact Acting.does_pure rfl
      | error f => exact Acting.does_note_bind _ (Acting.does_pure rfl)

lemma Config.ends_forProject (env : Environment) (project : Path) (given : Option Path) {fs : Files} :
    Acting.Ends (Config.forProject env project given) fs fun _ gs => gs = fs := by
  refine (Config.does_load _).ends_bind ?_
  rintro c _ rfl
  exact Acting.ends_settle _ rfl

lemma Config.forProject_missing {project p : Path} {s : Scene} (h : s.files.hasEntry p = false) :
    ((Config.forProject [] project (some p)).run.run s).1 = .ok Config.standard := by
  unfold Config.forProject Config.load
  simp only [Acting.run_bind, Acting.run_files, Option.getD_some, h, Bool.not_false, if_true, Acting.run_pure]
  rfl

open Reaching

namespace Client

variable {s : Setting}

lemma ends_request (c : Client) (method path : String) : Ends (c.request method path) s fun r t =>
    Calm s t ∧ ∀ f, r = .error f → f.kind.isUnreachable = true ∨ (f.kind = .interrupt ∧
      (Outside.takeAnswer (method ++ " " ++ path) s.outside.answers).1 = .interrupted) := by
  refine (Reaching.ends_request method c.address path c.timeout).bind ?_ fun f t h => ⟨h.1, ?_⟩
  · rintro ⟨status, text⟩ t ⟨hcalm, -⟩
    dsimp only
    split
    · rename_i f hf
      refine ends_throw ⟨hcalm, ?_⟩
      rintro _ ⟨⟩
      refine .inl ?_
      unfold Reaching.statusFault? at hf
      split at hf
      · cases hf
        rfl
      · split at hf
        · cases hf
          rfl
        · cases hf
    · exact ends_pure ⟨hcalm, nofun⟩
  · rintro _ ⟨⟩
    exact h.2 f rfl

lemma calmly_request (c : Client) (method path : String) : Calmly (c.request method path) s :=
  (c.ends_request method path).mono fun _ _ h => h.1

lemma calmly_waitUntil (c : Client) (deadline interval : Binary64) (fuel : ℕ) :
    Calmly (c.waitUntil deadline interval fuel) s := by
  induction fuel generalizing s with
  | zero => exact calmly_pure false
  | succ fuel ih =>
    unfold waitUntil
    refine Calmly.bind (does_clock.calmly fun _ t ht => ht ▸ Calm.refl s) fun now t _ => ?_
    split
    · exact calmly_pure false
    · refine Calmly.bind ((does_outcome (c.calmly_request "GET" "/status")).calmly fun _ _ h => h)
        fun r t _ => ?_
      match r with
      | .ok _ => exact calmly_pure true
      | .error f =>
        dsimp only
        split
        · exact calmly_throw f
        · exact Calmly.bind ((does_sleep interval).calmly fun _ _ h => h) fun _ _ _ => ih

lemma calmly_waitUntilReady (c : Client) (timeout interval : Binary64) :
    Calmly (c.waitUntilReady timeout interval) s :=
  Calmly.bind (does_clock.calmly fun _ _ ht => ht ▸ Calm.refl s) fun _ _ _ => c.calmly_waitUntil _ _ _

end Client

namespace CommandLine

variable {α : Type} {w : Workspace} {c : Context} {host : Host} {env : Environment} {time : String} {line : CommandLine}
  {s t : Setting}

lemma does_say (text : String) : Does (say text) s fun _ t => Same s t := does_note _

lemma does_warn (text : String) : Does (warn text) s fun _ t => Same s t := does_note _

lemma does_sayAll (texts : List String) : Does (texts.forM say) s fun _ t => Same s t := by
  induction texts generalizing s with
  | nil => exact does_pure (Same.refl s)
  | cons text texts ih =>
    change Does (say text >>= fun _ => texts.forM say) s _
    exact (does_say text).bind fun _ t ht => ih.mono fun _ _ => ht.trans

lemma ends_settle (r : Except Fault α) : Ends (settle r) s fun r' t => r' = r ∧ Same s t := by
  refine (ends_lift (Acting.ends_settle r (Q := fun r' gs => r' = r ∧ gs = s.scene.files) ⟨rfl, rfl⟩)).mono ?_
  rintro _ t ⟨hout, rfl, hfiles⟩
  exact ⟨rfl, hfiles, hout⟩

lemma does_settle (a : α) : Does (settle (.ok a)) s fun b t => b = a ∧ Same s t := by
  refine (ends_settle (.ok a)).mono ?_
  rintro _ t ⟨rfl, ht⟩
  exact ⟨a, rfl, rfl, ht⟩

lemma does_setLevel (l : Level) : Does (setLevel l) s fun _ t => Same s t := ⟨(), rfl, rfl, rfl⟩

/-! The process whose number is kept. -/

lemma calmly_savedPid : Calmly (savedPid c) s :=
  Calmly.bind ((ends_lift Workspace.savedPid_keeps).mono fun _ _ ht => Same.calm ⟨ht.2, ht.1⟩) fun _ _ _ => calmly_pure _

lemma does_savedPid (h : s.scene.files.hasEntry c.workspace.pidFile = true →
    ∃ bs, s.scene.files.read c.workspace.pidFile = .ok bs) :
    Does (savedPid c) s fun a t => Same s t ∧ a = (c.workspace.keptPid s.scene.files).filter (· != 0) := by
  refine (does_lift (Workspace.savedPid_does h)).bind ?_
  rintro a t ⟨hout, hfiles, rfl⟩
  exact does_pure ⟨⟨hfiles, hout⟩, rfl⟩

lemma does_isRunning (pid : ℤ) : Does (Daemon.isRunning pid) s fun b t =>
    (b = true ↔ s.outside.stateOf pid = .running ∨ s.outside.stateOf pid = .denied) ∧ Quiet s t ∧
      t.scene = s.scene := by
  refine (does_signal pid _).bind ?_
  rintro a t ⟨rfl, rfl⟩
  have hquiet : Quiet s { s with outside := { s.outside with
      asked := s.outside.asked ++ [.signal pid Daemon.probeSignal] } } := quietly_signal pid _
  cases hstate : s.outside.stateOf pid <;> exact ⟨_, rfl, by simp, hquiet, rfl⟩

lemma ends_signal (pid : ℤ) : Ends (Daemon.stop pid) s fun r t =>
    t = { s with outside := { s.outside with asked := s.outside.asked ++ [.signal pid Daemon.stopSignal] } } ∧
      (s.outside.stateOf pid = .broken → r = .error Daemon.systemFault) ∧
      (s.outside.stateOf pid ≠ .broken → ∃ b, r = .ok b) := by
  refine (does_signal pid _).ends_bind ?_
  rintro a t ⟨rfl, rfl⟩
  cases hstate : s.outside.stateOf pid with
  | running => exact ⟨rfl, nofun, fun _ => ⟨true, rfl⟩⟩
  | denied => exact ⟨rfl, nofun, fun _ => ⟨false, rfl⟩⟩
  | broken => exact ⟨rfl, fun _ => rfl, fun h => absurd rfl h⟩
  | missing => exact ⟨rfl, nofun, fun _ => ⟨false, rfl⟩⟩

/-- No answer to the request to stop is a reason to go no further, but an interruption. -/
lemma ends_stopRecording (port : ℤ) : Ends (stopRecording port) s fun r t => Calm s t ∧ ∀ f, r = .error f →
    (Outside.takeAnswer "POST /stop" s.outside.answers).1 = .interrupted := by
  unfold stopRecording
  refine (does_say _).ends_bind fun _ t ht => ?_
  rw [← ht.outside]
  refine (does_outcome (Client.ends_request _ "POST" "/stop")).ends_bind ?_
  rintro r u ⟨hcalm, hfault⟩
  have hu := ht.calm.trans hcalm
  cases r with
  | ok reply => exact Ends.mono (does_say _) fun _ v ⟨_, hr, hv⟩ => ⟨hu.trans hv.calm, fun f hf => nomatch hr ▸ hf⟩
  | error f =>
    dsimp only
    split
    · rename_i hreach
      have hinterrupted := (hfault f rfl).resolve_left (by simpa using hreach)
      exact ends_throw ⟨hu, fun _ _ => hinterrupted.2⟩
    · exact Ends.mono (does_warn _) fun _ v ⟨_, hr, hv⟩ => ⟨hu.trans hv.calm, fun f hf => nomatch hr ▸ hf⟩

/-- What is left to do when the collector has been stopped. -/
def restoreAll (c : Context) : Reaching ℕ := do
  say "[Step 3] Restoring original code..."
  let log ← settle c.log
  let _ ← (c.workspace.restore none none : Acting (List Path))
  let fs ← (Acting.files : Acting Files)
  if fs.hasEntry log.path then
    let size := match fs.read log.path with
      | .ok bs => bs.length
      | .error _ => 4096
    say s!"Snapshots preserved: {log.path.text} ({size} bytes)"
  [divider, "Original code restored. Snapshots preserved for testing.",
    "Run \"io-snapshot test\" to verify your code changes.", divider].forM say
  return 0

lemma stop_eq (port : Option String) : stop c port = (do
    stopRecording (← settle (c.portOf port))
    stopCollector c
    restoreAll c) := rfl

/-! A command line with its settings. -/

def settingsPath (w : Workspace) (line : CommandLine) : Path := line.config.getD (w.project.child configName)

def contextOf (w : Workspace) (host : Host) (time : String) (line : CommandLine) (config : Config) : Context :=
  ⟨w, host, withOutput config line, settingsPath w line, time⟩

lemma ends_carryOut {command : Command} {Q : Except Fault ℕ → Setting → Prop}
    (hok : ∀ config t, Same s t →
      ((Config.forProject env w.project (some (settingsPath w line))).run.run s.scene).1 = .ok config →
      Ends (perform (contextOf w host time line config) command) t Q)
    (herror : ∀ f t, Same s t →
      ((Config.forProject env w.project (some (settingsPath w line))).run.run s.scene).1 = .error f →
      Q (.error f) t) : Ends (carryOut w host env time line command) s Q := by
  have hload : Ends (liftM (Config.forProject env w.project (some (settingsPath w line)))) s fun r t =>
      Same s t ∧
        r = ((Config.forProject env w.project (some (settingsPath w line))).run.run s.scene).1 :=
    ⟨⟨Config.ends_forProject env w.project _ s.scene rfl, rfl⟩, rfl⟩
  refine hload.bind ?_ fun f t ht => herror f t ht.1 ht.2.symm
  rintro config t ⟨hsame, hconfig⟩
  refine (does_setLevel _).ends_bind fun _ u hu => ?_
  exact hok config u (hsame.trans hu) hconfig.symm

/-- The setting in which a command line is carried out. -/
def informed (s : Setting) : Setting := { s with scene := { s.scene with level := .info } }

lemma same_informed (s : Setting) : Same s (informed s) := ⟨rfl, rfl⟩

lemma ends_endWith (f : Fault) : Ends (endWith f) s fun r t => Same s t ∧
    (f.kind.isFinal = false ∨ f.kind = .interrupt → r = .ok 1) := by
  unfold endWith
  split
  · refine (does_say _).ends_bind fun _ t ht => ?_
    exact ends_pure ⟨ht, fun _ => rfl⟩
  · rename_i hinterrupt
    split
    · rename_i hfinal
      refine ends_throw ⟨Same.refl s, ?_⟩
      rintro (hf | hf)
      · rw [hf] at hfinal
        cases hfinal
      · simp [hf] at hinterrupt
    · refine (does_note _).ends_bind fun _ t ht => ?_
      exact ends_pure ⟨ht, fun _ => rfl⟩

lemma ends_run {words : List String} {command : Command} (hparse : parse words = .ok line)
    (hcommand : line.command = some command) {Q : Except Fault ℕ → Setting → Prop}
    (h : Ends (carryOut w host env time line command) (informed s) Q) :
    Ends (run w host env time words) s fun r t => (∃ code, r = .ok (.ok code) ∧ Q (.ok code) t) ∨
      ∃ f u, Q (.error f) u ∧ Same u t ∧
        (f.kind.isFinal = false ∨ f.kind = .interrupt → r = .ok (.ok 1)) := by
  unfold run
  rw [hparse]
  dsimp only
  have hlevel : Does (setLevel .info) s fun _ t => t = informed s := ⟨(), rfl, rfl⟩
  refine hlevel.ends_bind ?_
  rintro _ _ rfl
  rw [hcommand]
  refine (does_outcome h).ends_bind fun r t hr => ?_
  cases r with
  | ok code => exact ends_pure (.inl ⟨code, rfl, hr⟩)
  | error f =>
    refine (ends_endWith f).bind ?_ ?_
    · rintro code u ⟨hsame, hcode⟩
      refine ends_pure (.inr ⟨f, t, hr, hsame, fun hf => ?_⟩)
      cases hcode hf
      rfl
    · rintro e u ⟨hsame, hcode⟩
      exact .inr ⟨f, t, hr, hsame, fun hf => nomatch hcode hf⟩

end CommandLine

end CallSnapshot
