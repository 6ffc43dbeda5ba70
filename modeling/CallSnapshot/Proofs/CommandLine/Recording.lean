import CallSnapshot.Proofs.CommandLine.Beside

/-!
Recording and stopping. Recording keeps the number of the collector that it starts, and starts none
while the process whose number is kept is there; stopping signals that process.
-/

namespace CallSnapshot

open Files Reaching Workspace

namespace Options

/-! What is wrong with an option does not end the whole program. -/

lemma readInteger_fault {v : Value} {f : Fault} (h : readInteger v = .error (.fault f)) :
    f.kind.isFinal = false := by
  have htext : ∀ s, readText s ≠ .error (.fault f) := by
    intro s hs
    unfold readText at hs
    split at hs <;> cases hs
  unfold readInteger at h
  split at h
  case h_3 => cases h; rfl
  case h_6 => cases h; rfl
  case h_9 =>
    split at h
    · exact absurd h (htext _)
    · split at h
      · exact absurd h (htext _)
      · cases h
    · cases h
    · cases h
  all_goals cases h

lemma complain_fault (what rule : String) (v : Value) : (complain what rule v).kind.isFinal = false := by
  unfold complain
  split <;> rfl

lemma port_fault {v : Value} {f : Fault} (h : port v = .error f) : f.kind.isFinal = false := by
  unfold port at h
  split at h
  · rename_i hread
    cases h
    exact readInteger_fault hread
  · cases h
    exact complain_fault _ _ v
  · split at h
    · cases h
      exact complain_fault _ _ v
    · cases h

lemma timeout_fault {v : Value} {f : Fault} (h : timeout v = .error f) : f.kind.isFinal = false := by
  unfold timeout at h
  split at h
  · rename_i hread
    cases h
    exact readInteger_fault hread
  · cases h
    exact complain_fault _ _ v
  · split at h
    · cases h
      exact complain_fault _ _ v
    · cases h

lemma pattern_fault {v : Value} {f : Fault} (h : pattern v = .error f) : f.kind.isFinal = false := by
  unfold pattern at h
  dsimp only at h
  split at h
  · split at h
    · cases h
      rfl
    · cases h
  · cases h
    rfl

end Options

lemma Config.override_fault {env : Environment} {config : Config} {f : Fault}
    (h : config.override env = .error f) : f.kind.isFinal = false := by
  unfold Config.override at h
  cases henv : env.get? portVariable with
  | none =>
    simp only [henv, bind, Except.bind] at h
    split at h <;> cases h
  | some s =>
    simp only [henv, bind, Except.bind] at h
    cases hport : Options.port (.str s) with
    | error e =>
      simp only [hport] at h
      cases h
      exact Options.port_fault hport
    | ok port =>
      simp only [hport] at h
      split at h <;> cases h

lemma Config.forProject_fault {env : Environment} {project : Path} {given : Option Path} {s : Scene} {f : Fault}
    (h : ((Config.forProject env project given).run.run s).1 = .error f) : f.kind.isFinal = false := by
  have hends : Acting.Ends (Config.forProject env project given) s.files fun r _ =>
      ∀ f, r = .error f → f.kind.isFinal = false := by
    refine (Config.does_load _).ends_bind ?_
    rintro c _ rfl
    exact Acting.ends_settle _ fun f hf => Config.override_fault hf
  exact hends s rfl f h

namespace CommandLine

variable {w : Workspace} {c : Context} {s t : Setting} {pid : ℤ}

lemma portOf_fault {given : Option String} {f : Fault} (h : c.portOf given = .error f) :
    f.kind.isFinal = false := by
  cases given with
  | none => cases h
  | some s => exact Options.port_fault h

lemma targetOf_fault {given : Option String} {f : Fault} (h : c.targetOf given = .error f) :
    f.kind.isFinal = false := by
  cases given with
  | none => cases h
  | some s =>
    unfold Context.targetOf at h
    dsimp only at h
    cases hp : Options.pattern (.str s) with
    | ok p =>
      rw [hp] at h
      cases h
    | error e =>
      rw [hp] at h
      cases h
      exact Options.pattern_fault hp

/-- What recording does when no collector is in the way. -/
def recordAnew (c : Context) (port timeout : ℤ) (target : Value) (force : Bool) : Reaching ℕ := do
  let log ← settle c.log
  (log.clear : Acting Unit)
  say "Cleared previous snapshot file for a fresh session."
  say "[Step 1] Injecting recorder into files..."
  if (← instrument c target force).isEmpty then return 1
  startCollector c port timeout log

lemma ends_record {target port timeout : Option String} {force : Bool} {Q : Except Fault ℕ → Setting → Prop}
    (hfault : ∀ f t, Same s t → f.kind.isFinal = false → Q (.error f) t)
    (hrest : ∀ t port timeout target, Same s t → Ends (do
      if ← isOccupied c then return 1
      recordAnew c port timeout target force) t Q) : Ends (record c target port timeout force) s Q := by
  unfold record
  refine (ends_settle _).bind ?_ fun f t ⟨hr, ht⟩ => hfault f t ht (portOf_fault hr.symm)
  rintro port t ⟨-, ht⟩
  have hbegun : ∀ timeout u, Same s u → Ends (do
      let target ← settle (c.targetOf target)
      workflow.forM say
      if ← isOccupied c then return 1
      recordAnew c port timeout target force) u Q := by
    intro timeout u hu
    refine (ends_settle _).bind ?_ fun f v ⟨hr, hv⟩ => hfault f v (hu.trans hv) (targetOf_fault hr.symm)
    rintro target v ⟨-, hv⟩
    refine (does_sayAll workflow).ends_bind fun _ x hx => ?_
    exact hrest x port timeout target ((hu.trans hv).trans hx)
  cases timeout with
  | none => exact hbegun c.config.timeout t ht
  | some text =>
    refine (ends_settle _).bind ?_ fun f u ⟨hr, hu⟩ => hfault f u (ht.trans hu) (Options.timeout_fault hr.symm)
    rintro timeout u ⟨-, hu⟩
    exact hbegun timeout u (ht.trans hu)

/-! While the number of a process is kept. -/

section Pinned

variable (hw : Workspace.Layout c.workspace) (h : Ready c.workspace s.scene.files)
  (hp : Pinned c.workspace s.scene.files (numberText pid)) (hpid : IsPid pid)

include hw h hp hpid

lemma does_savedPid_pinned : Does (savedPid c) s fun saved t => Same s t ∧ saved = some pid := by
  refine (does_savedPid fun _ => ⟨_, read_pinned hw h hp⟩).mono fun saved t ⟨ht, hsaved⟩ => ⟨ht, ?_⟩
  rw [hsaved, keptPid_pinned hw h hpid hp]
  simp [Option.filter, hpid.1.ne']

lemma does_isOccupied (hstate : s.outside.stateOf pid = .running ∨ s.outside.stateOf pid = .denied) :
    Does (isOccupied c) s fun b t => b = true ∧ t.scene.files = s.scene.files ∧ Quiet s t := by
  unfold isOccupied
  refine (does_say _).bind fun _ t ht => ?_
  refine (does_savedPid_pinned hw (ht.files ▸ h) (ht.files ▸ hp) hpid).bind ?_
  rintro _ u ⟨hu, rfl⟩
  have hsame := ht.trans hu
  refine (does_isRunning pid).bind fun b v ⟨hb, hquiet, hscene⟩ => ?_
  rw [hsame.outside] at hb
  obtain rfl := hb.mpr hstate
  have hv : v.scene.files = s.scene.files := by rw [hscene, hsame.files]
  refine (does_say _).bind fun _ x₁ h₁ => ?_
  refine (does_warn _).bind fun _ x₂ h₂ => ?_
  refine (does_warn _).bind fun _ x₃ h₃ => ?_
  refine (does_warn _).bind fun _ x₄ h₄ => ?_
  refine (does_say _).bind fun _ x₅ h₅ => ?_
  have htold := (((h₁.trans h₂).trans h₃).trans h₄).trans h₅
  exact does_pure ⟨rfl, htold.files.trans hv, hsame.calm.quiet.trans (hquiet.trans htold.calm.quiet)⟩

lemma record_refused (hstate : s.outside.stateOf pid = .running ∨ s.outside.stateOf pid = .denied)
    (target port timeout : Option String) (force : Bool) :
    Ends (record c target port timeout force) s fun r t => t.scene.files = s.scene.files ∧ Quiet s t ∧
      (r = .ok 1 ∨ ∃ f, r = .error f ∧ f.kind.isFinal = false) := by
  refine ends_record (fun f t ht hf => ⟨ht.files, ht.calm.quiet, .inr ⟨f, rfl, hf⟩⟩) ?_
  intro t port timeout target ht
  refine (does_isOccupied hw (ht.files ▸ h) (ht.files ▸ hp) hpid (ht.outside ▸ hstate)).ends_bind ?_
  rintro _ u ⟨rfl, hfiles, hquiet⟩
  exact ends_pure ⟨hfiles.trans ht.files, ht.calm.quiet.trans hquiet, .inl rfl⟩

def Signalled (pid : ℤ) (t : Setting) : Prop := .signal pid Daemon.stopSignal ∈ t.outside.asked

lemma stopCollector_signals : Ends (stopCollector c) s fun _ t => Signalled pid t := by
  unfold stopCollector
  refine (does_say _).ends_bind fun _ t ht => ?_
  refine (does_savedPid_pinned hw (ht.files ▸ h) (ht.files ▸ hp) hpid).ends_bind ?_
  rintro _ u ⟨-, rfl⟩
  have hmem : ∀ v : Setting, v = { u with outside := { u.outside with
      asked := u.outside.asked ++ [.signal pid Daemon.stopSignal] } } → Signalled pid v := by
    rintro v rfl
    exact List.mem_append_right _ (List.mem_singleton_self _)
  refine (ends_signal pid).bind (fun b v hv => ?_) fun f v hv => hmem v hv.1
  have hquiet : Quietly (do
      if b then say s!"Collector (PID: {pid}) stopped."
      else warn "Collector not running, cleaning up PID file."
      (c.workspace.removePid : Acting Unit) : Reaching Unit) v := by
    split
    · exact (quietly_note _).bind fun _ _ => quietly_lift _
    · exact (quietly_note _).bind fun _ _ => quietly_lift _
  exact Ends.mono hquiet fun _ x hx => hx.mem_asked (hmem v hv.1)

/-- Stopping asks that process to stop, or it goes no further than the request to the collector. -/
lemma stop_signals (given : Option String) : Ends (stop c given) s fun _ t =>
    (t.scene.files = s.scene.files ∨ Signalled pid t) ∧
      ((∃ port, c.portOf given = .ok port) →
        (Outside.takeAnswer "POST /stop" s.outside.answers).1 ≠ .interrupted → Signalled pid t) := by
  rw [stop_eq]
  refine (ends_settle _).bind ?_ fun f t ⟨hr, ht⟩ => ⟨.inl ht.files, fun ⟨port, hport⟩ => nomatch hport ▸ hr⟩
  rintro port t ⟨-, ht⟩
  refine (ends_stopRecording port).bind ?_ ?_
  · rintro _ u ⟨hu, -⟩
    have hcalm := ht.calm.trans hu
    have hstop := stopCollector_signals hw (hcalm.files ▸ h) (hcalm.files ▸ hp) hpid
    refine Ends.mono (Ends.bind hstop (R := fun _ x => Signalled pid x) (fun _ v hv => ?_) fun _ _ => id)
      fun _ x hx => ⟨.inr hx, fun _ _ => hx⟩
    exact Ends.mono restoreAll_quietly fun _ x hx => hx.mem_asked hv
  · rintro f u ⟨hu, hinterrupted⟩
    rw [ht.outside] at hinterrupted
    exact ⟨.inl (hu.files.trans ht.files), fun _ hanswer => absurd (hinterrupted f rfl) hanswer⟩

end Pinned

/-! While none is in the way. -/

lemma does_launch (o : Daemon.Order) : Does (Daemon.launch o) s fun pid t => pid = s.outside.launched ∧
    t.outside.launched = s.outside.launched ∧ starts t.outside = starts s.outside + 1 ∧
    t.scene.files = s.scene.files := ⟨_, rfl, rfl, rfl, List.countP_append, rfl⟩

structure Starts (w : Workspace) (s t : Setting) : Prop where
  launched : t.outside.launched = s.outside.launched
  starts : starts t.outside = starts s.outside + 1
  ready : Ready w t.scene.files
  pinned : Pinned w t.scene.files (numberText s.outside.launched)

lemma Starts.calm {u : Setting} (h : Starts w s t) (h' : Calm t u) : Starts w s u :=
  ⟨h'.launched.trans h.launched, by rw [h'.quiet.starts, h.starts], h'.files ▸ h.ready, h'.files ▸ h.pinned⟩

def Tracked (w : Workspace) (s t : Setting) : Prop := Quiet s t ∨ Starts w s t

lemma Tracked.of_quiet {u : Setting} (h : Quiet s t) (h' : Tracked w t u) : Tracked w s u := by
  rcases h' with h' | h'
  · exact .inl (h.trans h')
  · exact .inr ⟨h'.launched.trans h.launched, by rw [h'.starts, h.starts], h'.ready, h.launched ▸ h'.pinned⟩

lemma Sparingly.tracked {α β : Type} {r : Reaching α} {f : α → Reaching β} (hr : Sparingly w r s)
    (h : Ready w s.scene.files)
    (hf : ∀ a t, Ready w t.scene.files → Ends (f a) t fun _ u => Tracked w t u) :
    Ends (r >>= f) s fun _ u => Tracked w s u := by
  refine Ends.bind hr (fun a t ht => ?_) fun _ t ht => .inl ht.1
  exact (hf a t (ht.2 h).ready).mono fun _ _ => .of_quiet ht.1

lemma startCollector_starts (hw : Workspace.Layout c.workspace) (h : Ready c.workspace s.scene.files)
    (port timeout : ℤ) (log : Log) :
    Ends (startCollector c port timeout log) s fun _ t => Starts c.workspace s t := by
  unfold startCollector
  refine (does_say _).ends_bind fun _ t ht => ?_
  refine (does_launch _).ends_bind ?_
  rintro _ u ⟨rfl, hlaunched, hstarts, hfiles⟩
  rw [ht.files] at hfiles
  rw [ht.outside] at hlaunched hstarts
  refine (does_lift (savePid_pins hw (hfiles ▸ h) t.outside.launched)).ends_bind ?_
  rintro _ v ⟨hout, hready, hpinned⟩
  rw [ht.outside] at hpinned
  have hv : Starts c.workspace s v := ⟨hout ▸ hlaunched, hout ▸ hstarts, hready, hpinned⟩
  have hfail : ∀ (n : Note) x, Starts c.workspace s x → Ends (do
      Reaching.note n
      return 1 : Reaching ℕ) x fun _ y => Starts c.workspace s y := fun n x hx =>
    (does_note n).ends_bind fun _ y hy => ends_pure (hx.calm hy.calm)
  refine Ends.bind (Client.calmly_waitUntilReady _ _ _) (fun b x hx => ?_) fun _ x hx => hv.calm hx
  have hx' := hv.calm hx
  split
  · exact hfail _ x hx'
  · refine (does_say _).ends_bind fun _ x₁ h₁ => ?_
    refine (does_say _).ends_bind fun _ x₂ h₂ => ?_
    have hx₂ := (hx'.calm h₁.calm).calm h₂.calm
    refine (does_outcome (Client.calmly_request _ "POST" "/record")).ends_bind fun reply y hy => ?_
    have hy' := hx₂.calm hy
    match reply with
    | .error f =>
      dsimp only
      split
      · exact hy'
      · exact hfail _ y hy'
    | .ok _ => exact (does_sayAll _).ends_bind fun _ z hz => ends_pure (hy'.calm hz.calm)

lemma isOccupied_ready (h : Ready c.workspace s.scene.files) :
    Ends (isOccupied c) s fun _ t => Quiet s t ∧ Ready c.workspace t.scene.files := by
  unfold isOccupied
  refine (does_say _).ends_bind fun _ t ht => ?_
  refine Ends.bind (Q := fun _ u => Quiet s u ∧ Ready c.workspace u.scene.files)
    (calmly_savedPid.mono fun _ u hu => ?_) ?_ fun _ _ => id
  · have hcalm := ht.calm.trans hu
    exact ⟨hcalm.quiet, hcalm.files ▸ h⟩
  rintro saved u ⟨hquiet, hready⟩
  cases saved with
  | none => exact ends_pure ⟨hquiet, hready⟩
  | some pid =>
    refine (does_isRunning pid).ends_bind ?_
    rintro b v ⟨-, hv, hscene⟩
    rw [← hscene] at hready
    have hquiet := hquiet.trans hv
    split
    · have htold : Sparingly c.workspace (do
          say divider
          warn "io-snapshot is already running!"
          warn s!"A collector is active (PID: {pid})"
          warn "Please run \"io-snapshot stop\" first before starting a new session."
          say divider
          return true) v :=
        (sparingly_say _).bind fun _ _ => (sparingly_warn _).bind fun _ _ => (sparingly_warn _).bind
          fun _ _ => (sparingly_warn _).bind fun _ _ => (sparingly_say _).bind fun _ _ => sparingly_pure _
      exact Ends.mono htold fun _ x hx => ⟨hquiet.trans hx.1, (hx.2 hready).ready⟩
    · refine (ends_lift (removePid_ready hready)).bind ?_ ?_
      · rintro _ x ⟨hout, hx⟩
        exact ends_pure ⟨hquiet.trans (.of_eq hout), hx⟩
      · rintro f x ⟨hout, hx⟩
        exact ⟨hquiet.trans (.of_eq hout), hx⟩

lemma recordAnew_tracked (hw : Workspace.Layout c.workspace) (h : Ready c.workspace s.scene.files)
    (hlog : LogAside c) (port timeout : ℤ) (target : Value) (force : Bool) :
    Ends (recordAnew c port timeout target force) s fun _ t => Tracked c.workspace s t := by
  unfold recordAnew
  refine (ends_settle c.log).bind ?_ fun _ t ht => .inl ht.2.calm.quiet
  rintro log t ⟨hclog, ht⟩
  have hclear : Sparingly c.workspace (liftM log.clear) t := sparingly_lift fun hr => by
    have haside := hlog log hclog.symm
    rw [← startOf_absolute (log_absolute hw hclog.symm) t.scene.files] at haside
    exact put_sparing hr haside []
  refine Ends.mono (hclear.tracked (ht.files ▸ h) fun _ u hu => ?_) fun _ _ => .of_quiet ht.calm.quiet
  refine (sparingly_say _).tracked hu fun _ v hv => ?_
  refine (sparingly_say _).tracked hv fun _ x hx => ?_
  refine (instrument_sparingly hw target force).tracked hx fun results y hy => ?_
  split
  · exact ends_pure (.inl (Quiet.refl y))
  · exact (startCollector_starts hw hy port timeout log).mono fun _ _ => .inr

/-- Whatever comes of it, recording starts no process or keeps the number of the one that it starts. -/
lemma record_tracked (hw : Workspace.Layout c.workspace) (h : Ready c.workspace s.scene.files)
    (hlog : LogAside c) (target port timeout : Option String) (force : Bool) :
    Ends (record c target port timeout force) s fun _ t => Tracked c.workspace s t := by
  refine ends_record (fun f t ht _ => .inl ht.calm.quiet) ?_
  intro t port timeout target ht
  refine (isOccupied_ready (ht.files ▸ h)).bind ?_ fun _ u hu => .inl (ht.calm.quiet.trans hu.1)
  rintro b u ⟨hu, hready⟩
  have hquiet := ht.calm.quiet.trans hu
  split
  · exact ends_pure (.inl hquiet)
  · exact (recordAnew_tracked hw hready hlog port timeout target force).mono fun _ _ => .of_quiet hquiet

end CommandLine

end CallSnapshot
