import CallSnapshot.Proofs.CommandLine.Recording
import CallSnapshot.Proofs.CommandLine.Stop

/-!
One collector at a time. Commands are given one after another, and the collectors that they start keep
their number, take calls and leave in between.
-/

namespace CallSnapshot.CommandLine

open Files Reaching Workspace

/-! Command lines. -/

/-- A command line as it is given, and what it finds. -/
structure Call where
  host : Host
  env : Environment
  time : String
  words : List String
  setting : Setting

variable {w : Workspace} {k : Call} {p q : ℤ}

namespace Call

def ending (w : Workspace) (k : Call) : Except Fault (Except Stop ℕ) × Setting :=
  (run w k.host k.env k.time k.words).run.run k.setting

/-- What the words say, with the settings as they are read. -/
structure Reads (w : Workspace) (k : Call) (line : CommandLine) (command : Command) (config : Config) : Prop where
  words : parse k.words = .ok line
  command : line.command = some command
  settings : ((Config.forProject k.env w.project (some (settingsPath w line))).run.run
    (informed k.setting).scene).1 = .ok config

lemma ends {P : Setting → Prop} (hsame : ∀ t u, P t → Same t u → P u) (hstart : P k.setting)
    (h : ∀ line command config t, k.Reads w line command config → Same k.setting t →
      Ends (perform (contextOf w k.host k.time line config) command) t fun _ u => P u) :
    P (k.ending w).2 := by
  cases hparse : parse k.words with
  | error stop =>
    unfold ending run
    rw [hparse]
    exact hstart
  | ok line =>
    cases hcommand : line.command with
    | none =>
      unfold ending run
      rw [hparse]
      dsimp only
      rw [hcommand]
      exact hsame _ _ hstart ⟨rfl, rfl⟩
    | some command =>
      have hcarry : Ends (carryOut w k.host k.env k.time line command) (informed k.setting) fun _ u => P u :=
        ends_carryOut
          (fun config t ht hconfig => h line command config t ⟨hparse, hcommand, hconfig⟩ ((same_informed _).trans ht))
          fun f t ht _ => hsame _ _ hstart ((same_informed _).trans ht)
      rcases ends_run hparse hcommand hcarry with ⟨code, -, hP⟩ | ⟨f, u, hP, hu, -⟩
      · exact hP
      · exact hsame u _ hP hu

end Call

/-! What goes on in a project. -/

/-- The files, the collectors that run, and those among them that were asked to stop. -/
structure Sessions where
  files : Files
  running : Set ℤ
  told : Set ℤ

namespace Sessions

variable {a b : Sessions}

/-- It runs, and was not asked to stop. -/
structure Live (a : Sessions) (p : ℤ) : Prop where
  running : p ∈ a.running
  untold : p ∉ a.told

/-- The command finds these files, from whatever directory it is given, and these processes. -/
structure Fits (a : Sessions) (k : Call) : Prop where
  files : k.setting.scene.files = { a.files with current := k.setting.scene.files.current }
  current : ∀ n ∈ k.setting.scene.files.current, n ≠ ".."
  asked : k.setting.outside.asked = []
  running : ∀ p ∈ a.running, k.setting.outside.stateOf p = .running ∨ k.setting.outside.stateOf p = .denied
  fresh : k.setting.outside.launched ∉ a.running
  pid : IsPid k.setting.outside.launched

/-- The session is not cleared while a collector runs that was not asked to stop, a recording finds room
for its number, and the log and the file of the settings lie elsewhere. -/
structure Allowed (w : Workspace) (a : Sessions) (k : Call) : Prop where
  test : ∀ line target summary config, ¬ k.Reads w line (.test target summary) config
  clean : ∀ line config p, k.Reads w line (.clean none) config → ¬ a.Live p
  record : ∀ line target port timeout force config,
    k.Reads w line (.record target port timeout force) config → Ready w k.setting.scene.files
  log : ∀ line command config, k.Reads w line command config → LogAside (contextOf w k.host k.time line config)
  config : ∀ line display config, k.Reads w line (.config true display) config →
    Aside w (k.setting.scene.files.startOf (settingsPath w line)) (settingsPath w line)

/-- A process that is started runs; one that is asked to stop may run on for a while. -/
def after (w : Workspace) (a : Sessions) (k : Call) : Sessions where
  files := (k.ending w).2.scene.files
  running := a.running ∪ {p | p = k.setting.outside.launched ∧ 0 < starts (k.ending w).2.outside}
  told := {p | p ∈ a.running ∧ (p ∈ a.told ∨ Signalled p (k.ending w).2)}

/-- One thing that goes on. A collector that was asked to stop is done with the number before another
one begins. -/
inductive Step (w : Workspace) : Sessions → Sessions → Prop
  | call {a : Sessions} (k : Call) (hfits : a.Fits k) (hallowed : a.Allowed w k) : Step w a (a.after w k)
  /-- A collector keeps its own number. -/
  | register {a : Sessions} (p : ℤ) (s : Scene) (hs : s.files = a.files) (hp : p ∈ a.running)
      (halone : ∀ q, a.Live q → q = p) : Step w a { a with files := ((w.savePid p).run.run s).2.files }
  /-- A collector adds a line to its log. -/
  | take {a : Sessions} (log : Log) (line : String) (s : Scene) (hs : s.files = a.files)
      (hlog : ∀ q, a.Live q → Aside w (a.files.startOf log.path) log.path) :
      Step w a { a with files := ((log.appendLine line).run.run s).2.files }
  /-- A collector ends, and removes the number that is kept. -/
  | leave {a : Sessions} (p : ℤ) (s : Scene) (hs : s.files = a.files) (hp : p ∈ a.running)
      (halone : ∀ q, a.Live q → q = p) :
      Step w a ⟨((w.removePid).run.run s).2.files, a.running \ {p}, a.told \ {p}⟩
  /-- A collector is ended otherwise. -/
  | die {a : Sessions} (p : ℤ) : Step w a ⟨a.files, a.running \ {p}, a.told \ {p}⟩
  /-- Other files change. -/
  | edit {a : Sessions} (gs : Files) (h : ∀ q, a.Live q → Spared w a.files gs) : Step w a { a with files := gs }

/-- The number is kept, and there is no other collector. -/
structure Keeps (w : Workspace) (a : Sessions) (p : ℤ) : Prop where
  pid : IsPid p
  ready : Ready w a.files
  pinned : Pinned w a.files (numberText p)
  alone : ∀ q, a.Live q → q = p

lemma live_files {gs : Files} : Live { a with files := gs } p ↔ a.Live p :=
  ⟨fun h => ⟨h.running, h.untold⟩, fun h => ⟨h.running, h.untold⟩⟩

lemma Keeps.found_ready (h : Keeps w a p) (hfits : a.Fits k) : Ready w k.setting.scene.files := by
  rw [hfits.files]
  exact h.ready.moved hfits.current

lemma Keeps.found_pinned (h : Keeps w a p) (hfits : a.Fits k) :
    Pinned w k.setting.scene.files (numberText p) := by
  rw [hfits.files]
  exact h.pinned.moved

lemma Keeps.files {gs : Files} (h : Keeps w a p) (hready : Ready w gs) (hpinned : Pinned w gs (numberText p)) :
    Keeps w { a with files := gs } p := ⟨h.pid, hready, hpinned, fun q hq => h.alone q (live_files.mp hq)⟩

lemma Keeps.spared {gs : Files} (h : Keeps w a p) (hg : Spared w a.files gs) : Keeps w { a with files := gs } p :=
  h.files hg.ready (hg.pinned _ h.pinned)

section Calls

variable (hw : Workspace.Layout w)

include hw

/-- Beside a collector whose number is kept, a command starts no other, and the number stays or the
collector is asked to stop. -/
lemma call_keeps (hfits : a.Fits k) (hallowed : a.Allowed w k) (hp : a.Live p) (h : Keeps w a p) :
    Quiet k.setting (k.ending w).2 ∧ (Signalled p (k.ending w).2 ∨
      (Ready w (k.ending w).2.scene.files ∧ Pinned w (k.ending w).2.scene.files (numberText p))) := by
  have hready := h.found_ready hfits
  have hpinned := h.found_pinned hfits
  let P : Setting → Prop := fun t =>
    Quiet k.setting t ∧ (Signalled p t ∨ (Ready w t.scene.files ∧ Pinned w t.scene.files (numberText p)))
  have hP : ∀ t u, P t → Same t u → P u := by
    rintro t u ⟨hquiet, hkept⟩ htu
    refine ⟨hquiet.trans htu.calm.quiet, ?_⟩
    rw [Signalled, htu.outside, htu.files]
    exact hkept
  refine Call.ends (P := P) hP ⟨Quiet.refl _, .inr ⟨hready, hpinned⟩⟩ ?_
  intro line command config t hreads ht
  have hready' : Ready w t.scene.files := ht.files ▸ hready
  have hpinned' : Pinned w t.scene.files (numberText p) := ht.files ▸ hpinned
  have hspared : ∀ r : Reaching ℕ, Sparingly w r t → Ends r t fun _ u => P u := by
    refine fun r hr => Ends.mono hr fun _ u hu => ⟨ht.calm.quiet.trans hu.1, .inr ?_⟩
    exact ⟨(hu.2 hready').ready, (hu.2 hready').pinned _ hpinned'⟩
  cases command with
  | inject target force => exact hspared _ (inject_sparingly hw target force)
  | record target port timeout force =>
    refine (record_refused hw hready' hpinned' h.pid ?_ target port timeout force).mono ?_
    · rw [ht.outside]
      exact hfits.running p hp.running
    · rintro _ u ⟨hfiles, hquiet, -⟩
      exact ⟨ht.calm.quiet.trans hquiet, .inr (hfiles ▸ ⟨hready', hpinned'⟩)⟩
  | stop port =>
    have hstop := stop_signals (c := contextOf w k.host k.time line config) hw hready' hpinned' h.pid port
    change Ends (stop (contextOf w k.host k.time line config) port) t fun _ u => P u
    refine ⟨ht.calm.quiet.trans (stop_quietly port), ?_⟩
    rcases hstop.1 with hfiles | hsignalled
    · exact .inr (by rw [hfiles]; exact ⟨hready', hpinned'⟩)
    · exact .inl hsignalled
  | test target summary => exact absurd hreads (hallowed.test line target summary config)
  | clean target =>
    cases target with
    | none => exact absurd hp (hallowed.clean line config p hreads)
    | some pattern => exact hspared _ (clean_sparingly hw (hallowed.log line _ config hreads))
  | status port => exact hspared _ (status_sparingly port)
  | config create display =>
    refine hspared _ (configure_sparingly ?_)
    rintro rfl
    rw [startOf, ht.files]
    exact hallowed.config line display config hreads

lemma call_tracked (hallowed : a.Allowed w k) : Tracked w k.setting (k.ending w).2 := by
  have hP : ∀ t u, Tracked w k.setting t → Same t u → Tracked w k.setting u := by
    rintro t u (hquiet | hstarts) htu
    · exact .inl (hquiet.trans htu.calm.quiet)
    · exact .inr (hstarts.calm htu.calm)
  refine Call.ends hP (.inl (Quiet.refl _)) ?_
  intro line command config t hreads ht
  have hquiet : ∀ r : Reaching ℕ, Quietly r t → Ends r t fun _ u => Tracked w k.setting u := fun r hr =>
    Ends.mono hr fun _ u hu => .inl (ht.calm.quiet.trans hu)
  have hspared : ∀ r : Reaching ℕ, Sparingly w r t → Ends r t fun _ u => Tracked w k.setting u := fun r hr =>
    hquiet r (Ends.mono hr fun _ _ hu => hu.1)
  cases command with
  | inject target force => exact hspared _ (inject_sparingly hw target force)
  | record target port timeout force =>
    have hready := hallowed.record line target port timeout force config hreads
    refine (record_tracked hw (ht.files ▸ hready) (hallowed.log line _ config hreads)
      target port timeout force).mono fun _ _ => .of_quiet ht.calm.quiet
  | stop port => exact hquiet _ (stop_quietly port)
  | test target summary => exact absurd hreads (hallowed.test line target summary config)
  | clean target => exact hquiet _ (clean_quietly target)
  | status port => exact hspared _ (status_sparingly port)
  | config create display =>
    refine hspared _ (configure_sparingly ?_)
    rintro rfl
    rw [startOf, ht.files]
    exact hallowed.config line display config hreads

lemma step_keeps (h : ∀ p, a.Live p → Keeps w a p) (hs : Step w a b) : ∀ p, b.Live p → Keeps w b p := by
  intro p hp
  cases hs with
  | call k hfits hallowed =>
    by_cases hlive : ∃ q, a.Live q
    · obtain ⟨q, hq⟩ := hlive
      obtain ⟨hquiet, hkept⟩ := call_keeps hw hfits hallowed hq (h q hq)
      have hzero : starts (k.ending w).2.outside = 0 := by
        rw [hquiet.starts, starts, hfits.asked, List.countP_nil]
      have hold : ∀ r, (a.after w k).Live r → r = q ∧ ¬ Signalled r (k.ending w).2 := by
        rintro r ⟨hr | ⟨-, hpos⟩, huntold⟩
        · have hr' : r ∉ a.told := fun hr' => huntold ⟨hr, .inl hr'⟩
          exact ⟨(h q hq).alone r ⟨hr, hr'⟩, fun hr' => huntold ⟨hr, .inr hr'⟩⟩
        · omega
      obtain ⟨rfl, hnot⟩ := hold p hp
      obtain ⟨hready, hpinned⟩ := hkept.resolve_left hnot
      exact ⟨(h p hq).pid, hready, hpinned, fun r hr => (hold r hr).1⟩
    · have hnew : ∀ r, (a.after w k).Live r →
          r = k.setting.outside.launched ∧ 0 < starts (k.ending w).2.outside := by
        rintro r ⟨hr | hr, huntold⟩
        · exact absurd ⟨r, hr, fun hr' => huntold ⟨hr, .inl hr'⟩⟩ hlive
        · exact hr
      obtain ⟨rfl, hpos⟩ := hnew p hp
      rcases call_tracked hw hallowed with hquiet | hstarts
      · rw [hquiet.starts, starts, hfits.asked, List.countP_nil] at hpos
        omega
      · exact ⟨hfits.pid, hstarts.ready, hstarts.pinned, fun r hr => (hnew r hr).1⟩
  | register q s hs hq halone =>
    have hkept := h p (live_files.mp hp)
    obtain rfl := halone p (live_files.mp hp)
    obtain ⟨-, -, hready, hpinned⟩ := savePid_pins hw hkept.ready p s hs
    exact hkept.files hready hpinned
  | take log line s hs hlog =>
    have hlive := live_files.mp hp
    exact (h p hlive).spared (appendLine_sparing (h p hlive).ready (hlog p hlive) line s hs)
  | leave q s hs hq halone =>
    obtain ⟨⟨hrunning, hne⟩, huntold⟩ := hp
    exact absurd (halone p ⟨hrunning, fun htold => huntold ⟨htold, hne⟩⟩) hne
  | die q =>
    have hlive : ∀ r, Live ⟨a.files, a.running \ {q}, a.told \ {q}⟩ r → a.Live r := fun r hr =>
      ⟨hr.running.1, fun htold => hr.untold ⟨htold, hr.running.2⟩⟩
    have hkept := h p (hlive p hp)
    exact ⟨hkept.pid, hkept.ready, hkept.pinned, fun r hr => hkept.alone r (hlive r hr)⟩
  | edit gs hspared =>
    have hlive := live_files.mp hp
    exact (h p hlive).spared (hspared p hlive)

end Calls

variable {start : Files}

lemma reached_keeps (hw : Workspace.Layout w) (h : Relation.ReflTransGen (Step w) ⟨start, ∅, ∅⟩ a) :
    ∀ p, a.Live p → Keeps w a p := by
  induction h with
  | refl => exact fun p hp => absurd hp.running (Set.notMem_empty p)
  | tail _ hs ih => exact step_keeps hw ih hs

/-- A recording ends with one, changes no file and starts no process. -/
structure Refuses (w : Workspace) (k : Call) : Prop where
  code : (k.ending w).1 = .ok (.ok 1)
  files : (k.ending w).2.scene.files = k.setting.scene.files
  starts : starts (k.ending w).2.outside = 0

lemma Keeps.refuses (hw : Workspace.Layout w) (h : Keeps w a p) (hp : a.Live p) (hfits : a.Fits k)
    {line : CommandLine} {target port timeout : Option String} {force : Bool} (hparse : parse k.words = .ok line)
    (hcommand : line.command = some (.record target port timeout force)) : Refuses w k := by
  have hready := h.found_ready hfits
  have hpinned := h.found_pinned hfits
  have hcarry : Ends (carryOut w k.host k.env k.time line (.record target port timeout force))
      (informed k.setting) fun r t => t.scene.files = k.setting.scene.files ∧ Quiet k.setting t ∧
        (r = .ok 1 ∨ ∃ f, r = .error f ∧ f.kind.isFinal = false) := by
    refine ends_carryOut (fun config t ht _ => ?_) fun f t ht hf => ?_
    · have ht := (same_informed k.setting).trans ht
      refine (record_refused (c := contextOf w k.host k.time line config) hw (ht.files ▸ hready)
        (ht.files ▸ hpinned) h.pid ?_ target port timeout force).mono ?_
      · rw [ht.outside]
        exact hfits.running p hp.running
      · rintro r u ⟨hfiles, hquiet, hr⟩
        exact ⟨hfiles.trans ht.files, ht.calm.quiet.trans hquiet, hr⟩
    · have ht := (same_informed k.setting).trans ht
      exact ⟨ht.files, ht.calm.quiet, .inr ⟨f, rfl, Config.forProject_fault hf⟩⟩
  have hzero : ∀ t, Quiet k.setting t → Reaching.starts t.outside = 0 := fun t ht => by
    rw [ht.starts, Reaching.starts, hfits.asked, List.countP_nil]
  rcases ends_run hparse hcommand hcarry with ⟨code, hcode, hfiles, hquiet, hr⟩ | ⟨f, u, hu, hsame, hone⟩
  · obtain ⟨⟨⟩⟩ | ⟨f, ⟨⟩, -⟩ := hr
    exact ⟨hcode, hfiles, hzero _ hquiet⟩
  · obtain ⟨hfiles, hquiet, ⟨⟨⟩⟩ | ⟨f, ⟨⟩, hf⟩⟩ := hu
    exact ⟨hone (.inl hf), hsame.files.trans hfiles, hzero _ (hquiet.trans hsame.calm.quiet)⟩

/-- A command to stop whose settings can be read, with the port in order, that is not interrupted. -/
structure Stops (w : Workspace) (k : Call) : Prop where
  reads : ∃ line given config, k.Reads w line (.stop given) config ∧
    ∃ port, (contextOf w k.host k.time line config).portOf given = .ok port
  answer : (Outside.takeAnswer "POST /stop" k.setting.outside.answers).1 ≠ .interrupted

lemma Keeps.signals (hw : Workspace.Layout w) (h : Keeps w a p) (hfits : a.Fits k) (hstop : Stops w k) :
    Signalled p (k.ending w).2 := by
  obtain ⟨⟨line, given, config, hreads, hport⟩, hanswer⟩ := hstop
  have hready := h.found_ready hfits
  have hpinned := h.found_pinned hfits
  have hcarry : Ends (carryOut w k.host k.env k.time line (.stop given)) (informed k.setting)
      fun _ t => Signalled p t := by
    refine ends_carryOut (fun config' t ht hconfig => ?_) fun f t _ hf => ?_
    · rw [hreads.settings] at hconfig
      cases hconfig
      have ht := (same_informed k.setting).trans ht
      refine (stop_signals (c := contextOf w k.host k.time line config) hw (ht.files ▸ hready)
        (ht.files ▸ hpinned) h.pid given).mono fun _ u hu => hu.2 hport ?_
      rw [ht.outside]
      exact hanswer
    · rw [hreads.settings] at hf
      cases hf
  rcases ends_run hreads.words hreads.command hcarry with ⟨code, -, hsignalled⟩ | ⟨f, u, hsignalled, hsame, -⟩
  · exact hsignalled
  · change _ ∈ _
    rw [show (k.ending w).2.outside = u.outside from hsame.outside]
    exact hsignalled

/-- However commands and collectors take turns: while a collector runs that was not asked to stop, it is
the only one, its number is the one that is kept, a further recording is refused, and to stop is to
signal it. -/
theorem single_session (hw : Workspace.Layout w) (h : Relation.ReflTransGen (Step w) ⟨start, ∅, ∅⟩ a)
    (hp : a.Live p) : (∀ q, a.Live q → q = p) ∧ w.keptPid a.files = some p ∧
      ∀ k, a.Fits k →
        (∀ line target port timeout force, parse k.words = .ok line →
          line.command = some (.record target port timeout force) → Refuses w k) ∧
        (Stops w k → Signalled p (k.ending w).2) := by
  have hkeeps := reached_keeps hw h p hp
  refine ⟨hkeeps.alone, keptPid_pinned hw hkeeps.ready hkeeps.pid hkeeps.pinned, fun k hfits => ⟨?_, ?_⟩⟩
  · intro line target port timeout force hparse hcommand
    exact hkeeps.refuses hw hp hfits hparse hcommand
  · exact hkeeps.signals hw hfits

/-! A recording in a small project. -/

def smallReplies : List (String × List HttpAnswer) :=
  [("GET /status", [.reply 200 "\x7b\x7d"]), ("POST /record", [.reply 200 "\x7b\x7d"])]

/-- A command line in a small project, with the processes that run there and the number of the next. -/
def smallCall (words : List String) (fs : Files) (running : List ℤ) (next : ℤ) : Call :=
  ⟨smallHost, [], "", words, ⟨fs, [], .info⟩, running.map fun p => (p, .running), smallReplies, Binary64.zero, [], next⟩

/-- The project after a recording. -/
def smallBusy : Sessions := after smallWorkspace ⟨smallFiles, ∅, ∅⟩ (smallCall ["record"] smallFiles [] 4242)

lemma small_layout : Workspace.Layout smallWorkspace := by
  have hproper : ∀ m ∈ ["p", "t"], Proper m := by
    simp only [List.forall_mem_cons]
    exact ⟨⟨⟨by decide, by decide, by decide⟩, by decide⟩, ⟨⟨by decide, by decide, by decide⟩, by decide⟩, nofun⟩
  refine ⟨⟨rfl, fun n hn => hproper n ?_⟩, ⟨rfl, fun n hn => hproper n ?_⟩, by decide +kernel, by decide +kernel⟩
  · exact List.mem_cons_of_mem _ hn
  · exact (List.mem_singleton.mp hn) ▸ List.mem_cons_self

lemma small_ready : Ready smallWorkspace smallFiles := by
  refine ⟨fun q t ht => ?_, nofun, fun r hr => ?_, .inl (by decide +kernel), by decide +kernel⟩
  · by_cases hq : q = []
    · rw [hq] at ht
      cases ht
    · rcases small_places hq (by rw [ht]; rfl) with rfl | rfl | rfl <;> cases ht
  · rcases List.prefix_concat_iff.mp (show r <+: [] ++ ["t"] from hr) with rfl | hr
    · rfl
    · rw [List.prefix_nil.mp hr]
      rfl

lemma small_recording : parse ["record"] = .ok ⟨none, false, false, some (.record none none none false)⟩ := by
  cbv

lemma small_stopping : parse ["stop"] = .ok smallStop := by
  cbv

lemma small_reads {line : CommandLine} {command : Command} {config : Config}
    (h : (smallCall ["record"] smallFiles [] 4242).Reads smallWorkspace line command config) :
    line = ⟨none, false, false, some (.record none none none false)⟩ ∧ config = Config.standard := by
  have hline := small_recording.symm.trans h.words
  cases hline
  exact ⟨rfl, Except.ok.inj (h.settings.symm.trans (Config.forProject_missing (by decide +kernel)))⟩

lemma small_allowed : Allowed smallWorkspace ⟨smallFiles, ∅, ∅⟩ (smallCall ["record"] smallFiles [] 4242) := by
  refine ⟨fun line target summary config h => ?_, fun line config p h => ?_,
    fun _ _ _ _ _ _ _ => small_ready, fun line command config h => ?_, fun line display config h => ?_⟩
  · obtain ⟨rfl, rfl⟩ := small_reads h
    cases h.command
  · obtain ⟨rfl, rfl⟩ := small_reads h
    cases h.command
  · obtain ⟨rfl, rfl⟩ := small_reads h
    rintro log hlog
    have hsmall : log = smallLog := Except.ok.inj (hlog.symm.trans (by cbv))
    subst hsmall
    exact Beside.aside (w := smallWorkspace) (p := smallLog.path) ⟨rfl, by decide, by decide +kernel, by decide +kernel⟩ Files.empty
  · obtain ⟨rfl, rfl⟩ := small_reads h
    cases h.command

lemma small_fits (a : Sessions) (hcurrent : ∀ n ∈ a.files.current, n ≠ "..") (ha : ∀ p ∈ a.running, p = 4242)
    (words : List String) : a.Fits (smallCall words a.files [4242] 4243) := by
  refine ⟨rfl, hcurrent, rfl, fun p hp => .inl ?_, fun h => ?_, ⟨?_, ?_⟩⟩
  · rw [ha p hp]
    rfl
  · exact absurd (ha _ h) (by decide : ¬ (4243 : ℤ) = 4242)
  · exact (by decide : (0 : ℤ) < 4243)
  · exact (by decide : (4243 : ℤ) < 2 ^ 31)

lemma small_stops {fs : Files} (h : fs.hasEntry (settingsPath smallWorkspace smallStop) = false) :
    Stops smallWorkspace (smallCall ["stop"] fs [4242] 4243) := by
  have hsettings : ((Config.forProject [] smallWorkspace.project (some (settingsPath smallWorkspace smallStop))).run.run
      (informed (smallCall ["stop"] fs [4242] 4243).setting).scene).1 = .ok Config.standard :=
    Config.forProject_missing h
  exact ⟨⟨smallStop, none, Config.standard, ⟨small_stopping, rfl, hsettings⟩, Config.standard.port, rfl⟩,
    (by decide : (Outside.takeAnswer "POST /stop" smallReplies).1 ≠ .interrupted)⟩

/-- After a recording its collector is the only one: another recording is refused, and to stop is to
signal it. -/
theorem single_session_small : smallBusy.Live 4242 ∧ smallWorkspace.keptPid smallBusy.files = some 4242 ∧
    Refuses smallWorkspace (smallCall ["record"] smallBusy.files [4242] 4243) ∧
    Signalled 4242 ((smallCall ["stop"] smallBusy.files [4242] 4243).ending smallWorkspace).2 := by
  have hfits : Fits ⟨smallFiles, ∅, ∅⟩ (smallCall ["record"] smallFiles [] 4242) :=
    ⟨rfl, nofun, rfl, fun p hp => absurd hp (Set.notMem_empty p), Set.notMem_empty _, ⟨by decide, by decide⟩⟩
  have hlive : smallBusy.Live 4242 := ⟨.inr ⟨rfl, by decide +kernel⟩, fun h => Set.notMem_empty _ h.1⟩
  obtain ⟨-, hkept, hnext⟩ := single_session small_layout (.single (.call _ hfits small_allowed)) hlive
  have hrunning : ∀ p ∈ smallBusy.running, p = 4242 := by
    rintro p (hp | hp)
    · exact absurd hp (Set.notMem_empty p)
    · exact hp.1
  have hfits' := small_fits smallBusy (by decide +kernel) hrunning
  refine ⟨hlive, hkept, (hnext _ (hfits' _)).1 _ none none none false small_recording rfl, (hnext _ (hfits' _)).2 ?_⟩
  exact small_stops (by decide +kernel)

/-- The files after a command line. -/
def smallAfter (words : List String) (fs : Files) (running : List ℤ) (next : ℤ) : Files :=
  ((smallCall words fs running next).ending smallWorkspace).2.scene.files

/-- A recording starts a collector. -/
def Begins (fs : Files) (running : List ℤ) (next : ℤ) : Prop :=
  0 < starts ((smallCall ["record"] fs running next).ending smallWorkspace).2.outside

/-- The process runs, but its number is not kept and another recording starts a second one. -/
def Lost (pid : ℤ) (fs : Files) : Prop := smallWorkspace.keptPid fs ≠ some pid ∧ Begins fs [pid] (pid + 1)

instance (fs : Files) (running : List ℤ) (next : ℤ) : Decidable (Begins fs running next) := Nat.decLt _ _

instance (pid : ℤ) (fs : Files) : Decidable (Lost pid fs) := inferInstanceAs (Decidable (_ ∧ _))

/-- A log that is a link to the file of the number. -/
def smallLinked : Files := (smallFiles.put smallWorkspace.sessionDir.names .directory).put ["p", ".snaps.jsonl"]
  (.link smallWorkspace.pidFile)

/-- A collector is lost when the session is cleared, when settings are written over its number, when its
number cannot be kept, when its log is the file of its number or a link to that, and when one that was
asked to stop ends after it has begun. -/
theorem session_lost :
    Begins smallFiles [] 4242 ∧
    Lost 4242 (smallAfter ["clean"] smallBusy.files [4242] 4243) ∧
    Lost 4242 (smallAfter ["--config", smallWorkspace.pidFile.text, "config", "--init"] smallBusy.files [4242] 4243) ∧
    (let fs := smallFiles.put smallWorkspace.sessionDir.names (.file []);
      Begins fs [] 4242 ∧ Lost 4242 (smallAfter ["record"] fs [] 4242)) ∧
    Lost 4242 (((⟨smallWorkspace.pidFile⟩ : Log).appendLine "1").run.run ⟨smallBusy.files, [], .info⟩).2.files ∧
    (Begins smallLinked [] 4242 ∧
      Lost 4242 ((smallLog.appendLine "1").run.run ⟨smallAfter ["record"] smallLinked [] 4242, [], .info⟩).2.files) ∧
    (let fs := smallAfter ["stop"] smallBusy.files [4242] 4243;
      Begins fs [4242] 4243 ∧
        Lost 4243 (smallWorkspace.removePid.run.run ⟨smallAfter ["record"] fs [4242] 4243, [], .info⟩).2.files) := by
  refine ⟨?_, ?_, ?_, ⟨?_, ?_⟩, ?_, ⟨?_, ?_⟩, ?_, ?_⟩ <;> decide +kernel

end Sessions

end CallSnapshot.CommandLine
