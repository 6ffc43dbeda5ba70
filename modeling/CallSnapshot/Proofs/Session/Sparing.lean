import CallSnapshot.Proofs.Acting
import CallSnapshot.Proofs.Files.Direct
import CallSnapshot.Proofs.Session.Naming
import CallSnapshot.Proofs.Session.Site
import CallSnapshot.Session.Daemon
import CallSnapshot.Session.Injection

/-!
The file that keeps the number of the collector, and the work that spares it. Copies are made and
removed beside it, in the same directory, and source files and logs lie elsewhere; only what clears
the whole session takes it away.
-/

namespace CallSnapshot.Workspace

open Files Acting

variable {w : Workspace} {fs gs hs : Files} {p q : Path} {bs : List UInt8} {α β : Type}

/-- The directories of a session lie apart from each other and from the project. -/
structure Layout (w : Workspace) : Prop where
  temp : w.temp.Settled
  project : w.project.Settled
  backups : ¬ w.localDir.names <+: w.pidFile.names
  below : ¬ w.pidFile.names <+: w.project.names

/-- A tree without links in which a number can be kept. -/
structure Ready (w : Workspace) (fs : Files) : Prop where
  direct : Direct fs
  current : ∀ n ∈ fs.current, n ≠ ".."
  temp : ∀ r, r <+: w.temp.names → fs.get? r = some .directory
  session : fs.get? w.sessionDir.names = none ∨ fs.get? w.sessionDir.names = some .directory
  number : fs.get? w.pidFile.names ≠ some .directory

/-- What is kept as the number. -/
structure Pinned (w : Workspace) (fs : Files) (bs : List UInt8) : Prop where
  session : fs.get? w.sessionDir.names = some .directory
  number : fs.get? w.pidFile.names = some (.file bs)

/-- A number can still be kept, and one that is kept still is. -/
structure Spared (w : Workspace) (fs gs : Files) : Prop where
  ready : Ready w gs
  current : gs.current = fs.current
  pinned : ∀ bs, Pinned w fs bs → Pinned w gs bs

lemma Ready.spared (h : Ready w fs) : Spared w fs fs := ⟨h, rfl, fun _ => id⟩

lemma Ready.moved (h : Ready w fs) {dir : Place} (hdir : ∀ n ∈ dir, n ≠ "..") :
    Ready w { fs with current := dir } := ⟨h.direct, hdir, h.temp, h.session, h.number⟩

lemma Pinned.moved (h : Pinned w fs bs) {dir : Place} : Pinned w { fs with current := dir } bs :=
  ⟨h.session, h.number⟩

lemma Spared.trans (h : Spared w fs gs) (h' : Spared w gs hs) : Spared w fs hs :=
  ⟨h'.ready, h'.current.trans h.current, fun bs hp => h'.pinned bs (h.pinned bs hp)⟩

lemma pidFile_names (w : Workspace) : w.pidFile.names = w.sessionDir.names ++ ["io-snapshot.pid"] := rfl

lemma sessionDir_names (w : Workspace) : w.sessionDir.names = w.temp.names ++ [w.sessionName] := rfl

lemma prefix_pidFile {r : Place} : r <+: w.pidFile.names ↔
    r <+: w.temp.names ∨ r = w.sessionDir.names ∨ r = w.pidFile.names := by
  rw [pidFile_names, List.prefix_concat_iff, sessionDir_names, List.prefix_concat_iff]
  tauto

section Changes

variable (h : Ready w fs)

include h

lemma Spared.put {q : Place} (hq : fs.get? q ≠ some .directory) (hs : q ≠ w.sessionDir.names)
    (hp : q ≠ w.pidFile.names) (c : List UInt8) : Spared w fs (fs.put q (.file c)) := by
  have hne : q ≠ [] := by
    rintro rfl
    exact hq rfl
  have hget := get?_put fs hne (.file c)
  have hsession : (fs.put q (.file c)).get? w.sessionDir.names = fs.get? w.sessionDir.names := by
    rw [hget, if_neg (Ne.symm hs)]
  have hnumber : (fs.put q (.file c)).get? w.pidFile.names = fs.get? w.pidFile.names := by
    rw [hget, if_neg (Ne.symm hp)]
  refine ⟨⟨fun r t => ?_, h.current, fun r hr => ?_, ?_, ?_⟩, rfl, fun bs hb => ⟨?_, ?_⟩⟩
  · rw [hget]
    split
    · simp
    · exact h.direct r t
  · rw [hget, if_neg]
    · exact h.temp r hr
    · rintro rfl
      exact hq (h.temp r hr)
  · rw [hsession]
    exact h.session
  · rw [hnumber]
    exact h.number
  · rw [hsession, hb.session]
  · rw [hnumber, hb.number]

lemma Spared.made (hc : gs.current = fs.current) (hq : ∀ q, gs.get? q = fs.get? q ∨
    (fs.get? q = none ∧ gs.get? q = some .directory ∧ q ≠ w.pidFile.names)) : Spared w fs gs := by
  have hnumber : gs.get? w.pidFile.names = fs.get? w.pidFile.names :=
    (hq _).resolve_right fun h => h.2.2 rfl
  have hkept : ∀ q, fs.get? q = some .directory → gs.get? q = some .directory := by
    intro q hdir
    rcases hq q with heq | ⟨hnone, -⟩
    · rw [heq, hdir]
    · rw [hdir] at hnone
      cases hnone
  refine ⟨⟨fun q t => ?_, ?_, fun r hr => hkept r (h.temp r hr), ?_, ?_⟩, hc, fun bs hb => ⟨?_, ?_⟩⟩
  · rcases hq q with heq | ⟨-, hdir, -⟩
    · rw [heq]
      exact h.direct q t
    · simp [hdir]
  · rw [hc]
    exact h.current
  · rcases hq w.sessionDir.names with heq | ⟨-, hdir, -⟩
    · rw [heq]
      exact h.session
    · exact .inr hdir
  · rw [hnumber]
    exact h.number
  · exact hkept _ hb.session
  · rw [hnumber, hb.number]

lemma Spared.erase {q : Place} (hq : (∃ c, fs.get? q = some (.file c) ∧ q ≠ w.pidFile.names) ∨
    (fs.get? q = some .directory ∧ (∀ n, fs.get? (q ++ [n]) = none) ∧ q ≠ w.temp.names ∧ q ≠ [])) :
    Spared w fs (fs.erase q) := by
  have hne : q ≠ [] := by
    rintro rfl
    rcases hq with ⟨c, hc, -⟩ | ⟨-, -, -, hne⟩
    · cases hc
    · exact hne rfl
  have hget := get?_erase fs hne
  have hpid : q ≠ w.pidFile.names := by
    rcases hq with ⟨c, -, hp⟩ | ⟨hdir, -⟩
    · exact hp
    · rintro rfl
      exact h.number hdir
  have hnumber : (fs.erase q).get? w.pidFile.names = fs.get? w.pidFile.names := by
    rw [hget, if_neg (Ne.symm hpid)]
  refine ⟨⟨fun r t => ?_, h.current, fun r hr => ?_, ?_, ?_⟩, rfl, fun bs hb => ⟨?_, ?_⟩⟩
  · rw [hget]
    split
    · simp
    · exact h.direct r t
  · rw [hget, if_neg]
    · exact h.temp r hr
    · rintro rfl
      rcases hq with ⟨c, hc, -⟩ | ⟨-, hempty, htemp, -⟩
      · rw [h.temp r hr] at hc
        cases hc
      · obtain ⟨t, ht⟩ := hr
        cases t with
        | nil => exact htemp (by simpa using ht)
        | cons n t =>
          have hdir := h.temp (r ++ [n]) ⟨t, by simpa using ht⟩
          rw [hempty n] at hdir
          cases hdir
  · rw [hget]
    split
    · exact .inl rfl
    · exact h.session
  · rw [hnumber]
    exact h.number
  · rw [hget, if_neg, hb.session]
    rintro rfl
    rcases hq with ⟨c, hc, -⟩ | ⟨-, hempty, -⟩
    · rw [hb.session] at hc
      cases hc
    · have hnone := hempty "io-snapshot.pid"
      rw [← pidFile_names, hb.number] at hnone
      cases hnone
  · rw [hnumber, hb.number]

end Changes

/-! Paths that lead elsewhere. -/

/-- By these names the path leads neither to the number nor past it, nor does it end where the
session's directory is. -/
structure Aside (w : Workspace) (dir : Place) (p : Path) : Prop where
  way : ∀ r, r <+: p.names → follow dir r ≠ w.pidFile.names
  session : follow dir p.names ≠ w.sessionDir.names

/-- An absolute path that leads down beside the number. -/
structure Beside (w : Workspace) (p : Path) : Prop where
  absolute : p.isAbsolute = true
  proper : ∀ n ∈ p.names, n ≠ ".."
  above : ¬ p.names <+: w.pidFile.names
  below : ¬ w.pidFile.names <+: p.names

/-- The path of a source file as it is found. -/
structure SourcePath (p : Path) : Prop where
  root : p.root = .single
  proper : ∀ n ∈ p.names, n ≠ ".."
  suffix : p.suffix = ".py"

lemma startOf_absolute (hp : p.isAbsolute = true) (fs : Files) : fs.startOf p = [] := by
  rw [startOf, if_pos hp]

lemma SourcePath.absolute (hp : SourcePath p) : p.isAbsolute = true := by
  rw [Path.isAbsolute, hp.root]
  rfl

lemma SourcePath.ne_pidFile (hp : SourcePath p) : p.names ≠ w.pidFile.names := by
  intro hn
  have hname : p.name = "io-snapshot.pid" := by
    rw [Path.name, hn, pidFile_names, List.getLast?_concat, Option.getD_some]
  have hsuffix := hp.suffix
  rw [Path.suffix, hname] at hsuffix
  revert hsuffix
  decide

lemma sessionName_undotted (w : Workspace) : '.' ∉ w.sessionName.toList := by
  have hhex : '.' ∉ (Digest.hexDigest (Text.encodeUtf8 w.project.text)).toList := by
    rw [Digest.hexDigest, String.toList_ofList]
    intro h
    obtain ⟨b, -, hb⟩ := List.mem_flatMap.mp h
    exact Text.forall_hexDigits (P := fun c => c ≠ '.') (by decide) 2 b.toNat '.' hb rfl
  unfold sessionName
  revert hhex
  generalize Digest.hexDigest (Text.encodeUtf8 w.project.text) = digest
  intro hhex
  rw [String.toList_append, List.mem_append, not_or]
  refine ⟨?_, hhex⟩
  decide

lemma SourcePath.ne_sessionDir (hp : SourcePath p) : p.names ≠ w.sessionDir.names := by
  intro hn
  have hname : p.name = w.sessionName := by
    rw [Path.name, hn, sessionDir_names, List.getLast?_concat, Option.getD_some]
  have hsuffix := hp.suffix
  have hall : (p.name.toList.reverse.takeWhile (· != '.')) = p.name.toList.reverse := by
    rw [List.takeWhile_eq_self_iff]
    intro c hc
    rw [hname, List.mem_reverse] at hc
    rw [bne_iff_ne]
    rintro rfl
    exact sessionName_undotted w hc
  simp [Path.suffix, hall] at hsuffix

lemma Beside.extend (hp : Beside w p) {r : List String} (hr : ∀ n ∈ r, n ≠ "..") :
    Beside w ⟨p.root, p.names ++ r⟩ := by
  refine ⟨hp.absolute, fun n hn => ?_, fun h => hp.above ((List.prefix_append _ _).trans h), fun h => ?_⟩
  · rcases List.mem_append.mp hn with hn | hn
    · exact hp.proper n hn
    · exact hr n hn
  · rcases List.prefix_or_prefix_of_prefix h (List.prefix_append p.names r) with h' | h'
    · exact hp.below h'
    · exact hp.above h'

lemma Beside.place (hp : Beside w p) (fs : Files) : follow (fs.startOf p) p.names = p.names := by
  rw [startOf_absolute hp.absolute, follow_eq hp.proper, List.nil_append]

lemma Beside.aside (hp : Beside w p) (fs : Files) : Aside w (fs.startOf p) p := by
  refine ⟨fun r hr hn => ?_, fun hn => ?_⟩
  · rw [startOf_absolute hp.absolute, follow_eq fun n hn => hp.proper n (hr.subset hn),
      List.nil_append] at hn
    exact hp.below (hn ▸ hr)
  · rw [hp.place] at hn
    exact hp.above (hn ▸ prefix_pidFile.mpr (.inr (.inl rfl)))

lemma Beside.ne_temp (hp : Beside w p) : p.names ≠ w.temp.names ∧ p.names ≠ [] := by
  constructor
  · intro hn
    exact hp.above (hn ▸ prefix_pidFile.mpr (.inl (List.prefix_refl _)))
  · intro hn
    exact hp.above (hn ▸ List.nil_prefix)

/-! Work by work. -/

/-- Whatever comes of it, the work spares the number. -/
def Sparing (w : Workspace) (c : Acting α) (fs : Files) : Prop := Ends c fs fun _ gs => Spared w fs gs

lemma Sparing.bind {c : Acting α} {f : α → Acting β} (hc : Sparing w c fs)
    (hf : ∀ a gs, Spared w fs gs → Sparing w (f a) gs) : Sparing w (c >>= f) fs :=
  Ends.bind hc (fun a gs hg => (hf a gs hg).mono fun _ _ => hg.trans) fun _ _ => id

lemma Does.sparing {c : Acting α} {Q : α → Files → Prop} (h : Does c fs Q)
    (hQ : ∀ a gs, Q a gs → Spared w fs gs) : Sparing w c fs :=
  Ends.mono h fun _ gs ⟨a, _, ha⟩ => hQ a gs ha

section Work

variable (h : Ready w fs)

include h

lemma sparing_pure (a : α) : Sparing w (pure a) fs := ends_pure h.spared

lemma sparing_note (n : Note) : Sparing w (note n) fs := by
  refine Does.sparing (does_note n (Q := fun _ gs => gs = fs) rfl) ?_
  rintro _ _ rfl
  exact h.spared

lemma sparing_settle (r : Except Fault α) : Sparing w (settle r) fs := ends_settle r h.spared

lemma sparing_throw_bind (f : Fault) (g : α → Acting β) : Sparing w (throw f >>= g) fs := by
  rintro s rfl
  exact h.spared

lemma sparing_ask (p : Path) (op : Files → Except FileError α) : Sparing w (ask p op) fs :=
  ends_ask (fun _ _ => h.spared) fun _ => h.spared

lemma sparing_change (p : Path) {op : Files → Except FileError Files}
    (hop : ∀ gs, op fs = .ok gs → Spared w fs gs) : Sparing w (change p op) fs :=
  ends_change hop fun _ => h.spared

omit h in
lemma sparing_outcome {c : Acting α} (hc : Sparing w c fs) : Sparing w (outcome c) fs :=
  Does.sparing (does_outcome hc) fun _ _ hg => hg

lemma sparing_mapM {f : α → Acting β} {xs : List α}
    (hf : ∀ x ∈ xs, ∀ gs, Ready w gs → Sparing w (f x) gs) : Sparing w (xs.mapM f) fs := by
  induction xs generalizing fs with
  | nil =>
    rw [List.mapM_nil]
    exact sparing_pure h []
  | cons x xs ih =>
    simp only [List.forall_mem_cons] at hf
    rw [List.mapM_cons]
    refine (hf.1 fs h).bind fun b gs hg => ?_
    refine (ih hg.ready hf.2).bind fun bs hs hh => ?_
    exact sparing_pure hh.ready _

lemma sparing_forM {f : α → Acting Unit} {xs : List α}
    (hf : ∀ x ∈ xs, ∀ gs, Ready w gs → Sparing w (f x) gs) : Sparing w (xs.forM f) fs := by
  induction xs generalizing fs with
  | nil => exact sparing_pure h ()
  | cons x xs ih =>
    simp only [List.forall_mem_cons] at hf
    change Sparing w (f x >>= fun _ => xs.forM f) fs
    exact (hf.1 fs h).bind fun _ gs hg => ih hg.ready hf.2

/-! Changes of the files. -/

lemma makeDirectories_spared (hp : ∀ r, r <+: p.names → follow (fs.startOf p) r ≠ w.pidFile.names)
    (hm : fs.makeDirectories p = .ok gs) : Spared w fs gs := by
  obtain ⟨hc, hq⟩ := makeDirectories_made h.direct hm
  refine Spared.made h hc fun q => (hq q).imp_right ?_
  rintro ⟨hnone, hdir, r, hr, rfl⟩
  exact ⟨hnone, hdir, hp r hr⟩

lemma write_spared {c : List UInt8} (hs : follow (fs.startOf p) p.names ≠ w.sessionDir.names)
    (hp : follow (fs.startOf p) p.names ≠ w.pidFile.names) (hw : fs.write p c = .ok gs) : Spared w fs gs := by
  obtain ⟨rfl, hdir⟩ := write_put h.direct hw
  exact Spared.put h hdir hs hp c

lemma remove_spared (hp : follow (fs.startOf p) p.names ≠ w.pidFile.names) (hr : fs.remove p = .ok gs) :
    Spared w fs gs := by
  obtain ⟨rfl, c, hc⟩ := remove_erase h.direct hr
  exact Spared.erase h (.inl ⟨c, hc, hp⟩)

lemma removeDirectory_spared (hp : Beside w p) (hr : fs.removeDirectory p = .ok gs) : Spared w fs gs := by
  obtain ⟨rfl, hdir, hempty⟩ := removeDirectory_erase h.direct hr
  rw [hp.place] at hdir hempty ⊢
  exact Spared.erase h (.inr ⟨hdir, hempty, hp.ne_temp⟩)

lemma put_sparing (hp : Aside w (fs.startOf p) p) (c : List UInt8) : Sparing w (Acting.put p c) fs := by
  have hdir : p.parent.names <+: p.names := List.dropLast_prefix _
  have hstart : fs.startOf p.parent = fs.startOf p := rfl
  refine Sparing.bind (sparing_change h _ fun gs hg => ?_) fun _ gs hg => ?_
  · refine makeDirectories_spared h (fun r hr => ?_) hg
    rw [hstart]
    exact hp.way r (hr.trans hdir)
  · have hstart' : gs.startOf p = fs.startOf p := by simp only [startOf, hg.current]
    refine sparing_change hg.ready _ fun hs hh => write_spared hg.ready ?_ ?_ hh
    · rw [hstart']
      exact hp.session
    · rw [hstart']
      exact hp.way _ (List.prefix_refl _)

end Work

end CallSnapshot.Workspace
