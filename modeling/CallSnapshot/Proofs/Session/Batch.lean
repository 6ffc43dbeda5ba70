import CallSnapshot.Proofs.Session.Contained
import CallSnapshot.Proofs.Session.Discarding

/-!
Instrumenting several files, one after another. What comes of a file depends on its content and on those of
its copies alone, and the work on it leaves every other file and its copies as they are, while the
directories for copies come and go. So the order of the files does not matter.
-/

namespace CallSnapshot

namespace Files

variable {fs : Files} {q : Place}

def contentAt? (fs : Files) (q : Place) : Option (List UInt8) :=
  match fs.get? q with
  | some (.file c) => some c
  | _ => none

lemma get?_eq_contentAt? (hd : fs.get? q ≠ some .directory) (hl : ∀ t, fs.get? q ≠ some (.link t)) :
    fs.get? q = (fs.contentAt? q).map .file := by
  unfold contentAt?
  cases hg : fs.get? q with
  | none => rfl
  | some e =>
    cases e with
    | file c => rfl
    | directory => exact absurd hg hd
    | link t => exact absurd hg (hl t)

lemma map_file_ne_directory (o : Option (List UInt8)) : o.map Entry.file ≠ some .directory := by
  cases o <;> simp

end Files

namespace Workspace

open Files Acting

variable {w : Workspace} {temp S T : Place} {fs gs hs : Files}

/-! But for the making of copies, no part of the work makes a directory. -/

lemma discard_plain (file : Path) : Ends (w.discard file) fs fun _ gs => Plain fs gs :=
  (w.discard_discards file).mono fun _ _ h _ hq => .inl ((reduced_of_removals h.removals).first hq)

lemma copyFile_plain (source target : Path) : Ends (copyFile source target) fs fun _ gs => Plain fs gs := by
  refine Depot.copyFile_ends.mono ?_
  rintro r gs (⟨-, hcopy⟩ | ⟨f, -, -, rfl⟩)
  · exact copy_plain hcopy
  · exact .refl gs

lemma restoreFile_plain (file : Path) : Ends (w.restoreFile file) fs fun _ gs => Plain fs gs := by
  have hback : ∀ copy, Ends (do
      copyFile copy (w.located file)
      return true) fs fun _ gs => Plain fs gs := fun copy =>
    Plain.bind (copyFile_plain _ _) fun _ gs => ends_pure (.refl gs)
  unfold restoreFile
  refine (hasBackup_asks _).ends_bind ?_
  rintro _ gs ⟨rfl, -⟩
  split
  · exact hback _
  · refine (hasLocalBackup_asks _).ends_bind ?_
    rintro _ gs ⟨rfl, -⟩
    split
    · refine (does_note _ (Q := fun _ hs => hs = gs) rfl).ends_bind ?_
      rintro _ _ rfl
      exact hback _
    · refine (does_note _ (Q := fun _ hs => hs = gs) rfl).ends_bind ?_
      rintro _ _ rfl
      exact ends_pure (.refl _)

structure Stock where
  content : List UInt8
  primary : Option (List UInt8)
  fallback : Option (List UInt8)

namespace Stock

/-- The content that is instrumented: that of a copy, where there is one. -/
def origin (x : Stock) : List UInt8 := (x.primary <|> x.fallback).getD x.content

def copied (c : List UInt8) : Stock := ⟨c, some c, some c⟩

/-- What comes of a file with both of its copies, and how it stands then. -/
def instrument (p : Path) (c : List UInt8) : Injection × Stock :=
  match Config.textOf c >>= Source.instrument with
  | .error f => (⟨p, .failed, [], some f⟩, ⟨c, none, none⟩)
  | .ok (none, _) => (⟨p, .unchanged, [], none⟩, ⟨c, none, none⟩)
  | .ok (some text, wrapped) => (⟨p, .injected, wrapped, none⟩, { copied c with content := Text.encodeUtf8 text })

def inject (x : Stock) (p : Path) (force : Bool) : Injection × Stock :=
  if x.primary.isSome && !force then (⟨p, .skipped, [], none⟩, x) else instrument p x.origin

end Stock

/-- How it stands with a file in a tree. -/
structure Stands (w : Workspace) (temp : Place) (fs : Files) (S : Place) (x : Stock) : Prop where
  source : fs.get? S = some (.file x.content)
  primary : fs.get? (w.primaryPlace temp S) = x.primary.map .file
  fallback : fs.get? (w.fallbackPlace S) = x.fallback.map .file

/-- Work on one file and its copies that makes no directory with the name of a copy. -/
structure Tends (w : Workspace) (temp S : Place) (fs gs : Files) : Prop where
  moves : w.Moves temp S fs gs
  plain : Plain fs gs

lemma Tends.trans (h : w.Tends temp S fs gs) (h' : w.Tends temp S gs hs) : w.Tends temp S fs hs :=
  ⟨h.moves.trans h'.moves, h.plain.trans h'.plain⟩

/-- A source file of the project with only directories on the way to its copies. -/
structure Plot (w : Workspace) (temp : Place) (fs : Files) (S : Place) : Prop where
  spot : Spot w temp fs S
  inside : w.project.names <+: S
  suffix : (⟨.single, S⟩ : Path).suffix = ".py"
  plain : ∀ n ∈ (w.relative ⟨.single, S⟩).dropLast, isBackupName n = false
  primary : Clear fs temp ((w.primaryDepot temp).lead ++ (w.relative ⟨.single, S⟩).dropLast)
  fallback : Clear fs w.project.names (w.localDepot.lead ++ (w.relative ⟨.single, S⟩).dropLast)

namespace Plot

variable {x : Stock}

lemma sessionName_plain (w : Workspace) : isBackupName w.sessionName = false := by
  refine Bool.eq_false_iff.mpr fun hm => sessionName_undotted w ?_
  exact (isBackupName_iff.mp hm).subset (by decide)

lemma localName_plain : isBackupName localBackupName = false := by decide +kernel

lemma lead_plain (w : Workspace) (temp : Place) :
    (∀ n ∈ (w.primaryDepot temp).lead, isBackupName n = false) ∧ ∀ n ∈ w.localDepot.lead, isBackupName n = false := by
  have hbackup : isBackupName "backup" = false := by decide
  simp [Depot.lead, primaryDepot, localDepot, sessionName_plain w, hbackup, localName_plain]

section Work

variable (h : Plot w temp fs S)

include h

lemma place_eq : S = w.project.names ++ w.relative ⟨.single, S⟩ := by
  obtain ⟨rel, hrel⟩ := h.inside
  have hproper : ∀ n ∈ w.project.names ++ rel, n ≠ ".." := fun n hn => (h.spot.proper_source n (hrel ▸ hn)).2
  rw [← hrel, relative_inside h.spot.grounds.root hproper]

lemma ne_copy (d : Depot) {rel : List String} (hne : rel ≠ []) : S ≠ d.copyPlace rel :=
  ne_copyPlace hne rfl h.suffix

/-! The work on one file leaves another one as it is. -/

lemma clear_next (h' : Plot w temp fs T) (hw : w.Tends temp T fs gs) (hT : ∃ c, gs.get? T = some (.file c))
    {d : Depot} (hlead : ∀ n ∈ d.lead, isBackupName n = false) (hinside : ∀ q, d.root <+: q → w.Inside temp q)
    (hclear : Clear fs d.place (d.lead ++ (w.relative ⟨.single, S⟩).dropLast)) :
    Clear gs d.place (d.lead ++ (w.relative ⟨.single, S⟩).dropLast) := by
  intro r hne hr
  have hunmarked : Depot.Unmarked (d.place ++ r) := by
    refine (Depot.unmarked_append hne).mpr fun n hn => ?_
    rcases List.mem_append.mp (hr.subset (List.mem_of_getLast? hn)) with hn | hn
    · exact hlead n hn
    · exact h.plain n hn
  have hother : ∀ d' : Depot, d.place ++ r ≠ d'.copyPlace (w.relative ⟨.single, T⟩) := fun d' heq =>
    d'.not_unmarked_copyPlace h'.spot.relative_ne_nil (heq ▸ hunmarked)
  cases hg : gs.get? (d.place ++ r) with
  | none => exact .inl rfl
  | some e =>
    cases e with
    | directory => exact .inr rfl
    | link t =>
      have hgrounds := (h'.spot.next hw.moves hT).grounds
      exact absurd hg (hgrounds.unlinked _ t (hinside _ (Depot.root_prefix_lead hne hr)))
    | file c =>
      obtain ⟨c', hc'⟩ := (h'.spot.file_iff hw.moves hT (hother _) (hother _)).mp ⟨c, hg⟩
      rcases hclear r hne hr with hq | hq <;> cases hc'.symm.trans hq

lemma next (h' : Plot w temp fs T) (hw : w.Tends temp T fs gs) (hT : ∃ c, gs.get? T = some (.file c)) :
    Plot w temp gs S := by
  have hTne := h'.spot.relative_ne_nil
  refine ⟨⟨(h'.spot.next hw.moves hT).grounds, ?_⟩, h.inside, h.suffix, h.plain, ?_, ?_⟩
  · exact (h'.spot.file_iff hw.moves hT (h.ne_copy _ hTne) (h.ne_copy _ hTne)).mpr h.spot.source
  · exact h.clear_next h' hw hT (lead_plain w temp).1 (fun q => .inl) h.primary
  · exact h.clear_next h' hw hT (lead_plain w temp).2 (fun q => .inr) h.fallback

lemma stands_next (h' : Plot w temp fs T) (hST : S ≠ T) (hw : w.Tends temp T fs gs) (hx : w.Stands temp fs S x) :
    w.Stands temp gs S x := by
  have hSne := h.spot.relative_ne_nil
  have hTne := h'.spot.relative_ne_nil
  have hrel : w.relative ⟨.single, S⟩ ≠ w.relative ⟨.single, T⟩ := by
    intro heq
    refine hST ?_
    rw [h.place_eq, h'.place_eq, heq]
  have hsame : ∀ d : Depot, d.copyPlace (w.relative ⟨.single, S⟩) ≠ d.copyPlace (w.relative ⟨.single, T⟩) :=
    fun d heq => hrel (Path.extend_inj hSne hTne (List.append_cancel_left heq))
  have hapart : ∀ {q}, w.sessionPlace temp <+: q → ¬ w.localPlace <+: q :=
    not_prefix_of_apart h.spot.grounds.apart
  have hcopy : ∀ (d : Depot) {o : Option (List UInt8)},
      fs.get? (d.copyPlace (w.relative ⟨.single, S⟩)) = o.map .file →
      d.copyPlace (w.relative ⟨.single, S⟩) ≠ w.primaryPlace temp T →
      d.copyPlace (w.relative ⟨.single, S⟩) ≠ w.fallbackPlace T →
      gs.get? (d.copyPlace (w.relative ⟨.single, S⟩)) = o.map .file := by
    intro d o ho hP hL
    refine (hw.moves.copy_kept hw.plain ?_ (d.not_unmarked_copyPlace hSne) ?_).trans ho
    · rintro (hT | hP' | hL')
      · exact h'.ne_copy d hSne hT.symm
      · exact hP hP'
      · exact hL hL'
    · rw [ho]
      exact map_file_ne_directory o
  refine ⟨(hw.moves.file_iff ?_).mpr hx.source, hcopy _ hx.primary (hsame _) ?_, hcopy _ hx.fallback ?_ (hsame _)⟩
  · rintro (hT | hP | hL)
    · exact hST hT
    · exact h.ne_copy _ hTne hP
    · exact h.ne_copy _ hTne hL
  · intro heq
    have hlocal := fallbackPlace_inside w T
    rw [← heq] at hlocal
    exact hapart (primaryPlace_inside w temp S) hlocal
  · intro heq
    have hsession := primaryPlace_inside w temp T
    rw [← heq] at hsession
    exact hapart hsession (fallbackPlace_inside w S)

/-! What the parts of instrumenting a file come to. -/

variable {c : List UInt8} (hx : w.Stands temp fs S x)

omit h in
lemma origin_of_copied (hx : w.Stands temp fs S x) (hc : w.Copied temp fs S c) : x.origin = c := by
  obtain ⟨content, primary, fallback⟩ := x
  rcases hc with hP | ⟨hP, hL⟩
  · have hprimary := hx.primary.symm.trans hP
    cases primary <;> cases hprimary
    rfl
  · have hprimary := hx.primary.symm.trans hP
    have hfallback := hx.fallback.symm.trans hL
    cases primary <;> cases hprimary
    cases fallback <;> cases hfallback
    rfl

include hx

lemma restoreFile_stands (hhad : (x.primary.isSome || x.fallback.isSome) = true) :
    Does (w.restoreFile ⟨.single, S⟩) fs fun _ gs => w.Tends temp S fs gs ∧
      w.Stands temp gs S { x with content := x.origin } := by
  refine (h.spot.restoreFile_ends.and (restoreFile_plain _)).mono ?_
  rintro r gs ⟨⟨hmoves, hP, hL, ⟨-, hnone, -⟩ | ⟨rfl, c, hc, hS⟩⟩, hplain⟩
  · refine absurd hhad ?_
    obtain ⟨content, primary, fallback⟩ := x
    cases primary with
    | some c => exact absurd (.inl hx.primary) (hnone c)
    | none =>
      cases fallback with
      | some c => exact absurd (.inr ⟨hx.primary, hx.fallback⟩) (hnone c)
      | none => exact nofun
  · refine ⟨true, rfl, ⟨hmoves, hplain⟩, ?_, hP.trans hx.primary, hL.trans hx.fallback⟩
    rw [origin_of_copied hx hc]
    exact hS

lemma backup_stands : Does (w.backup ⟨.single, S⟩) fs fun _ gs => w.Tends temp S fs gs ∧
    w.Stands temp gs S (.copied x.content) := by
  have hlocated : w.located ⟨.single, S⟩ = ⟨.single, S⟩ := Path.join_absolute rfl
  have hne := h.spot.relative_ne_nil
  have hp := h.spot.relative_proper
  have hnames : ∀ {d : Depot}, (∀ n ∈ d.lead, isBackupName n = false) →
      ∀ n ∈ d.lead ++ (w.relative ⟨.single, S⟩).dropLast, isBackupName n = false := fun hlead n hn =>
    (List.mem_append.mp hn).elim (hlead n) (h.plain n)
  unfold backup
  dsimp only
  rw [hlocated, Spot.primaryBackup_eq w temp, Spot.localBackup_eq]
  refine (h.spot.grounds.primary.copyInto_does hne hp hx.source (h.ne_copy _ hne) h.primary
    (hx.primary.trans_ne (map_file_ne_directory _)) (hnames (lead_plain w temp).1)).bind ?_
  rintro _ gs ⟨htends, hplain, hP⟩
  obtain ⟨hsource, hlocal⟩ := h.spot.primary_spares (c := x.content) htends
  have hS := hsource.mpr hx.source
  have h' := h.spot.next (Spot.primary_moves htends) ⟨_, hS⟩
  have hway : Clear gs w.project.names (w.localDepot.lead ++ (w.relative ⟨.single, S⟩).dropLast) := by
    intro r hrne hr
    have hsame : gs.get? (w.project.names ++ r) = fs.get? (w.project.names ++ r) :=
      hlocal _ (Depot.root_prefix_lead (d := w.localDepot) hrne hr)
    rw [hsame]
    exact h.fallback r hrne hr
  have hL' := (hlocal _ (fallbackPlace_inside w S)).trans hx.fallback
  refine (h'.grounds.fallback.copyInto_does hne hp hS (h.ne_copy _ hne) hway (hL'.trans_ne (map_file_ne_directory _))
    (hnames (lead_plain w temp).2)).bind ?_
  rintro _ ks ⟨htends', hplain', hL⟩
  obtain ⟨hsource', hsession⟩ := h'.fallback_spares (c := x.content) htends'
  refine does_note_bind _ (does_pure ⟨⟨?_, hplain.trans hplain'⟩, hsource'.mpr hS, ?_, hL⟩)
  · exact (Spot.primary_moves htends).trans (Spot.fallback_moves htends')
  · exact (hsession _ (primaryPlace_inside w temp S)).trans hP

lemma prepare_stands {had : Bool} (hhad : had = (x.primary.isSome || x.fallback.isSome)) :
    Does (w.prepare ⟨.single, S⟩ had) fs fun _ gs => w.Tends temp S fs gs ∧
      w.Stands temp gs S (.copied x.origin) := by
  unfold prepare
  cases had with
  | true =>
    simp only [if_true]
    refine (h.restoreFile_stands hx hhad.symm).bind ?_
    rintro _ gs ⟨htends, hx'⟩
    refine ((h.next h htends ⟨_, hx'.source⟩).backup_stands hx').bind ?_
    rintro _ ks ⟨htends', hx''⟩
    exact does_pure ⟨htends.trans htends', hx''⟩
  | false =>
    have horigin : x.origin = x.content := by
      obtain ⟨content, primary, fallback⟩ := x
      cases primary <;> cases fallback <;> first | rfl | cases hhad
    simp only [Bool.false_eq_true, if_false]
    refine (h.backup_stands hx).bind ?_
    rintro _ gs ⟨htends, hx'⟩
    rw [horigin]
    exact does_pure ⟨htends, hx'⟩

omit hx in
lemma instrumentFile_stands (hS : fs.get? S = some (.file c)) : Ends (instrumentFile ⟨.single, S⟩) fs fun r gs =>
    match Config.textOf c >>= Source.instrument with
    | .error f => r = .error f ∧ gs = fs
    | .ok (none, _) => r = .ok none ∧ gs = fs
    | .ok (some text, wrapped) => r = .ok (some wrapped) ∧ gs = fs.put S (.file (Text.encodeUtf8 text)) := by
  obtain ⟨hentry, hplace⟩ := h.spot.resolved
  have hread : fs.read ⟨.single, S⟩ = .ok c := read_file (hentry.trans hS)
  unfold instrumentFile
  refine (does_ask (Q := fun b gs => b = c ∧ gs = fs) hread ⟨rfl, rfl⟩).ends_bind ?_
  rintro _ _ ⟨rfl, rfl⟩
  refine ends_settle_bind (fun source hsource => ?_) fun f hf => ?_
  · rw [hsource, ok_bind]
    refine ends_settle_bind (fun p hp => ?_) fun f hf => ?_
    · obtain ⟨text, wrapped⟩ := p
      rw [hp]
      cases text with
      | none => exact ends_pure ⟨rfl, rfl⟩
      | some text =>
        have hwrite := write_file hplace (by simp [hS]) (Text.encodeUtf8 text)
        refine Does.ends_bind (does_change (Q := fun _ gs => gs = _) hwrite rfl) ?_
        rintro _ _ rfl
        exact ends_pure ⟨rfl, rfl⟩
    · rw [hf]
      exact ⟨rfl, rfl⟩
  · rw [hf]
    exact ⟨rfl, rfl⟩

omit hx in
lemma discard_stands (hx : w.Stands temp fs S (.copied c)) : Does (w.discard ⟨.single, S⟩) fs fun _ gs =>
    w.Tends temp S fs gs ∧ w.Stands temp gs S ⟨c, none, none⟩ := by
  refine (Ends.and (h.spot.discard_does hx.source hx.primary hx.fallback) (discard_plain _)).mono ?_
  rintro r gs ⟨⟨_, rfl, hmoves, hS, hP, hL⟩, hplain⟩
  exact ⟨(), rfl, ⟨hmoves, hplain⟩, hS, hP, hL⟩

omit hx in
lemma injectPrepared_stands (hx : w.Stands temp fs S (.copied c)) : Does (w.injectPrepared ⟨.single, S⟩) fs
    fun i gs => w.Tends temp S fs gs ∧ i = (Stock.instrument ⟨.single, S⟩ c).1 ∧
      w.Stands temp gs S (Stock.instrument ⟨.single, S⟩ c).2 := by
  have hfile := h.instrumentFile_stands hx.source
  unfold injectPrepared Stock.instrument
  rcases hi : Config.textOf c >>= Source.instrument with f | ⟨_ | text, wrapped⟩ <;> rw [Stock.copied, hi] at hfile
  · refine (does_outcome (Q := fun r gs => r = .error f ∧ gs = fs) (hfile.bind ?_ ?_)).bind ?_
    · rintro _ _ ⟨⟨⟩, -⟩
    · rintro _ _ ⟨⟨⟩, rfl⟩
      exact ⟨rfl, rfl⟩
    · rintro _ _ ⟨rfl, rfl⟩
      refine does_note_bind _ ((h.restoreFile_stands hx rfl).bind ?_)
      rintro _ gs ⟨htends, hx'⟩
      refine ((h.next h htends ⟨_, hx'.source⟩).discard_stands hx').bind ?_
      rintro _ ks ⟨htends', hx''⟩
      exact does_pure ⟨htends.trans htends', rfl, hx''⟩
  · refine (does_outcome (Q := fun r gs => r = .ok none ∧ w.Tends temp S fs gs ∧
      w.Stands temp gs S ⟨c, none, none⟩) (hfile.bind ?_ ?_)).bind ?_
    · rintro _ gs ⟨⟨⟩, rfl⟩
      refine (does_note _ (Q := fun _ hs => hs = gs) rfl).ends_bind ?_
      rintro _ _ rfl
      refine (h.discard_stands hx).ends_bind ?_
      rintro _ ks ⟨htends, hx'⟩
      exact ends_pure ⟨rfl, htends, hx'⟩
    · rintro _ _ ⟨⟨⟩, -⟩
    · rintro _ gs ⟨rfl, htends, hx'⟩
      exact does_pure ⟨htends, rfl, hx'⟩
  · refine (does_outcome (Q := fun r gs => r = .ok (some wrapped) ∧ gs = fs.put S (.file (Text.encodeUtf8 text)))
      (hfile.bind ?_ ?_)).bind ?_
    · rintro _ _ ⟨⟨⟩, rfl⟩
      exact ends_pure ⟨rfl, rfl⟩
    · rintro _ _ ⟨⟨⟩, -⟩
    · rintro _ _ ⟨rfl, rfl⟩
      obtain ⟨hmoves, hS, hrest⟩ := h.spot.put_moves (Text.encodeUtf8 text)
      refine does_note_bind _ (does_pure ⟨⟨hmoves, .put h.spot.ne_nil _⟩, rfl, hS, ?_, ?_⟩)
      · exact (hrest _ (h.spot.ne_copy _).symm).trans hx.primary
      · exact (hrest _ (h.spot.ne_copy _).symm).trans hx.fallback

lemma injectFile_stands {file : Path} (hfile : fs.resolve (w.located file) = ⟨.single, S⟩) (force : Bool) :
    Does (w.injectFile file force) fs fun i gs => w.Tends temp S fs gs ∧ i = (x.inject ⟨.single, S⟩ force).1 ∧
      w.Stands temp gs S (x.inject ⟨.single, S⟩ force).2 := by
  have hprimary : fs.hasEntry (w.primaryBackup ⟨.single, S⟩) = x.primary.isSome := by
    rw [hasEntry, h.spot.entry_primary, hx.primary, Option.isSome_map]
  have hfallback : fs.hasEntry (w.localBackup ⟨.single, S⟩) = x.fallback.isSome := by
    rw [hasEntry, h.spot.entry_fallback, hx.fallback, Option.isSome_map]
  unfold injectFile Stock.inject
  refine does_files_bind ?_
  dsimp only
  rw [hfile]
  refine (hasBackup_asks _).bind ?_
  rintro _ _ ⟨rfl, rfl⟩
  rw [hprimary]
  split
  · exact does_note_bind _ (does_pure ⟨⟨.refl h.spot.grounds.sound, .refl _⟩, rfl, hx⟩)
  · refine (hasBackup_asks _).bind ?_
    rintro _ _ ⟨rfl, rfl⟩
    refine (hasLocalBackup_asks _).bind ?_
    rintro _ gs ⟨rfl, rfl⟩
    rw [hprimary, hfallback]
    refine (does_outcome (h.prepare_stands hx rfl)).bind ?_
    rintro _ gs' ⟨_, rfl, htends, hx'⟩
    refine ((h.next h htends ⟨_, hx'.source⟩).injectPrepared_stands hx').mono ?_
    rintro i ks ⟨htends', hi, hx''⟩
    exact ⟨htends.trans htends', hi, hx''⟩

end Work

end Plot

/-! Files of a project, one after another. -/

def stock (w : Workspace) (temp : Place) (fs : Files) (p : Path) : Stock :=
  ⟨(fs.contentAt? p.names).getD [], fs.contentAt? (w.primaryPlace temp p.names),
    fs.contentAt? (w.fallbackPlace p.names)⟩

/-- Source files of a project, each of them once, with any copies. No directory where they or their copies lie
is named as a copy, and no file stands in the place of a directory for their copies. -/
structure Lot (w : Workspace) (temp : Place) (fs : Files) (files : List Path) : Prop where
  distinct : files.Nodup
  sources : ∀ p ∈ files, p.root = .single ∧ w.project.names <+: p.names ∧ p.suffix = ".py" ∧
    ∃ c, fs.get? p.names = some (.file c)
  unmarked : ∀ r, fs.get? (w.project.names ++ r) = some .directory ∨
    fs.get? ((w.primaryDepot temp).dir ++ r) = some .directory → Depot.Unmarked r
  ways : ∀ p ∈ files, ∀ d ∈ [w.primaryDepot temp, w.localDepot], ∀ r, r ≠ [] →
    r <+: d.lead ++ (w.relative p).dropLast → ∀ c, fs.get? (d.place ++ r) ≠ some (.file c)

namespace Lot

variable {files : List Path} {p : Path} (hg : Grounds w temp fs) (h : Lot w temp fs files)

include h

lemma path_eq (hp : p ∈ files) : p = ⟨.single, p.names⟩ := by
  obtain ⟨hroot, -⟩ := h.sources p hp
  rw [← hroot]

include hg

lemma clear (hp : p ∈ files) {d : Depot} (hd : d ∈ [w.primaryDepot temp, w.localDepot])
    (hinside : ∀ q, d.root <+: q → w.Inside temp q) : Clear fs d.place (d.lead ++ (w.relative p).dropLast) := by
  intro r hne hr
  cases hq : fs.get? (d.place ++ r) with
  | none => exact .inl rfl
  | some e =>
    cases e with
    | directory => exact .inr rfl
    | file c => exact absurd hq (h.ways p hp d hd r hne hr c)
    | link t => exact absurd hq (hg.unlinked _ t (hinside _ (Depot.root_prefix_lead hne hr)))

lemma plot (hp : p ∈ files) : Plot w temp fs p.names := by
  obtain ⟨hroot, hinside, hsuffix, hsource⟩ := h.sources p hp
  have hpath := h.path_eq hp
  have hspot : Spot w temp fs p.names := ⟨hg, hsource⟩
  have hprimary := h.clear hg hp (d := w.primaryDepot temp) (by simp) fun _ => .inl
  have hfallback := h.clear hg hp (d := w.localDepot) (by simp) fun _ => .inr
  rw [hpath] at hprimary hfallback
  refine ⟨hspot, hinside, hpath ▸ hsuffix, fun n hn => ?_, hprimary, hfallback⟩
  obtain ⟨rel, hrel⟩ := hinside
  have hproper : ∀ m ∈ w.project.names ++ rel, m ≠ ".." := fun m hm => (hspot.proper_source m (hrel ▸ hm)).2
  rw [← hrel, relative_inside hg.root hproper] at hn
  -- Each directory above the file is one of the project, so none of their names is that of a copy.
  obtain ⟨a, b, hab⟩ := List.append_of_mem hn
  have hne : rel ≠ [] := by
    rintro rfl
    cases hn
  have hdir : fs.get? (w.project.names ++ (a ++ [n])) = some .directory := by
    refine hg.sound.above (r := b ++ [rel.getLast hne]) (by simp) ?_
    have hwhole : w.project.names ++ (a ++ [n]) ++ (b ++ [rel.getLast hne]) = p.names := by
      rw [← hrel]
      conv_rhs => rw [← List.dropLast_append_getLast hne, hab]
      simp
    rw [hwhole]
    obtain ⟨c, hc⟩ := hsource
    rw [hc]
    rfl
  exact h.unmarked _ (.inl hdir) n (by simp)

lemma stands (hp : p ∈ files) : w.Stands temp fs p.names (w.stock temp fs p) := by
  have hmarked := Depot.not_unmarked_extend (h.plot hg hp).spot.relative_ne_nil
  refine ⟨?_, get?_eq_contentAt? (fun hd => hmarked (h.unmarked _ (.inr hd))) fun t =>
    hg.unlinked _ t (.inl (primaryPlace_inside w temp _)), get?_eq_contentAt? (fun hd => ?_) fun t =>
      hg.unlinked _ t (.inr (fallbackPlace_inside w _))⟩
  · obtain ⟨-, -, -, c, hc⟩ := h.sources p hp
    simp [stock, contentAt?, hc]
  · have hplace : w.fallbackPlace p.names = w.project.names ++
        ([localBackupName] ++ Path.extend (w.relative ⟨.single, p.names⟩) backupSuffix) := by
      simp [fallbackPlace, Depot.copyPlace, Depot.dir, Depot.lead, localDepot]
    rw [hplace] at hd
    exact hmarked ((Depot.unmarked_append (Path.extend_ne_nil _ _)).mp (h.unmarked _ (.inl hd)))

/-- The files in any order, one after another. -/
lemma injectFiles_stands (force : Bool) {order : List Path} (horder : order.Perm files) :
    Does (order.mapM fun p => w.injectFile p force) fs fun results gs =>
      results = order.map (fun p => ((w.stock temp fs p).inject p force).1) ∧
        ∀ p ∈ files, w.Stands temp gs p.names ((w.stock temp fs p).inject p force).2 := by
  -- Those that are done stand as they do when they alone are; the others as at first.
  refine (does_mapM (I := fun pre results gs => (∀ p ∈ files, Plot w temp gs p.names) ∧
    results = pre.map (fun p => ((w.stock temp fs p).inject p force).1) ∧ ∀ p ∈ files, w.Stands temp gs p.names
      (if p ∈ pre then ((w.stock temp fs p).inject p force).2 else w.stock temp fs p)) ?_ ?_).mono ?_
  · intro pre p post results gs heq ⟨hplots, hresults, hstands⟩
    have hp : p ∈ files := horder.mem_iff.mp (by simp [heq])
    have hnew : p ∉ pre := by
      have hdistinct := horder.nodup_iff.mpr h.distinct
      rw [heq] at hdistinct
      exact fun hpre => List.disjoint_of_nodup_append hdistinct hpre List.mem_cons_self
    have hx := hstands p hp
    rw [if_neg hnew] at hx
    have hself : gs.resolve (w.located p) = ⟨.single, p.names⟩ := by
      rw [h.path_eq hp]
      exact (hplots p hp).spot.resolve_located
    refine ((hplots p hp).injectFile_stands hx hself force).mono ?_
    rintro i ks ⟨htends, hi, hx'⟩
    rw [← h.path_eq hp] at hi hx'
    refine ⟨fun q hq => (hplots q hq).next (hplots p hp) htends ⟨_, hx'.source⟩, ?_, fun q hq => ?_⟩
    · rw [List.map_append, hresults, hi]
      rfl
    · by_cases hqp : q = p
      · subst hqp
        simpa using hx'
      · have hnames : q.names ≠ p.names := by
          intro hn
          rw [h.path_eq hq, h.path_eq hp, hn] at hqp
          exact hqp rfl
        have hmem : q ∈ pre ++ [p] ↔ q ∈ pre := by simp [hqp]
        simp only [hmem]
        exact (hplots q hq).stands_next (hplots p hp) hnames htends (hstands q hq)
  · exact ⟨fun p hp => h.plot hg hp, rfl, fun p hp => by simpa using h.stands hg hp⟩
  · rintro results gs ⟨-, hresults, hstands⟩
    refine ⟨hresults, fun p hp => ?_⟩
    have hx := hstands p hp
    rwa [if_pos (horder.mem_iff.mpr hp)] at hx

lemma inject_stands (force : Bool) {pattern : Option String}
    (hfound : (fs.sourceFiles w.project pattern).Perm files) :
    Does (w.inject pattern force) fs fun results gs =>
      results = (fs.sourceFiles w.project pattern).map (fun p => ((w.stock temp fs p).inject p force).1) ∧
        ∀ p ∈ files, w.Stands temp gs p.names ((w.stock temp fs p).inject p force).2 := by
  have hall := h.injectFiles_stands hg force hfound
  unfold inject
  refine (files_does w pattern).bind ?_
  rintro _ gs ⟨rfl, rfl⟩
  split
  · rename_i hempty
    rw [List.isEmpty_iff.mp hempty] at hall ⊢
    exact does_note_bind _ hall
  · exact does_note_bind _ hall

end Lot

/-- What comes of a file that is instrumented, and how it stands then with it and its copies, is decided by its
content and by those of its copies. With several files, one after another in any order, the same comes of each. -/
theorem injections_independent {files : List Path} (hg : Grounds w temp fs) (h : Lot w temp fs files)
    (force : Bool) :
    (∀ p ∈ files, Does (w.injectFile p force) fs fun i gs => i = ((w.stock temp fs p).inject p force).1 ∧
      w.Stands temp gs p.names ((w.stock temp fs p).inject p force).2) ∧
    (∀ order : List Path, order.Perm files → Does (order.mapM fun p => w.injectFile p force) fs fun results gs =>
      results = order.map (fun p => ((w.stock temp fs p).inject p force).1) ∧
        ∀ p ∈ files, w.Stands temp gs p.names ((w.stock temp fs p).inject p force).2) ∧
    ∀ pattern, (fs.sourceFiles w.project pattern).Perm files →
      Does (w.inject pattern force) fs fun results gs =>
        results = (fs.sourceFiles w.project pattern).map (fun p => ((w.stock temp fs p).inject p force).1) ∧
          ∀ p ∈ files, w.Stands temp gs p.names ((w.stock temp fs p).inject p force).2 := by
  refine ⟨fun p hp => ?_, fun order horder => h.injectFiles_stands hg force horder,
    fun pattern hfound => h.inject_stands hg force hfound⟩
  have hself : fs.resolve (w.located p) = ⟨.single, p.names⟩ := by
    rw [h.path_eq hp]
    exact (h.plot hg hp).spot.resolve_located
  refine ((h.plot hg hp).injectFile_stands (h.stands hg hp) hself force).mono ?_
  rintro i gs ⟨-, hi, hx⟩
  rw [← h.path_eq hp] at hi hx
  exact ⟨hi, hx⟩

/-! A small project of two files. -/

def otherFile : Path := ⟨.single, ["p", "b.py"]⟩

def otherContent : List UInt8 := Text.encodeUtf8 "def g(x):\n    return x + 1\n"

def twoFiles : Files := smallFiles.put otherFile.names (.file otherContent)

/-- What is wrapped in files that are instrumented one after another. -/
def wrappedIn (w : Workspace) (fs : Files) (order : List Path) : Option (List (List String)) :=
  ((order.mapM fun p => w.injectFile p false).run.run ⟨fs, [], .warning⟩).1.toOption.map
    (·.map Injection.wrapped)

lemma two_places {q : Place} (hq : q ≠ []) (hs : (twoFiles.get? q).isSome = true) :
    q = ["p"] ∨ q = ["t"] ∨ q = smallFile.names ∨ q = otherFile.names := by
  have hm := (isSome_get? hq).mp hs
  simpa [twoFiles, smallFiles, Files.put, putEntry, otherFile, smallFile] using hm

lemma two_outside {q : Place} (hs : (twoFiles.get? q).isSome = true) : ¬ smallWorkspace.Inside ["t"] q := by
  rw [Inside, small_sessionPlace, small_localPlace]
  by_cases hq : q = []
  · simp [hq]
  · rcases two_places hq hs with rfl | rfl | rfl | rfl <;> simp [smallFile, otherFile]

lemma two_grounds : Grounds smallWorkspace ["t"] twoFiles := by
  have hb : Proper "b.py" := ⟨⟨by decide, by decide, by decide⟩, by decide⟩
  have hdir : smallFiles.get? ["p"] = some .directory := rfl
  have hsound := small_sound.put hb hdir (e := .file otherContent) (.inr (by decide))
  refine ⟨hsound, rfl, rfl, ?_, small_site.apart, fun q t hin hlink => ?_⟩
  · have houtside : (twoFiles.eraseTree (smallWorkspace.sessionPlace ["t"])).eraseTree
        smallWorkspace.localPlace = twoFiles := by
      rw [small_sessionPlace]
      generalize smallWorkspace.sessionName = name
      rfl
    rw [houtside]
    exact ⟨rfl, rfl⟩
  · exact two_outside (by rw [hlink]; rfl) hin

lemma ways_of_outside (h : ∀ q c, fs.get? q = some (.file c) → ¬ w.Inside temp q) {d : Depot}
    (hd : d ∈ [w.primaryDepot temp, w.localDepot]) {rel r : List String} (hne : r ≠ [])
    (hr : r <+: d.lead ++ rel) (c : List UInt8) : fs.get? (d.place ++ r) ≠ some (.file c) := by
  intro hc
  have hroot := Depot.root_prefix_lead hne hr
  simp only [List.mem_cons, List.not_mem_nil, or_false] at hd
  rcases hd with rfl | rfl
  · exact h _ c hc (.inl hroot)
  · exact h _ c hc (.inr hroot)

lemma two_sources (ha : fs.get? smallFile.names = some (.file smallContent))
    (hb : fs.get? otherFile.names = some (.file otherContent)) : ∀ p ∈ [smallFile, otherFile],
    p.root = .single ∧ ["p"] <+: p.names ∧ p.suffix = ".py" ∧ ∃ c, fs.get? p.names = some (.file c) := by
  simp only [List.mem_cons, List.not_mem_nil, or_false]
  rintro p (rfl | rfl)
  · exact ⟨rfl, ⟨["a.py"], rfl⟩, by decide, smallContent, ha⟩
  · exact ⟨rfl, ⟨["b.py"], rfl⟩, by decide, otherContent, hb⟩

lemma two_directory {q : Place} (hd : twoFiles.get? q = some .directory) : q = [] ∨ q = ["p"] ∨ q = ["t"] := by
  by_cases hq : q = []
  · exact .inl hq
  · rcases two_places hq (by rw [hd]; rfl) with rfl | rfl | rfl | rfl
    · exact .inr (.inl rfl)
    · exact .inr (.inr rfl)
    · cases hd
    · cases hd

lemma two_lot : Lot smallWorkspace ["t"] twoFiles [smallFile, otherFile] := by
  refine ⟨by decide, two_sources rfl rfl, fun r hr => ?_, fun p _ d hd r hne hr => ?_⟩
  · obtain rfl : r = [] := by
      rcases hr with hr | hr <;>
        simpa [smallWorkspace, Depot.dir, Depot.lead, primaryDepot] using two_directory hr
    exact Depot.unmarked_nil
  · exact ways_of_outside (fun q c hc => two_outside (by rw [hc]; rfl)) hd hne hr

/-- In both orders the same is wrapped in the files of the small project. -/
theorem injections_independent_two :
    wrappedIn smallWorkspace twoFiles [smallFile, otherFile] = some [["f"], ["g"]] ∧
      wrappedIn smallWorkspace twoFiles [otherFile, smallFile] = some [["g"], ["f"]] := by
  obtain ⟨-, hall, -⟩ := injections_independent two_grounds two_lot false
  have hwrapped : ∀ order, order.Perm [smallFile, otherFile] → wrappedIn smallWorkspace twoFiles order =
      some (order.map fun p => ((smallWorkspace.stock ["t"] twoFiles p).inject p false).1.wrapped) := by
    intro order horder
    obtain ⟨results, hok, hresults, -⟩ := hall order horder ⟨twoFiles, [], .warning⟩ rfl
    rw [wrappedIn, hok, hresults]
    simp [Except.toOption]
  refine ⟨(hwrapped _ (.refl _)).trans ?_, (hwrapped _ (.swap _ _ _)).trans ?_⟩ <;> decide +kernel

/-- The two files, with a link to the other one in the place of a copy of the one. -/
def linkedFiles : Files :=
  (twoFiles.put smallWorkspace.localPlace .directory).put (smallWorkspace.fallbackPlace smallFile.names)
    (.link otherFile)

/-- A file of which the copy in the project goes where the other copy of the other file does. -/
def nestedFile : Path := ⟨.single, ["p", nestedWorkspace.sessionName, "backup", "b.py"]⟩

def nestedFiles : Files :=
  ⟨[(["p"], .directory), (smallWorkspace.localPlace, .directory), (["p", nestedWorkspace.sessionName], .directory),
    (["p", nestedWorkspace.sessionName, "backup"], .directory), (otherFile.names, .file otherContent),
    (nestedFile.names, .file smallContent)], []⟩

lemma linked_places {q : Place} {e : Entry} (hs : linkedFiles.get? q = some e) :
    twoFiles.get? q = some e ∨ (q = smallWorkspace.localPlace ∧ e = .directory) ∨ ∃ t, e = .link t := by
  rw [linkedFiles, get?_put _ (by decide), get?_put _ (by decide)] at hs
  split at hs
  · exact .inr (.inr ⟨_, (Option.some.inj hs).symm⟩)
  · split at hs
    · exact .inr (.inl ⟨‹_›, (Option.some.inj hs).symm⟩)
    · exact .inl hs

lemma linked_lot : Lot smallWorkspace ["t"] linkedFiles [smallFile, otherFile] := by
  refine ⟨by decide, two_sources rfl rfl, fun r hr => ?_, fun p _ d hd r hne hr => ?_⟩
  · have hlocal : r = [] ∨ r = [localBackupName] := by
      rcases hr with hr | hr <;> rcases linked_places hr with hq | ⟨hq, -⟩ | ⟨t, ht⟩
      · exact .inl (by simpa [smallWorkspace] using two_directory hq)
      · exact .inr (List.append_cancel_left hq)
      · cases ht
      · simpa [smallWorkspace, Depot.dir, Depot.lead, primaryDepot] using two_directory hq
      · simp [smallWorkspace, Depot.dir, Depot.lead, primaryDepot, localPlace] at hq
      · cases ht
    rcases hlocal with rfl | rfl
    · exact Depot.unmarked_nil
    · simpa [Depot.Unmarked] using Plot.localName_plain
  · refine ways_of_outside (fun q c hc => ?_) hd hne hr
    rcases linked_places hc with hq | ⟨-, ht⟩ | ⟨t, ht⟩
    · exact two_outside (by rw [hq]; rfl)
    · cases ht
    · cases ht

lemma nested_lot : Lot nestedWorkspace smallWorkspace.localPlace nestedFiles [otherFile, nestedFile] := by
  have hname : nestedWorkspace.sessionName ≠ localBackupName := by
    intro heq
    refine sessionName_undotted nestedWorkspace ?_
    rw [heq]
    decide
  have hplain := Plot.sessionName_plain nestedWorkspace
  have houtside : ∀ n rest, n ≠ localBackupName →
      ¬ nestedWorkspace.Inside smallWorkspace.localPlace ("p" :: n :: rest) := by
    intro n rest hn hin
    have hp : ["p", localBackupName] <+: "p" :: n :: rest := hin.elim (List.prefix_append _ _).trans id
    simp only [List.cons_prefix_cons, true_and] at hp
    exact hn hp.1.symm
  have hother : otherFile ≠ nestedFile := by
    intro heq
    cases congrArg (fun p : Path => p.names.length) heq
  have hdirectory : ∀ r, r ≠ [] → nestedFiles.get? ("p" :: r) = some .directory →
      r = [localBackupName] ∨ r = [nestedWorkspace.sessionName] ∨ r = [nestedWorkspace.sessionName, "backup"] := by
    intro r hne hr
    simpa [nestedFiles, localPlace, smallWorkspace, hne] using mem_of_get? (by simp) hr
  refine ⟨by simp [hother], ?_, fun r hr => ?_, fun p _ d hd r hne hr => ?_⟩
  · simp only [List.mem_cons, List.not_mem_nil, or_false]
    rintro p (rfl | rfl)
    · exact ⟨rfl, ⟨["b.py"], rfl⟩, by decide, otherContent, by decide +kernel⟩
    · exact ⟨rfl, ⟨[nestedWorkspace.sessionName, "backup", "b.py"], rfl⟩, by decide, smallContent, by decide +kernel⟩
  · by_cases hne : r = []
    · rw [hne]
      exact Depot.unmarked_nil
    · rcases hr with hr | hr
      · have hbackup : isBackupName "backup" = false := by decide
        rcases hdirectory r hne hr with rfl | rfl | rfl
        · simpa [Depot.Unmarked] using Plot.localName_plain
        · simpa [Depot.Unmarked] using hplain
        · simpa [Depot.Unmarked] using hbackup
      · have := hdirectory (localBackupName :: nestedWorkspace.sessionName :: "backup" :: r) (by simp) hr
        simp at this
  · refine ways_of_outside (fun q c hc => ?_) hd hne hr
    have hq : q ≠ [] := by
      rintro rfl
      cases hc
    have hfile : q = otherFile.names ∧ c = otherContent ∨ q = nestedFile.names ∧ c = smallContent := by
      simpa [nestedFiles] using mem_of_get? hq hc
    rcases hfile with ⟨rfl, -⟩ | ⟨rfl, -⟩
    · exact houtside _ _ (by decide)
    · exact houtside _ _ hname

/-- By a link in the place of a copy, or where the two places of copies are not apart, what comes of a file
depends on whether another one was instrumented before. -/
theorem injections_dependent :
    (Lot smallWorkspace ["t"] linkedFiles [smallFile, otherFile] ∧
      wrappedIn smallWorkspace linkedFiles [smallFile] = some [["g"]] ∧
      wrappedIn smallWorkspace linkedFiles [otherFile, smallFile] = some [["g"], []]) ∧
    Lot nestedWorkspace smallWorkspace.localPlace nestedFiles [otherFile, nestedFile] ∧
      wrappedIn nestedWorkspace nestedFiles [nestedFile] = some [["f"]] ∧
      wrappedIn nestedWorkspace nestedFiles [otherFile, nestedFile] = some [["g"], ["g"]] := by
  refine ⟨⟨linked_lot, ?_, ?_⟩, nested_lot, ?_, ?_⟩ <;> decide +kernel

end Workspace

end CallSnapshot
