import CallSnapshot.Proofs.Session.Backup
import CallSnapshot.Session.Injection

/-! What instrumenting a file and restoring files does with their contents and copies. -/

namespace CallSnapshot.Workspace

open Files Acting

/-- The one content is the other instrumented. -/
def Rewrites (bs cs : List UInt8) : Prop :=
  ∃ source text wrapped, Config.textOf bs = .ok source ∧
    Source.instrument source = .ok (some text, wrapped) ∧ cs = Text.encodeUtf8 text

/-- A file is as it was at first, or else instrumented once while there is a copy of it. The copy in
the project is there when the other is. -/
structure Standing.Kept (bs : List UInt8) (s : Standing) : Prop where
  content : s.content = some (.file bs) ∨
    (s.fallback.isSome = true ∧ ∃ cs, Rewrites bs cs ∧ s.content = some (.file cs))
  fallback : s.primary.isSome = true → s.fallback.isSome = true

/-- Without copies a file is as it was at first. -/
def Standing.Guarded (bs : List UInt8) (s : Standing) : Prop :=
  s.primary = none → s.fallback = none → s.content = some (.file bs)

/-- What instrumenting can come to: nothing, or the file as it was at first and no copies, or both
copies and the file instrumented. -/
def Standing.Injected (bs : List UInt8) (s t : Standing) : Prop :=
  t = s ∨ t = ⟨some (.file bs), none, none⟩ ∨
    ∃ cs, Rewrites bs cs ∧ t = ⟨some (.file cs), some (.file bs), some (.file bs)⟩

lemma Standing.Kept.guarded {bs : List UInt8} {s : Standing} (h : s.Kept bs) : s.Guarded bs := by
  intro _ hl
  rcases h.content with hc | ⟨hsome, -⟩
  · exact hc
  · simp [hl] at hsome

lemma Standing.Kept.injected {bs : List UInt8} {s t : Standing} (h : s.Kept bs) (ht : s.Injected bs t) :
    t.Kept bs := by
  rcases ht with rfl | rfl | ⟨cs, hcs, rfl⟩
  · exact h
  · exact ⟨.inl rfl, nofun⟩
  · exact ⟨.inr ⟨rfl, cs, hcs, rfl⟩, fun _ => rfl⟩

lemma Standing.Guarded.injected {bs : List UInt8} {s t : Standing} (h : s.Guarded bs)
    (ht : s.Injected bs t) : t.Guarded bs := by
  rcases ht with rfl | rfl | ⟨cs, -, rfl⟩
  · exact h
  · exact fun _ _ => rfl
  · exact nofun

lemma Standing.Injected.trans {bs : List UInt8} {s t u : Standing} (h : s.Injected bs t)
    (h' : t.Injected bs u) : s.Injected bs u := by
  rcases h' with rfl | h'
  · exact h
  · exact .inr h'

/-- Files and copies in the course of a session. -/
structure Held (w : Workspace) (temp : Place) (start fs : Files) : Prop where
  shape : Shape w temp start fs
  kept : ∀ rel bs, Source w temp start rel bs → (w.standing temp fs rel).Kept bs

variable {w : Workspace} {temp : Place} {start fs gs : Files} {rel : List String} {bs : List UInt8}

/-- The files after some work, which each source stood as `R` allows. -/
structure Course (w : Workspace) (temp : Place) (start : Files)
    (R : List UInt8 → Standing → Standing → Prop) (fs gs : Files) : Prop where
  shape : Shape w temp start gs
  standing : ∀ rel bs, Source w temp start rel bs →
    R bs (w.standing temp fs rel) (w.standing temp gs rel)

lemma Course.works {R : List UInt8 → Standing → Standing → Prop} {gs' : Files}
    (hc : Course w temp start R fs gs) (hrel : Source w temp start rel bs)
    (h : Works w temp start rel gs gs')
    (hR : R bs (w.standing temp fs rel) (w.standing temp gs' rel)) : Course w temp start R fs gs' := by
  refine ⟨h.shape, fun rel' bs' hrel' => ?_⟩
  by_cases hne : rel' = rel
  · subst hne
    obtain rfl : bs = bs' := by simpa using hrel.content.symm.trans hrel'.content
    exact hR
  · rw [h.others rel' bs' hrel' hne]
    exact hc.standing rel' bs' hrel'

lemma Works.injected (h : Works w temp start rel fs gs) (hs : Shape w temp start fs)
    (hrel : Source w temp start rel bs)
    (hR : (w.standing temp fs rel).Injected bs (w.standing temp gs rel)) :
    Course w temp start Standing.Injected fs gs :=
  Course.works ⟨hs, fun _ _ _ => .inl rfl⟩ hrel h hR

lemma Held.course {R : List UInt8 → Standing → Standing → Prop} (hh : Held w temp start fs)
    (hc : Course w temp start R fs gs) (hR : ∀ bs s t, s.Kept bs → R bs s t → t.Kept bs) :
    Held w temp start gs :=
  ⟨hc.shape, fun rel bs hrel => hR bs _ _ (hh.kept rel bs hrel) (hc.standing rel bs hrel)⟩

lemma files_does (w : Workspace) (pattern : Option String) :
    Does (w.files pattern) fs fun found gs => gs = fs ∧ found = fs.sourceFiles w.project pattern :=
  does_files_bind (does_pure ⟨rfl, rfl⟩)

namespace Site

variable (h : Site w temp start)

include h

lemma instrumentFile_ends (hs : Shape w temp start fs) (hrel : Source w temp start rel bs)
    (hc : (w.standing temp fs rel).content = some (.file bs)) :
    Ends (instrumentFile (w.file rel)) fs fun r gs =>
      (∃ wrapped cs, r = .ok (some wrapped) ∧ Rewrites bs cs ∧ Works w temp start rel fs gs ∧
        w.standing temp gs rel = { w.standing temp fs rel with content := some (.file cs) }) ∨
      ((r = .ok none ∨ ∃ f, r = .error f) ∧ gs = fs) := by
  obtain ⟨hentry, hplace⟩ := entry_content hs hrel
  have hread : fs.read (w.file rel) = .ok bs := read_file (hentry.trans hc)
  unfold instrumentFile
  refine (does_ask (Q := fun b gs => b = bs ∧ gs = fs) hread ⟨rfl, rfl⟩).ends_bind ?_
  rintro _ gs ⟨rfl, rfl⟩
  refine ends_settle_bind (fun source hsource => ?_) fun f _ => .inr ⟨.inr ⟨f, rfl⟩, rfl⟩
  refine ends_settle_bind (fun p hp => ?_) fun f _ => .inr ⟨.inr ⟨f, rfl⟩, rfl⟩
  obtain ⟨text, wrapped⟩ := p
  cases text with
  | none => exact ends_pure (.inr ⟨.inl rfl, rfl⟩)
  | some text =>
    have hwrite : gs.write (w.file rel) (Text.encodeUtf8 text) =
        .ok (gs.put (w.project.names ++ rel) (.file (Text.encodeUtf8 text))) :=
      write_file hplace (by rw [show gs.get? _ = _ from hc]; simp) _
    obtain ⟨hworks, hstanding⟩ := h.put_works hs hrel (Text.encodeUtf8 text)
    refine Does.ends_bind (does_change (Q := fun _ gs' => gs' = _) hwrite rfl) ?_
    rintro _ _ rfl
    exact ends_pure (.inl ⟨wrapped, _, rfl, ⟨source, text, wrapped, hsource, hp, rfl⟩, hworks, hstanding⟩)

lemma prepare_does (hs : Shape w temp start fs) (hrel : Source w temp start rel bs)
    (hg : (w.standing temp fs rel).Guarded bs) {had : Bool}
    (hhad : had = ((w.standing temp fs rel).primary.isSome || (w.standing temp fs rel).fallback.isSome)) :
    Does (w.prepare (w.file rel) had) fs fun _ gs => Works w temp start rel fs gs ∧
      w.standing temp gs rel = ⟨some (.file bs), some (.file bs), some (.file bs)⟩ := by
  unfold prepare
  cases had with
  | false =>
    simp only [Bool.false_eq_true, if_false]
    rw [Eq.comm, Bool.or_eq_false_iff, Option.isSome_eq_false_iff, Option.isSome_eq_false_iff,
      Option.isNone_iff_eq_none, Option.isNone_iff_eq_none] at hhad
    have hc : (w.standing temp fs rel).content = some (.file bs) := hg hhad.1 hhad.2
    exact (h.backup_does hs hrel hc).bind fun _ gs hgs => does_pure hgs
  | true =>
    simp only [if_true]
    refine (h.restoreFile_does hs hrel).bind ?_
    rintro _ gs ⟨hworks, rfl, hstanding⟩
    simp only [← hhad, if_true] at hstanding
    have hc : (w.standing temp gs rel).content = some (.file bs) := by rw [hstanding]
    refine (h.backup_does hworks.shape hrel hc).bind fun _ gs' hgs' => does_pure ?_
    exact ⟨hworks.trans hgs'.1, hgs'.2⟩

lemma injectPrepared_does (hs : Shape w temp start fs) (hrel : Source w temp start rel bs)
    (hst : w.standing temp fs rel = ⟨some (.file bs), some (.file bs), some (.file bs)⟩) (s : Standing) :
    Does (w.injectPrepared (w.file rel)) fs fun _ gs => Works w temp start rel fs gs ∧
      s.Injected bs (w.standing temp gs rel) := by
  unfold injectPrepared
  refine (does_outcome (Q := fun r gs => (∀ f, r = .error f → gs = fs) ∧
      ∀ o, r = .ok o → Works w temp start rel fs gs ∧ s.Injected bs (w.standing temp gs rel))
    ((h.instrumentFile_ends hs hrel (by rw [hst])).bind ?_ ?_)).bind ?_
  · rintro o gs (⟨wrapped, cs, ho, hrewrites, hworks, hstanding⟩ | ⟨ho | ⟨f, hf⟩, rfl⟩)
    · cases ho
      refine ends_pure ⟨by simp, fun _ _ => ⟨hworks, .inr (.inr ⟨cs, hrewrites, ?_⟩)⟩⟩
      rw [hstanding, hst]
    · cases ho
      have hdiscard : Does (do
          Acting.info s!"No functions to inject in {w.display (w.file rel)}, skipping."
          w.discard (w.file rel)
          return (none : Option (List String))) gs fun _ gs' =>
            Works w temp start rel gs gs' ∧ s.Injected bs (w.standing temp gs' rel) := by
        refine does_note_bind _ ((h.discard_does hs hrel).bind ?_)
        rintro _ gs' ⟨hworks, hstanding⟩
        refine does_pure ⟨hworks, .inr (.inl ?_)⟩
        rw [hstanding, hst]
      refine Ends.mono hdiscard ?_
      rintro _ gs' ⟨o, rfl, hgs'⟩
      exact ⟨by simp, fun _ _ => hgs'⟩
    · cases hf
  · rintro e gs (⟨wrapped, cs, ho, -⟩ | ⟨-, rfl⟩)
    · cases ho
    · exact ⟨fun _ _ => rfl, by simp⟩
  · rintro (f | o) gs ⟨herror, hok⟩
    · obtain rfl := herror f rfl
      refine does_note_bind _ ((h.restoreFile_does hs hrel).bind ?_)
      rintro _ gs' ⟨hworks, rfl, hstanding⟩
      refine (h.discard_does hworks.shape hrel).bind ?_
      rintro _ gs'' ⟨hworks', hstanding'⟩
      refine does_pure ⟨hworks.trans hworks', .inr (.inl ?_)⟩
      rw [hstanding', hstanding, hst]
      rfl
    · cases o with
      | none => exact does_pure (hok none rfl)
      | some wrapped => exact does_note_bind _ (does_pure (hok _ rfl))

lemma injectFile_works (hs : Shape w temp start fs) (hrel : Source w temp start rel bs)
    (hg : (w.standing temp fs rel).Guarded bs) {file : Path}
    (hfile : fs.resolve (w.located file) = w.file rel) (force : Bool) :
    Does (w.injectFile file force) fs fun _ gs => Works w temp start rel fs gs ∧
      (w.standing temp fs rel).Injected bs (w.standing temp gs rel) := by
  unfold injectFile
  refine does_files_bind ?_
  dsimp only
  rw [hfile]
  refine (h.hasBackup_does hs hrel).bind ?_
  rintro _ gs ⟨rfl, rfl⟩
  split
  · exact does_note_bind _ (does_pure ⟨.refl hs, .inl rfl⟩)
  · refine (h.hasBackup_does hs hrel).bind ?_
    rintro _ gs ⟨rfl, rfl⟩
    refine (h.hasLocalBackup_does hs hrel).bind ?_
    rintro _ gs ⟨rfl, rfl⟩
    refine (does_outcome (h.prepare_does hs hrel hg rfl)).bind ?_
    rintro _ gs' ⟨_, rfl, hworks, hstanding⟩
    refine (h.injectPrepared_does hworks.shape hrel hstanding (w.standing temp gs rel)).mono ?_
    rintro _ gs'' ⟨hworks', hk'⟩
    exact ⟨hworks.trans hworks', hk'⟩

lemma resolve_file (hs : Shape w temp start fs) (hrel : Source w temp start rel bs) :
    fs.resolve (w.located (w.file rel)) = w.file rel := by
  obtain ⟨c, hc⟩ := hs.content rel bs hrel
  have hlocated : w.located (w.file rel) = w.file rel := Path.join_absolute rfl
  have hdown := resolveFrom_down (h.proper_file hrel) (Depot.linkless_file hs.sound hc) linkLimit
    (show (w.project.names ++ rel).length < stepLimit fs (w.project.names ++ rel) by rw [stepLimit]; omega)
  rw [hlocated, resolve]
  exact congrArg (Path.mk .single) hdown

lemma inject_works (hs : Shape w temp start fs) {pattern : Option String} (force : Bool)
    (hfound : ∀ p ∈ fs.sourceFiles w.project pattern, ∃ rel bs, Source w temp start rel bs ∧
      p = w.file rel ∧ (w.standing temp fs rel).Guarded bs) :
    Does (w.inject pattern force) fs fun _ gs => Course w temp start Standing.Injected fs gs := by
  unfold inject
  refine (files_does w pattern).bind ?_
  rintro _ gs ⟨rfl, rfl⟩
  have hstart : Course w temp start Standing.Injected gs gs := ⟨hs, fun _ _ _ => .inl rfl⟩
  split
  · exact does_note_bind _ (does_pure hstart)
  · refine does_note_bind _ ?_
    refine does_mapM (I := fun _ _ fs => Course w temp start Standing.Injected gs fs) ?_ hstart
    intro pre p post _ fs hp hfs
    obtain ⟨rel, bs, hrel, rfl, hg⟩ := hfound p (by rw [hp]; simp)
    have hg' := hg.injected (hfs.standing rel bs hrel)
    refine (h.injectFile_works hfs.shape hrel hg' (h.resolve_file hfs.shape hrel) force).mono ?_
    rintro _ gs' ⟨hworks, hinjected⟩
    exact hfs.works hrel hworks ((hfs.standing rel bs hrel).trans hinjected)

end Site

end CallSnapshot.Workspace
