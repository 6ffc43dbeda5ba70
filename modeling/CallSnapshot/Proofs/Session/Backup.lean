import CallSnapshot.Proofs.Session.Site

/-!
What making, restoring and removing the copies of one file does. Of the other files, neither the
content nor the copies change.
-/

namespace CallSnapshot.Workspace

open Files Acting

structure Standing where
  content : Option Entry
  primary : Option Entry
  fallback : Option Entry

def standing (w : Workspace) (temp : Place) (fs : Files) (rel : List String) : Standing :=
  ⟨fs.get? (w.project.names ++ rel), fs.get? ((w.primaryDepot temp).copyPlace rel),
    fs.get? (w.localDepot.copyPlace rel)⟩

structure Works (w : Workspace) (temp : Place) (start : Files) (rel : List String) (fs gs : Files) :
    Prop where
  shape : Shape w temp start gs
  others : ∀ rel' bs, Source w temp start rel' bs → rel' ≠ rel →
    w.standing temp gs rel' = w.standing temp fs rel'

variable {w : Workspace} {temp : Place} {start fs gs : Files} {rel : List String} {bs : List UInt8}

lemma Works.trans {gs' : Files} (h : Works w temp start rel fs gs)
    (h' : Works w temp start rel gs gs') : Works w temp start rel fs gs' :=
  ⟨h'.shape, fun rel' bs hs hne => (h'.others rel' bs hs hne).trans (h.others rel' bs hs hne)⟩

lemma Works.refl (h : Shape w temp start fs) : Works w temp start rel fs fs :=
  ⟨h, fun _ _ _ _ => rfl⟩

lemma Shape.next (hs : Shape w temp start fs) (hsound : Sound gs) (hc : gs.current = fs.current)
    (hq : ∀ q, ¬ w.sessionPlace temp <+: q → ¬ w.localPlace <+: q → gs.get? q = fs.get? q)
    (hp : (w.primaryDepot temp).Holds (Source w temp start) gs)
    (hl : w.localDepot.Holds (Source w temp start) gs) : Shape w temp start gs := by
  refine ⟨hsound, hc.trans hs.current, fun q h₁ h₂ => ?_, fun rel bs hrel => ?_, hp, hl⟩
  · rw [hq q h₁ h₂]
    exact hs.outside q h₁ h₂
  · rw [hq _ hrel.session hrel.backups]
    exact hs.content rel bs hrel

namespace Site

variable (h : Site w temp start)

include h

lemma disjoint {q : Place} (hp : w.sessionPlace temp <+: q) : ¬ w.localPlace <+: q :=
  not_prefix_of_apart h.apart hp

lemma shape_start : Shape w temp start start := by
  refine ⟨h.sound, rfl, fun _ _ _ => .inl rfl, fun rel bs hs => ⟨bs, hs.content⟩, ?_, ?_⟩
  · have hdir : (w.primaryDepot temp).dir = w.sessionPlace temp ++ ["backup"] := by
      simp [Depot.dir, Depot.lead, primaryDepot, sessionPlace]
    refine ⟨fun r hr hp => ?_, fun r e he => ?_⟩
    · change r <+: [w.sessionName, "backup"] at hp
      obtain ⟨n, r, rfl⟩ := List.exists_cons_of_ne_nil hr
      obtain ⟨rfl, hp'⟩ := List.cons_prefix_cons.mp hp
      cases r with
      | nil => exact h.session
      | cons n r =>
        obtain ⟨rfl, hnil⟩ := List.cons_prefix_cons.mp hp'
        obtain rfl := List.prefix_nil.mp hnil
        exact h.noCopies _ (.inl ⟨[], by simp [primaryDepot, sessionPlace]⟩)
    · rw [hdir] at he
      rcases h.noCopies _ (.inl (List.prefix_append _ _)) with h' | h' <;> rw [h'] at he
      · cases he
      · cases he
        refine .inl ⟨rfl, fun n hn => ?_⟩
        obtain ⟨r, rfl⟩ := List.getLast?_eq_some_iff.mp hn
        rw [← List.append_assoc] at h'
        exact h.unmarked _ n (.inr (List.prefix_append _ _)) h'
  · have hdir : w.localDepot.dir = w.localPlace := rfl
    refine ⟨fun r hr hp => ?_, fun r e he => ?_⟩
    · change r <+: [localBackupName] at hp
      obtain ⟨n, r, rfl⟩ := List.exists_cons_of_ne_nil hr
      obtain ⟨rfl, hp'⟩ := List.cons_prefix_cons.mp hp
      obtain rfl := List.prefix_nil.mp hp'
      exact h.noCopies _ (.inr (List.prefix_refl _))
    · rw [hdir] at he
      rcases h.noCopies _ (.inr (List.prefix_append _ _)) with h' | h' <;> rw [h'] at he
      · cases he
      · cases he
        refine .inl ⟨rfl, fun n hn => ?_⟩
        obtain ⟨r, rfl⟩ := List.getLast?_eq_some_iff.mp hn
        rw [← List.append_assoc] at h'
        refine h.unmarked _ n (.inl ?_) h'
        rw [localPlace, List.append_assoc]
        exact List.prefix_append _ _

section Primary

variable (hs : Shape w temp start fs) (hrel : Source w temp start rel bs)
  (hchange : (w.primaryDepot temp).Change rel fs gs)

include hchange

lemma primary_elsewhere {q : Place} (hq : w.localPlace <+: q) : gs.get? q = fs.get? q :=
  hchange.outside q fun hp => h.disjoint hp hq

include hs hrel

lemma primary_works
    (hcopy : gs.get? ((w.primaryDepot temp).copyPlace rel) = none ∨
      gs.get? ((w.primaryDepot temp).copyPlace rel) = some (.file bs)) :
    Works w temp start rel fs gs ∧
      w.standing temp gs rel =
        { w.standing temp fs rel with primary := gs.get? ((w.primaryDepot temp).copyPlace rel) } := by
  have hlocal : ∀ r, gs.get? (w.localDepot.copyPlace r) = fs.get? (w.localDepot.copyPlace r) :=
    fun r => h.primary_elsewhere hchange (List.prefix_append _ _)
  have hcontent : ∀ r c, Source w temp start r c →
      gs.get? (w.project.names ++ r) = fs.get? (w.project.names ++ r) :=
    fun r c hr => hchange.outside _ hr.session
  refine ⟨⟨hs.next hchange.sound hchange.current (fun q hq _ => hchange.outside q hq)
    (hchange.holds hs.primary hrel hcopy)
    (hs.fallback.congr fun q hq => h.primary_elsewhere hchange hq), fun r c hr hne => ?_⟩, ?_⟩
  · simp only [standing, hlocal, hcontent r c hr, hchange.copy_other h.sources hrel hr hne]
  · simp only [standing, hlocal, hcontent rel bs hrel]

end Primary

section Fallback

variable (hs : Shape w temp start fs) (hrel : Source w temp start rel bs)
  (hchange : w.localDepot.Change rel fs gs)

include hchange

lemma fallback_elsewhere {q : Place} (hq : w.sessionPlace temp <+: q) : gs.get? q = fs.get? q :=
  hchange.outside q fun hl => h.disjoint hq hl

include hs hrel

lemma fallback_works
    (hcopy : gs.get? (w.localDepot.copyPlace rel) = none ∨
      gs.get? (w.localDepot.copyPlace rel) = some (.file bs)) :
    Works w temp start rel fs gs ∧
      w.standing temp gs rel =
        { w.standing temp fs rel with fallback := gs.get? (w.localDepot.copyPlace rel) } := by
  have hprimary : ∀ r, gs.get? ((w.primaryDepot temp).copyPlace r) =
      fs.get? ((w.primaryDepot temp).copyPlace r) := fun r =>
    h.fallback_elsewhere hchange
      ((w.primaryDepot temp).root_prefix_dir.trans (List.prefix_append _ _))
  have hcontent : ∀ r c, Source w temp start r c →
      gs.get? (w.project.names ++ r) = fs.get? (w.project.names ++ r) :=
    fun r c hr => hchange.outside _ hr.backups
  refine ⟨⟨hs.next hchange.sound hchange.current (fun q _ hq => hchange.outside q hq)
    (hs.primary.congr fun q hq => h.fallback_elsewhere hchange hq)
    (hchange.holds hs.fallback hrel hcopy), fun r c hr hne => ?_⟩, ?_⟩
  · simp only [standing, hprimary, hcontent r c hr, hchange.copy_other h.sources hrel hr hne]
  · simp only [standing, hprimary, hcontent rel bs hrel]

end Fallback

lemma put_works (hs : Shape w temp start fs) (hrel : Source w temp start rel bs) (c : List UInt8) :
    Works w temp start rel fs (fs.put (w.project.names ++ rel) (.file c)) ∧
      w.standing temp (fs.put (w.project.names ++ rel) (.file c)) rel =
        { w.standing temp fs rel with content := some (.file c) } := by
  have hne : rel ≠ [] := h.sources.ne_nil hrel
  have hget := fun q => get?_put fs (p := w.project.names ++ rel) (by simp [hne]) (.file c) q
  obtain ⟨c₀, hc₀⟩ := hs.content rel bs hrel
  have hsound : Sound (fs.put (w.project.names ++ rel) (.file c)) := by
    have hplace : w.project.names ++ rel = w.project.names ++ rel.dropLast ++ [rel.getLast hne] := by
      rw [List.append_assoc, List.dropLast_append_getLast]
    rw [hplace] at hc₀ ⊢
    exact hs.sound.put (h.sources.proper hrel _ (List.getLast_mem hne))
      (hs.sound.closed _ _ (by rw [hc₀]; rfl)) (.inr (by rw [hc₀]; simp))
  have hsession : ∀ q, w.sessionPlace temp <+: q → q ≠ w.project.names ++ rel := by
    rintro _ hq rfl
    exact hrel.session hq
  have hlocal : ∀ q, w.localPlace <+: q → q ≠ w.project.names ++ rel := by
    rintro _ hq rfl
    exact hrel.backups hq
  have hprimary : ∀ r, (w.primaryDepot temp).copyPlace r ≠ w.project.names ++ rel := fun r =>
    hsession _ ((w.primaryDepot temp).root_prefix_dir.trans (List.prefix_append _ _))
  have hfallback : ∀ r, w.localDepot.copyPlace r ≠ w.project.names ++ rel := fun r =>
    hlocal _ (List.prefix_append _ _)
  refine ⟨⟨⟨hsound, hs.current, fun q h₁ h₂ => ?_, fun r cs hr => ?_, ?_, ?_⟩, fun r cs hr hr' => ?_⟩, ?_⟩
  · rw [hget]
    split
    · rename_i hq
      exact .inr ⟨rel, bs, c, hrel, hq, rfl⟩
    · exact hs.outside q h₁ h₂
  · rw [hget]
    split
    · exact ⟨c, rfl⟩
    · exact hs.content r cs hr
  · exact hs.primary.congr fun q hq => by rw [hget, if_neg (hsession q hq)]
  · exact hs.fallback.congr fun q hq => by rw [hget, if_neg (hlocal q hq)]
  · simp only [standing, hget, hprimary, hfallback, List.append_cancel_left_eq, hr', if_false]
  · simp only [standing, hget, hprimary, hfallback, if_true, if_false]

variable (hs : Shape w temp start fs) (hrel : Source w temp start rel bs)

include hs hrel

lemma standing_primary : (w.standing temp fs rel).primary = none ∨
    (w.standing temp fs rel).primary = some (.file bs) :=
  Depot.copyPlace_entry h.sources hs.primary hrel

lemma standing_fallback : (w.standing temp fs rel).fallback = none ∨
    (w.standing temp fs rel).fallback = some (.file bs) :=
  Depot.copyPlace_entry h.sources hs.fallback hrel

lemma entry_primary :
    fs.entryAt? (w.primaryBackup (w.file rel)) = (w.standing temp fs rel).primary := by
  rw [primaryBackup_file h.root (h.proper_file hrel) temp]
  exact Depot.entryAt?_copy h.sources hs.primary hrel (h.reached_primary hs) hs.sound

lemma entry_fallback :
    fs.entryAt? (w.localBackup (w.file rel)) = (w.standing temp fs rel).fallback := by
  rw [localBackup_file h.root (h.proper_file hrel)]
  exact Depot.entryAt?_copy h.sources hs.fallback hrel (h.reached_fallback hs) hs.sound

omit h in
lemma entry_content : fs.entryAt? (w.file rel) = (w.standing temp fs rel).content ∧
    fs.placeOf (w.file rel) = .ok (w.project.names ++ rel) := by
  obtain ⟨c, hc⟩ := hs.content rel bs hrel
  obtain ⟨h₁, h₂⟩ := Depot.entryAt?_file hs.sound hc
  exact ⟨h₁.trans hc.symm, h₂⟩

lemma backup_does (hc : (w.standing temp fs rel).content = some (.file bs)) :
    Does (w.backup (w.file rel)) fs fun _ gs => Works w temp start rel fs gs ∧
      w.standing temp gs rel = ⟨some (.file bs), some (.file bs), some (.file bs)⟩ := by
  have hlocated : w.located (w.file rel) = w.file rel := Path.join_absolute rfl
  unfold backup
  dsimp only
  rw [hlocated, primaryBackup_file h.root (h.proper_file hrel) temp,
    localBackup_file h.root (h.proper_file hrel)]
  refine (Depot.copyInto_does h.sources hs.primary (h.reached_primary hs) hs.sound hrel hc).bind ?_
  rintro _ gs ⟨hchange, hcopy⟩
  obtain ⟨hworks, hstanding⟩ := h.primary_works hs hrel hchange (.inr hcopy)
  have hc' : gs.get? (w.project.names ++ rel) = some (.file bs) :=
    (congrArg Standing.content hstanding).trans hc
  refine (Depot.copyInto_does h.sources hworks.shape.fallback (h.reached_fallback hworks.shape)
    hworks.shape.sound hrel hc').bind ?_
  rintro _ gs' ⟨hchange', hcopy'⟩
  obtain ⟨hworks', hstanding'⟩ := h.fallback_works hworks.shape hrel hchange' (.inr hcopy')
  refine does_note_bind _ (does_pure ⟨hworks.trans hworks', ?_⟩)
  simp only [hstanding', hstanding, hcopy, hcopy', hc]

lemma copy_does {source : Path} (hsource : fs.entryAt? source = some (.file bs)) :
    Does (copyFile source (w.file rel)) fs fun _ gs => Works w temp start rel fs gs ∧
      w.standing temp gs rel = { w.standing temp fs rel with content := some (.file bs) } := by
  obtain ⟨c, hc⟩ := hs.content rel bs hrel
  have hcopy := copy_file hsource (entry_content hs hrel).2 (by simp [hc])
  refine (Depot.copyFile_does hcopy).mono ?_
  rintro _ _ rfl
  exact h.put_works hs hrel bs

lemma hasBackup_does : Does (w.hasBackup (w.file rel)) fs fun b gs =>
    gs = fs ∧ b = (w.standing temp fs rel).primary.isSome := by
  refine does_files_bind (does_pure ⟨rfl, ?_⟩)
  rw [hasEntry, h.entry_primary hs hrel]

lemma hasLocalBackup_does : Does (w.hasLocalBackup (w.file rel)) fs fun b gs =>
    gs = fs ∧ b = (w.standing temp fs rel).fallback.isSome := by
  refine does_files_bind (does_pure ⟨rfl, ?_⟩)
  rw [hasEntry, h.entry_fallback hs hrel]

lemma restoreFile_does :
    Does (w.restoreFile (w.file rel)) fs fun restored gs => Works w temp start rel fs gs ∧
      restored = ((w.standing temp fs rel).primary.isSome || (w.standing temp fs rel).fallback.isSome) ∧
      w.standing temp gs rel =
        if restored then { w.standing temp fs rel with content := some (.file bs) }
        else w.standing temp fs rel := by
  have hlocated : w.located (w.file rel) = w.file rel := Path.join_absolute rfl
  unfold restoreFile
  dsimp only
  rw [hlocated]
  refine (h.hasBackup_does hs hrel).bind ?_
  rintro _ _ ⟨rfl, rfl⟩
  rcases h.standing_primary hs hrel with hp | hp
  · simp only [hp, Option.isSome_none, Bool.false_eq_true, if_false, Bool.false_or]
    refine (h.hasLocalBackup_does hs hrel).bind ?_
    rintro _ _ ⟨rfl, rfl⟩
    rcases h.standing_fallback hs hrel with hl | hl
    · simp only [hl, Option.isSome_none, Bool.false_eq_true, if_false]
      exact does_note_bind _ (does_pure ⟨.refl hs, rfl, rfl⟩)
    · simp only [hl, Option.isSome_some, if_true]
      refine does_note_bind _ ((h.copy_does hs hrel ((h.entry_fallback hs hrel).trans hl)).bind ?_)
      rintro _ gs ⟨hworks, hstanding⟩
      exact does_pure ⟨hworks, rfl, by simpa [hp, hl] using hstanding⟩
  · simp only [hp, Option.isSome_some, if_true, Bool.true_or]
    refine (h.copy_does hs hrel ((h.entry_primary hs hrel).trans hp)).bind ?_
    rintro _ gs ⟨hworks, hstanding⟩
    exact does_pure ⟨hworks, rfl, by simpa [hp] using hstanding⟩

lemma discard_does : Does (w.discard (w.file rel)) fs fun _ gs => Works w temp start rel fs gs ∧
    w.standing temp gs rel = ⟨(w.standing temp fs rel).content, none, none⟩ := by
  have hdir : w.primaryDir = (w.primaryDepot temp).top := primaryDir_eq w
  have hlocal : w.localDir = w.localDepot.top := rfl
  unfold discard
  rw [primaryBackup_file h.root (h.proper_file hrel) temp, localBackup_file h.root (h.proper_file hrel),
    hdir, hlocal]
  refine (Depot.discardCopy_does h.sources hs.primary (h.reached_primary hs) hs.sound hrel).bind ?_
  rintro _ gs ⟨hchange, hcopy⟩
  obtain ⟨hworks, hstanding⟩ := h.primary_works hs hrel hchange (.inl hcopy)
  refine (Depot.discardCopy_does h.sources hworks.shape.fallback
    (h.reached_fallback hworks.shape) hworks.shape.sound hrel).mono ?_
  rintro _ gs' ⟨hchange', hcopy'⟩
  obtain ⟨hworks', hstanding'⟩ := h.fallback_works hworks.shape hrel hchange' (.inl hcopy')
  refine ⟨hworks.trans hworks', ?_⟩
  rw [hstanding', hstanding, hcopy, hcopy']

end Site

end CallSnapshot.Workspace
