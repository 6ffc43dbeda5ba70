import CallSnapshot.Proofs.Session.Injection

/-! What restoring files does: some of them, or all together with what is kept of the session. -/

namespace CallSnapshot

open Files Acting Workspace

namespace Path

lemma mem_insertSorted {qs : List Path} {p q : Path} : p ∈ insertSorted q qs ↔ p = q ∨ p ∈ qs := by
  induction qs with
  | nil => simp [insertSorted]
  | cons a qs ih =>
    unfold insertSorted
    split
    · rename_i h
      simp [beq_iff_eq.mp h]
    · split
      · simp
      · simp only [List.mem_cons, ih]
        exact or_left_comm

lemma mem_sorted {ps : List Path} {p : Path} : p ∈ sorted ps ↔ p ∈ ps := by
  have hfold : ∀ found, p ∈ ps.foldl (fun found p => insertSorted p found) found ↔ p ∈ found ∨ p ∈ ps := by
    induction ps with
    | nil => simp
    | cons q ps ih =>
      intro found
      rw [List.foldl_cons, ih, mem_insertSorted, List.mem_cons, or_comm (a := p = q), or_assoc]
  simpa [sorted] using hfold []

end Path

namespace Files

variable {fs gs : Files} {b : Path} {dir : Place} {n : String}

/-- The tree without all that is at a place or below it. -/
structure Cut (place : Place) (fs gs : Files) : Prop where
  sound : Sound gs
  current : gs.current = fs.current
  entries : ∀ q, gs.get? q = if place <+: q then none else fs.get? q

lemma Cut.of_none {place : Place} (hs : Sound fs) (h : fs.get? place = none) : Cut place fs fs := by
  refine ⟨hs, rfl, fun q => ?_⟩
  split
  · rename_i hp
    obtain ⟨r, rfl⟩ := hp
    by_cases hr : r = []
    · simpa [hr] using h
    · exact hs.get?_below_none hr (by simp [h])
  · rfl

section Child

variable (h : Leads fs b dir) (hs : Sound fs) (hn : Proper n)
  (hd : fs.get? (dir ++ [n]) = none ∨ fs.get? (dir ++ [n]) = some .directory)

include hd

lemma linkless_child : Linkless fs dir [n] := by
  intro r hr hp t ht
  obtain ⟨m, r, rfl⟩ := List.exists_cons_of_ne_nil hr
  obtain ⟨rfl, hnil⟩ := List.cons_prefix_cons.mp hp
  obtain rfl := List.prefix_nil.mp hnil
  rcases hd with hd | hd <;> simp [ht] at hd

include h hs hn

lemma hasEntry_child : fs.hasEntry (down b [n]) = (fs.get? (dir ++ [n])).isSome := by
  rw [hasEntry, h.entryAt?_down (by simp [hn.2]) (linkless_child hd) hs]

lemma cut_removeTree : Cut (dir ++ [n]) fs (fs.removeTree (down b [n])) := by
  have hown := h.ownPlaceOf_down (by simp [hn.2]) (linkless_child hd) hs (by simp)
    (by simpa using h.directory)
  rcases hd with hd | hd
  · have hsame : fs.removeTree (down b [n]) = fs := by simp [removeTree, hown, hd]
    rw [hsame]
    exact .of_none hs hd
  · rw [removeTree_directory hown hd]
    exact ⟨hs.eraseTree (by simp), rfl, fun q => get?_eraseTree _ (by simp) q⟩

lemma removeAll_does : Does (removeAll (down b [n])) fs fun _ gs => Cut (dir ++ [n]) fs gs := by
  have hhas := hasEntry_child h hs hn hd
  have hcut := cut_removeTree h hs hn hd
  unfold removeAll
  refine does_files_bind ?_
  rw [hhas]
  rcases hd with hd | hd
  · simp only [hd, Option.isSome_none, Bool.false_eq_true, if_false]
    exact does_pure (.of_none hs hd)
  · simp only [hd, Option.isSome_some, if_true]
    have hmodify : Does (modify fun s => { s with files := s.files.removeTree (down b [n]) } : Acting Unit)
        fs fun _ gs => Cut (dir ++ [n]) fs gs := by
      rintro s rfl
      exact ⟨(), rfl, hcut⟩
    exact hmodify.bind fun _ gs hgs => does_pure hgs

end Child

end Files

lemma Depot.Holds.cut {d : Depot} {S : List String → List UInt8 → Prop} {fs gs : Files}
    (h : Cut d.root fs gs) : d.Holds S gs := by
  have hnone : ∀ q, d.root <+: q → gs.get? q = none := fun q hq => by rw [h.entries, if_pos hq]
  refine ⟨fun r hr hp => .inl (hnone _ ?_), fun r e he => ?_⟩
  · obtain ⟨n, r, rfl⟩ := List.exists_cons_of_ne_nil hr
    obtain ⟨rfl, -⟩ := List.cons_prefix_cons.mp hp
    exact ⟨r, by simp [Depot.root]⟩
  · rw [hnone _ (d.root_prefix_dir.trans (List.prefix_append _ _))] at he
    cases he

namespace Workspace

variable {w : Workspace} {temp : Place} {start fs gs : Files} {rel : List String} {bs : List UInt8}

lemma Shape.session_entry (hs : Shape w temp start fs) :
    fs.get? (w.sessionPlace temp) = none ∨ fs.get? (w.sessionPlace temp) = some .directory :=
  hs.primary.way [w.sessionName] (by simp) ⟨["backup"], rfl⟩

lemma Shape.local_entry (hs : Shape w temp start fs) :
    fs.get? w.localPlace = none ∨ fs.get? w.localPlace = some .directory :=
  hs.fallback.way [localBackupName] (by simp) (List.prefix_refl _)

namespace Site

variable (h : Site w temp start)

include h

lemma cut_session (hs : Shape w temp start fs) (hcut : Cut (w.sessionPlace temp) fs gs) :
    Shape w temp start gs ∧ ∀ rel bs, Source w temp start rel bs →
      w.standing temp gs rel = { w.standing temp fs rel with primary := none } := by
  have helse : ∀ q, ¬ w.sessionPlace temp <+: q → gs.get? q = fs.get? q := fun q hq => by
    rw [hcut.entries, if_neg hq]
  have hlocal : ∀ q, w.localPlace <+: q → gs.get? q = fs.get? q := fun q hq =>
    helse q fun hp => h.disjoint hp hq
  refine ⟨hs.next hcut.sound hcut.current (fun q hq _ => helse q hq) (Depot.Holds.cut hcut)
    (hs.fallback.congr hlocal), fun rel bs hrel => ?_⟩
  have hprimary : gs.get? ((w.primaryDepot temp).copyPlace rel) = none := by
    rw [hcut.entries, if_pos]
    exact (w.primaryDepot temp).root_prefix_dir.trans (List.prefix_append _ _)
  have hfallback : gs.get? (w.localDepot.copyPlace rel) = fs.get? (w.localDepot.copyPlace rel) :=
    hlocal _ (List.prefix_append _ _)
  simp only [standing, hprimary, hfallback, helse _ hrel.session]

lemma cut_local (hs : Shape w temp start fs) (hcut : Cut w.localPlace fs gs) :
    Shape w temp start gs ∧ ∀ rel bs, Source w temp start rel bs →
      w.standing temp gs rel = { w.standing temp fs rel with fallback := none } := by
  have helse : ∀ q, ¬ w.localPlace <+: q → gs.get? q = fs.get? q := fun q hq => by
    rw [hcut.entries, if_neg hq]
  have hsession : ∀ q, w.sessionPlace temp <+: q → gs.get? q = fs.get? q := fun q hq =>
    helse q (h.disjoint hq)
  refine ⟨hs.next hcut.sound hcut.current (fun q _ hq => helse q hq) (hs.primary.congr hsession)
    (Depot.Holds.cut hcut), fun rel bs hrel => ?_⟩
  have hfallback : gs.get? (w.localDepot.copyPlace rel) = none := by
    rw [hcut.entries, if_pos]
    exact List.prefix_append _ _
  have hprimary : gs.get? ((w.primaryDepot temp).copyPlace rel) =
      fs.get? ((w.primaryDepot temp).copyPlace rel) :=
    hsession _ ((w.primaryDepot temp).root_prefix_dir.trans (List.prefix_append _ _))
  simp only [standing, hprimary, hfallback, helse _ hrel.backups]

lemma leads_project (hs : Shape w temp start fs) : Leads fs w.project w.project.names :=
  (h.reached_fallback hs).here hs.sound

lemma leads_temp (hs : Shape w temp start fs) : Leads fs w.temp temp :=
  (h.reached_primary hs).here hs.sound

lemma mem_localCopies (hs : Shape w temp start fs) {p : Path} :
    p ∈ w.localCopies fs ↔ ∃ rel bs, Source w temp start rel bs ∧
      (w.standing temp fs rel).fallback.isSome = true ∧
      p = ⟨w.localDir.root, w.localDir.names ++ Path.extend rel backupSuffix⟩ := by
  have hplace : fs.placeOf w.localDir = .ok w.localPlace :=
    (h.leads_project hs).placeOf_down (show ∀ n ∈ [localBackupName], n ≠ ".." by decide)
      (linkless_child hs.local_entry) hs.sound fun _ => by simpa using h.project_directory hs
  unfold localCopies
  rw [hplace]
  simp only [List.mem_filterMap]
  constructor
  · rintro ⟨⟨place, e⟩, hm, hp⟩
    cases hbelow : Path.below? w.localPlace place with
    | none => simp [hbelow] at hp
    | some names =>
      obtain rfl := Path.below?_eq_some.mp hbelow
      cases names with
      | nil => simp only [hbelow, reduceCtorEq] at hp
      | cons n names =>
        simp only [hbelow] at hp
        split at hp
        · rename_i hname
          have hget := (hs.sound.entry_iff (by simp [localPlace])).mpr hm
          rcases hs.fallback.copies (n :: names) e hget with ⟨-, hu⟩ | ⟨rel, bs, hrel, hext, -⟩
          · have hlast : (n :: names).getLast? = some ((n :: names).getLastD "") := by
              rw [List.getLastD_eq_getLast?, List.getLast?_cons]
              rfl
            rw [hu _ hlast] at hname
            cases hname
          · refine ⟨rel, bs, hrel, ?_, ?_⟩
            · change (fs.get? (w.localPlace ++ Path.extend rel backupSuffix)).isSome = true
              rw [← hext, hget]
              rfl
            · rw [← hext]
              exact (Option.some.inj hp).symm
        · cases hp
  · rintro ⟨rel, bs, hrel, hsome, rfl⟩
    obtain ⟨e, he⟩ := Option.isSome_iff_exists.mp hsome
    have hm := (hs.sound.entry_iff (q := w.localPlace ++ Path.extend rel backupSuffix)
      (by simp [localPlace])).mp he
    refine ⟨_, hm, ?_⟩
    have hlast : isBackupName ((Path.extend rel backupSuffix).getLastD "") = true := by
      rw [Path.extend_eq (h.sources.ne_nil hrel), List.getLastD_concat]
      exact isBackupName_extend _
    obtain ⟨n, names, hn⟩ := List.exists_cons_of_ne_nil (Path.extend_ne_nil rel backupSuffix)
    rw [hn] at hlast ⊢
    simp only [Path.below?_eq_some.mpr rfl, hlast, if_true]

lemma mem_backedUp (hs : Shape w temp start fs) {p : Path} :
    p ∈ Path.sorted ((w.localCopies fs).filterMap w.originalOf?) ↔ ∃ rel bs,
      Source w temp start rel bs ∧ (w.standing temp fs rel).fallback.isSome = true ∧ p = w.file rel := by
  have original : ∀ {rel bs}, Source w temp start rel bs →
      w.originalOf? ⟨w.localDir.root, w.localDir.names ++ Path.extend rel backupSuffix⟩ =
        some (w.file rel) := fun hrel => by
    rw [originalOf?_copy fun n hn => (h.sources.proper hrel n hn).1, down, h.root, file]
  rw [Path.mem_sorted, List.mem_filterMap]
  simp only [h.mem_localCopies hs]
  constructor
  · rintro ⟨_, ⟨rel, bs, hrel, hsome, rfl⟩, hp⟩
    rw [original hrel] at hp
    exact ⟨rel, bs, hrel, hsome, (Option.some.inj hp).symm⟩
  · rintro ⟨rel, bs, hrel, hsome, rfl⟩
    exact ⟨_, ⟨rel, bs, hrel, hsome, rfl⟩, original hrel⟩

lemma restoreNoted_does (hs : Shape w temp start fs) (hrel : Source w temp start rel bs)
    (hcopy : ((w.standing temp fs rel).primary.isSome || (w.standing temp fs rel).fallback.isSome) = true) :
    Does (w.restoreNoted (w.file rel)) fs fun ps gs => ps = [w.file rel] ∧
      Works w temp start rel fs gs ∧
      w.standing temp gs rel = { w.standing temp fs rel with content := some (.file bs) } := by
  unfold restoreNoted
  refine (h.restoreFile_does hs hrel).bind ?_
  rintro _ gs ⟨hworks, rfl, hstanding⟩
  simp only [hcopy, if_true] at hstanding ⊢
  exact does_note_bind _ (does_pure ⟨rfl, hworks, hstanding⟩)

end Site

/-- These files are as they were at first, with the copies there were; the others are as they were. -/
structure Restored (w : Workspace) (temp : Place) (start fs : Files) (done : List Path) (gs : Files) :
    Prop where
  shape : Shape w temp start gs
  standing : ∀ rel bs, Source w temp start rel bs → w.standing temp gs rel =
    if w.file rel ∈ done then { w.standing temp fs rel with content := some (.file bs) }
    else w.standing temp fs rel

/-- What restoring some files can come to: a file as it is, or as it was at first with the copies of
it or without them. -/
def Standing.Freed (bs : List UInt8) (s t : Standing) : Prop :=
  t = s ∨ t = { s with content := some (.file bs) } ∨ t = ⟨some (.file bs), none, none⟩

lemma Standing.Kept.freed {s t : Standing} (h : s.Kept bs) (ht : s.Freed bs t) : t.Kept bs := by
  rcases ht with rfl | rfl | rfl
  · exact h
  · exact ⟨.inl rfl, h.fallback⟩
  · exact ⟨.inl rfl, nofun⟩

lemma Standing.Guarded.freed {s t : Standing} (h : s.Guarded bs) (ht : s.Freed bs t) :
    t.Guarded bs := by
  rcases ht with rfl | rfl | rfl
  · exact h
  · exact fun _ _ => rfl
  · exact fun _ _ => rfl

lemma file_injective {rel rel' : List String} (h : w.file rel = w.file rel') : rel = rel' := by
  have := congrArg Path.names h
  exact List.append_cancel_left this

lemma Restored.snoc {done : List Path} {gs gs' : Files} (hr : Restored w temp start fs done gs)
    (hrel : Source w temp start rel bs) (hworks : Works w temp start rel gs gs')
    (hstanding : w.standing temp gs' rel = { w.standing temp gs rel with content := some (.file bs) }) :
    Restored w temp start fs (done ++ [w.file rel]) gs' := by
  refine ⟨hworks.shape, fun rel' bs' hrel' => ?_⟩
  have hmem : w.file rel' ∈ done ++ [w.file rel] ↔ w.file rel' ∈ done ∨ rel' = rel := by
    rw [List.mem_append, List.mem_singleton]
    exact or_congr_right ⟨file_injective, congrArg w.file⟩
  by_cases hne : rel' = rel
  · subst hne
    obtain rfl : bs = bs' := by simpa using hrel.content.symm.trans hrel'.content
    rw [if_pos (hmem.mpr (.inr rfl)), hstanding, hr.standing _ _ hrel]
    split <;> rfl
  · rw [hworks.others rel' bs' hrel' hne, hr.standing rel' bs' hrel']
    simp only [hmem, hne, or_false]

lemma Restored.course {done : List Path} {gs : Files} (hr : Restored w temp start fs done gs) :
    Course w temp start Standing.Freed fs gs := by
  refine ⟨hr.shape, fun rel bs hrel => ?_⟩
  rw [hr.standing rel bs hrel]
  split
  · exact .inr (.inl rfl)
  · exact .inl rfl

namespace Site

variable (h : Site w temp start)

include h

lemma restoreEach_does (hs : Shape w temp start fs) {ps : List Path}
    (hps : ∀ p ∈ ps, ∃ rel bs, Source w temp start rel bs ∧ p = w.file rel ∧
      ((w.standing temp fs rel).primary.isSome || (w.standing temp fs rel).fallback.isSome) = true) :
    Does (ps.mapM w.restoreNoted) fs fun rs gs => rs.flatten = ps ∧ Restored w temp start fs ps gs := by
  refine does_mapM (I := fun done rs gs => rs.flatten = done ∧ Restored w temp start fs done gs) ?_ ?_
  · rintro pre p post rs gs rfl ⟨hflat, hr⟩
    obtain ⟨rel, bs, hrel, rfl, hcopy⟩ := hps p (by simp)
    have hcopy' : ((w.standing temp gs rel).primary.isSome ||
        (w.standing temp gs rel).fallback.isSome) = true := by
      rw [hr.standing rel bs hrel]
      split <;> exact hcopy
    refine (h.restoreNoted_does hr.shape hrel hcopy').mono ?_
    rintro _ gs' ⟨rfl, hworks, hstanding⟩
    exact ⟨by simp [hflat], hr.snoc hrel hworks hstanding⟩
  · exact ⟨rfl, hs, fun _ _ _ => (if_neg List.not_mem_nil).symm⟩

lemma restorable_does (hs : Shape w temp start fs) (pattern : Option String)
    (hfound : ∀ s, pattern = some s →
      ∀ p ∈ fs.sourceFiles w.project (some s), ∃ rel bs, Source w temp start rel bs ∧ p = w.file rel) :
    Does (w.restorable pattern) fs fun ps gs => gs = fs ∧
      (∀ p ∈ ps, ∃ rel bs, Source w temp start rel bs ∧ p = w.file rel ∧
        ((w.standing temp fs rel).primary.isSome || (w.standing temp fs rel).fallback.isSome) = true) ∧
      (pattern = none → ∀ rel bs, Source w temp start rel bs →
        (w.file rel ∈ ps ↔ (w.standing temp fs rel).fallback.isSome = true)) := by
  unfold restorable
  cases pattern with
  | none =>
    refine does_files_bind (does_pure ⟨rfl, fun p hp => ?_, fun _ rel bs hrel => ?_⟩)
    · obtain ⟨rel, bs, hrel, hsome, rfl⟩ := (h.mem_backedUp hs).mp hp
      exact ⟨rel, bs, hrel, rfl, by rw [hsome, Bool.or_true]⟩
    · rw [h.mem_backedUp hs]
      refine ⟨?_, fun hsome => ⟨rel, bs, hrel, hsome, rfl⟩⟩
      rintro ⟨rel', -, -, hsome, hp⟩
      rwa [file_injective hp]
  | some s =>
    refine (files_does w (some s)).bind ?_
    rintro _ gs ⟨rfl, rfl⟩
    have hask : ∀ p ∈ gs.sourceFiles w.project (some s),
        Does (do return (← w.hasBackup p) || (← w.hasLocalBackup p)) gs fun b gs' =>
          gs' = gs ∧ b = (gs.hasEntry (w.primaryBackup p) || gs.hasEntry (w.localBackup p)) := by
      intro p hp
      obtain ⟨rel, bs, hrel, rfl⟩ := hfound s rfl p hp
      rw [hasEntry, hasEntry, h.entry_primary hs hrel, h.entry_fallback hs hrel]
      refine (h.hasBackup_does hs hrel).bind ?_
      rintro _ _ ⟨rfl, rfl⟩
      refine (h.hasLocalBackup_does hs hrel).bind ?_
      rintro _ _ ⟨rfl, rfl⟩
      exact does_pure ⟨rfl, rfl⟩
    refine (does_filterM hask).mono ?_
    rintro _ _ ⟨rfl, rfl⟩
    refine ⟨rfl, fun p hp => ?_, by simp⟩
    obtain ⟨hm, hcopy⟩ := List.mem_filter.mp hp
    obtain ⟨rel, bs, hrel, rfl⟩ := hfound s rfl p hm
    rw [hasEntry, hasEntry, h.entry_primary hs hrel, h.entry_fallback hs hrel] at hcopy
    exact ⟨rel, bs, hrel, rfl, hcopy⟩

lemma discardEach_does {ps : List Path} (hr : Restored w temp start fs ps gs)
    (hps : ∀ p ∈ ps, ∃ rel bs, Source w temp start rel bs ∧ p = w.file rel) :
    Does (ps.forM w.discard) gs fun _ gs' => Course w temp start Standing.Freed fs gs' := by
  refine (does_forM (I := fun gs' => Course w temp start Standing.Freed fs gs' ∧ ∀ rel bs,
    Source w temp start rel bs → w.file rel ∈ ps →
      (w.standing temp gs' rel).content = some (.file bs)) ?_
    ⟨hr.course, fun rel bs hrel hm => ?_⟩).mono fun _ _ hI => hI.1
  · rintro p hp gs' ⟨hc, hcontent⟩
    obtain ⟨rel, bs, hrel, rfl⟩ := hps p hp
    refine (h.discard_does hc.shape hrel).mono ?_
    rintro _ gs'' ⟨hworks, hstanding⟩
    rw [hcontent rel bs hrel hp] at hstanding
    refine ⟨hc.works hrel hworks (.inr (.inr hstanding)), fun rel' bs' hrel' hm => ?_⟩
    by_cases hne : rel' = rel
    · subst hne
      obtain rfl : bs = bs' := by simpa using hrel.content.symm.trans hrel'.content
      rw [hstanding]
    · rw [hworks.others rel' bs' hrel' hne]
      exact hcontent rel' bs' hrel' hm
  · rw [hr.standing rel bs hrel, if_pos hm]

lemma cleanUp_does (hs : Shape w temp start fs) :
    Does w.cleanUp fs fun _ gs => Shape w temp start gs ∧
      (∀ rel bs, Source w temp start rel bs →
        w.standing temp gs rel = ⟨(w.standing temp fs rel).content, none, none⟩) ∧
      gs.get? (w.sessionPlace temp) = none ∧ gs.get? w.localPlace = none := by
  unfold cleanUp
  refine (removeAll_does (h.leads_temp hs) hs.sound (sessionName_proper w) hs.session_entry).bind ?_
  rintro _ gs hcut
  change Cut (w.sessionPlace temp) fs gs at hcut
  obtain ⟨hs', hstanding⟩ := h.cut_session hs hcut
  refine (removeAll_does (h.leads_project hs') hs'.sound localName_proper hs'.local_entry).bind ?_
  rintro _ gs' hcut'
  change Cut w.localPlace gs gs' at hcut'
  obtain ⟨hs'', hstanding'⟩ := h.cut_local hs' hcut'
  refine does_pure ⟨hs'', fun rel bs hrel => ?_, ?_, ?_⟩
  · rw [hstanding' rel bs hrel, hstanding rel bs hrel]
  · rw [hcut'.entries, if_neg h.apart.2, hcut.entries, if_pos (List.prefix_refl _)]
  · rw [hcut'.entries, if_pos (List.prefix_refl _)]

lemma restore_pattern (hs : Shape w temp start fs) {pattern : String} (hne : pattern ≠ "")
    (hfound : ∀ p ∈ fs.sourceFiles w.project (some pattern),
      ∃ rel bs, Source w temp start rel bs ∧ p = w.file rel) :
    Does (w.restore (some pattern) none) fs fun _ gs => Course w temp start Standing.Freed fs gs := by
  unfold restore
  dsimp only
  split
  · simp_all
  · refine (h.restorable_does hs (some pattern) ?_).bind ?_
    · rintro _ ⟨⟩
      exact hfound
    rintro ps gs ⟨rfl, hps, -⟩
    refine does_ite_note _ _ ((h.restoreEach_does hs hps).bind ?_)
    rintro rs gs' ⟨rfl, hr⟩
    refine (does_pure (Q := fun _ fs => fs = gs') rfl).bind ?_
    rintro _ _ rfl
    refine (h.discardEach_does hr fun p hp => ?_).bind fun _ _ hheld => does_pure hheld
    obtain ⟨rel, bs, hrel, hp, -⟩ := hps p hp
    exact ⟨rel, bs, hrel, hp⟩

/-- Of all files, those that have a copy in the project are as they were at first, and the others
are as they were; no copies are left. -/
lemma restore_empties (hs : Shape w temp start fs) :
    Does (w.restore none none) fs fun ps gs => Shape w temp start gs ∧
      (∀ rel bs, Source w temp start rel bs →
        (w.file rel ∈ ps ↔ (w.standing temp fs rel).fallback.isSome = true)) ∧
      (∀ rel bs, Source w temp start rel bs → w.standing temp gs rel =
        ⟨if (w.standing temp fs rel).fallback.isSome then some (.file bs)
          else (w.standing temp fs rel).content, none, none⟩) ∧
      gs.get? (w.sessionPlace temp) = none ∧ gs.get? w.localPlace = none := by
  unfold restore
  refine (h.restorable_does hs none nofun).bind ?_
  rintro ps gs ⟨rfl, hps, hall⟩
  refine does_ite_note _ _ ((h.restoreEach_does hs hps).bind ?_)
  rintro rs gs' ⟨rfl, hr⟩
  refine (does_pure (Q := fun _ fs => fs = gs') rfl).bind ?_
  rintro _ _ rfl
  refine (h.cleanUp_does hr.shape).bind fun ds fs' ⟨hs', hstanding, hgone⟩ => ?_
  refine (does_forM (I := fun gs'' => gs'' = fs') (fun _ _ _ hgs => does_note _ hgs) rfl).bind ?_
  rintro _ _ rfl
  refine does_pure ⟨hs', hall rfl, fun rel bs hrel => ?_, hgone⟩
  rw [hstanding rel bs hrel, hr.standing rel bs hrel]
  simp only [hall rfl rel bs hrel]
  split <;> rfl

lemma restore_all (hh : Held w temp start fs) :
    Does (w.restore none none) fs fun _ gs => Held w temp start gs ∧
      (∀ rel bs, Source w temp start rel bs → w.standing temp gs rel = ⟨some (.file bs), none, none⟩) ∧
      gs.get? (w.sessionPlace temp) = none ∧ gs.get? w.localPlace = none := by
  refine (h.restore_empties hh.shape).mono ?_
  rintro _ gs ⟨hs, -, hstanding, hgone⟩
  have hall : ∀ rel bs, Source w temp start rel bs →
      w.standing temp gs rel = ⟨some (.file bs), none, none⟩ := by
    intro rel bs hrel
    rw [hstanding rel bs hrel]
    rcases (hh.kept rel bs hrel).content with hc | ⟨hsome, -⟩
    · simp [hc]
    · simp [hsome]
  refine ⟨⟨hs, fun rel bs hrel => ?_⟩, hall, hgone⟩
  rw [hall rel bs hrel]
  exact ⟨.inl rfl, nofun⟩

end Site

end Workspace

end CallSnapshot
