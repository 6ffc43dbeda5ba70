import CallSnapshot.Proofs.Session.Injecting
import CallSnapshot.Proofs.Session.Naming
import CallSnapshot.Proofs.Session.Tending

/-!
Instrumenting in a project with anything where the copies go: files in the place of directories,
directories that are named as copies. What goes wrong with a file comes to a result, but for one thing:
the removal of the copies, after they could not be made, fails where a file stands in the place of the
directory of one of them.
-/

namespace CallSnapshot.Workspace

open Files Acting

def Inside (w : Workspace) (temp : Place) (q : Place) : Prop := w.sessionPlace temp <+: q ∨ w.localPlace <+: q

/-- A tree with a project and a directory for temporary files; the two places for copies are apart, and no
link is in them. -/
structure Grounds (w : Workspace) (temp : Place) (fs : Files) : Prop where
  sound : Sound fs
  root : w.project.root = .single
  project : fs.get? w.project.names = some .directory
  leads : Leads ((fs.eraseTree (w.sessionPlace temp)).eraseTree w.localPlace) w.temp temp
  apart : ¬ w.sessionPlace temp <+: w.localPlace ∧ ¬ w.localPlace <+: w.sessionPlace temp
  unlinked : ∀ q t, w.Inside temp q → fs.get? q ≠ some (.link t)

def primaryPlace (w : Workspace) (temp S : Place) : Place :=
  (w.primaryDepot temp).copyPlace (w.relative ⟨.single, S⟩)

def fallbackPlace (w : Workspace) (S : Place) : Place := w.localDepot.copyPlace (w.relative ⟨.single, S⟩)

lemma primaryPlace_inside (w : Workspace) (temp S : Place) : w.sessionPlace temp <+: w.primaryPlace temp S :=
  Depot.root_prefix_copyPlace (w.primaryDepot temp) _

lemma fallbackPlace_inside (w : Workspace) (S : Place) : w.localPlace <+: w.fallbackPlace S :=
  Depot.root_prefix_copyPlace w.localDepot _

/-- Work on one file and its copies. -/
abbrev Moves (w : Workspace) (temp S : Place) : Files → Files → Prop :=
  Tended (w.Inside temp) fun q => q = S ∨ q = w.primaryPlace temp S ∨ q = w.fallbackPlace S

def Copied (w : Workspace) (temp : Place) (fs : Files) (S : Place) (c : List UInt8) : Prop :=
  fs.get? (w.primaryPlace temp S) = some (.file c) ∨
    fs.get? (w.primaryPlace temp S) = none ∧ fs.get? (w.fallbackPlace S) = some (.file c)

/-- A file stands in the place of the directory of a copy. -/
def Blocked (w : Workspace) (temp : Place) (fs : Files) (S : Place) : Prop :=
  (∃ c, fs.get? ((w.primaryDepot temp).dir ++ (w.relative ⟨.single, S⟩).dropLast) = some (.file c)) ∨
    ∃ c, fs.get? (w.localDepot.dir ++ (w.relative ⟨.single, S⟩).dropLast) = some (.file c)

structure Spot (w : Workspace) (temp : Place) (fs : Files) (S : Place) : Prop where
  grounds : Grounds w temp fs
  source : ∃ c, fs.get? S = some (.file c)

variable {w : Workspace} {temp S q : Place} {fs gs : Files} {bs c : List UInt8} {skip : Place → Prop}

namespace Grounds

variable (h : Grounds w temp fs)

include h

lemma project_outside : ¬ w.Inside temp w.project.names := by
  rintro (hp | hp)
  · exact h.apart.1 (hp.trans (List.prefix_append _ _))
  · have := hp.length_le
    simp [localPlace] at this

omit h in
lemma get?_outside {e : Entry}
    (he : ((fs.eraseTree (w.sessionPlace temp)).eraseTree w.localPlace).get? q = some e) :
    ¬ w.Inside temp q ∧ fs.get? q = some e := by
  rw [get?_eraseTree _ (by simp [localPlace]), get?_eraseTree _ (by simp [sessionPlace])] at he
  split at he
  · cases he
  · split at he
    · cases he
    · rename_i hlocal hsession
      exact ⟨fun hin => hin.elim hsession hlocal, he⟩

omit h in
lemma outside_get? {e : Entry} (hin : ¬ w.Inside temp q) (he : fs.get? q = some e) :
    ((fs.eraseTree (w.sessionPlace temp)).eraseTree w.localPlace).get? q = some e := by
  rw [get?_eraseTree _ (by simp [localPlace]), get?_eraseTree _ (by simp [sessionPlace]),
    if_neg fun hl => hin (.inr hl), if_neg fun hs => hin (.inl hs), he]

lemma next (ht : Tended (w.Inside temp) skip fs gs) (hskip : ∀ q, skip q → ¬ w.Inside temp q →
    (∃ c, fs.get? q = some (.file c)) ∧ ∃ c, gs.get? q = some (.file c)) : Grounds w temp gs := by
  have hout : ∀ q e, ¬ w.Inside temp q → fs.get? q = some e →
      gs.get? q = some e ∨ ((∃ c, e = .file c) ∧ ∃ c, gs.get? q = some (.file c)) := by
    intro q e hin he
    by_cases hq : skip q
    · obtain ⟨⟨c, hc⟩, hc'⟩ := hskip q hq hin
      exact .inr ⟨⟨c, Option.some.inj (he.symm.trans hc)⟩, hc'⟩
    · exact .inl ((ht.outside hq hin).trans he)
  refine ⟨ht.sound, h.root, ?_, ?_, h.apart, fun q t hin hlink => h.unlinked q t hin (ht.unlinked q t hlink)⟩
  · rcases hout _ _ h.project_outside h.project with hq | ⟨⟨c, hc⟩, -⟩
    · exact hq
    · cases hc
  · refine h.leads.extends (fun q e he => ?_) ht.current
    obtain ⟨hin, he⟩ := get?_outside he
    exact (hout q e hin he).imp (outside_get? hin) (And.imp_right (Exists.imp fun _ => outside_get? hin))

lemma primary : (w.primaryDepot temp).Open fs := by
  refine ⟨h.sound, ⟨proper_primary w temp, fun gs _ hc hq => ?_⟩, fun q t hq => h.unlinked q t (.inl hq)⟩
  refine h.leads.extends (fun q e he => .inl ?_) hc
  obtain ⟨hin, he⟩ := get?_outside he
  exact (hq q fun hs => hin (.inl hs)).trans he

lemma fallback : w.localDepot.Open fs := by
  refine ⟨h.sound, ⟨proper_fallback w, fun gs hsound hc hq => ?_⟩, fun q t hq => h.unlinked q t (.inr hq)⟩
  exact leads_project h.root hsound ((hq _ fun hl => h.project_outside (.inr hl)).trans h.project)

end Grounds

namespace Spot

variable (h : Spot w temp fs S)

include h

lemma proper_source : ∀ n ∈ S, Proper n := by
  obtain ⟨c, hc⟩ := h.source
  exact h.grounds.sound.named S (by rw [hc]; rfl)

lemma ne_nil : S ≠ [] := by
  rintro rfl
  obtain ⟨c, hc⟩ := h.source
  rw [get?_nil] at hc
  cases hc

lemma relative_cases : S = w.project.names ++ w.relative ⟨.single, S⟩ ∨ w.relative ⟨.single, S⟩ = S := by
  have htarget : w.target ⟨.single, S⟩ = ⟨.single, S⟩ := by
    have habs : (PathRoot.single != PathRoot.relative) = true := rfl
    rw [target, Path.join_absolute rfl]
    simp [Path.normalize, Path.isAbsolute, habs, Path.collapse_proper fun n hn => (h.proper_source n hn).2]
  rcases Workspace.relative_cases w ⟨.single, S⟩ with hp | ⟨-, hp⟩ <;> rw [htarget] at hp
  · exact .inl (congrArg Path.names hp)
  · exact .inr hp

lemma relative_ne_nil : w.relative ⟨.single, S⟩ ≠ [] := by
  intro hnil
  rcases h.relative_cases with hS | hS
  · obtain ⟨c, hc⟩ := h.source
    rw [hnil, List.append_nil] at hS
    rw [hS, h.grounds.project] at hc
    cases hc
  · exact h.ne_nil (hS ▸ hnil)

lemma relative_proper : ∀ n ∈ w.relative ⟨.single, S⟩, Proper n := by
  intro n hn
  refine h.proper_source n ?_
  rcases h.relative_cases with hS | hS
  · rw [hS]
    exact List.mem_append_right _ hn
  · rwa [hS] at hn

lemma ne_copy (d : Depot) : S ≠ d.copyPlace (w.relative ⟨.single, S⟩) := by
  intro heq
  have hne := h.relative_ne_nil
  have hlast : S.getLast? = some ((w.relative ⟨.single, S⟩).getLast hne) := by
    rw [← List.getLast?_eq_getLast_of_ne_nil hne]
    rcases h.relative_cases with hS | hS
    · conv_lhs => rw [hS]
      exact List.getLast?_append_of_ne_nil _ hne
    · rw [hS]
  have hcopy := congrArg List.getLast? heq
  rw [Depot.copyPlace_eq hne, List.getLast?_concat] at hcopy
  have hname := Option.some.inj (hlast.symm.trans hcopy)
  have hlength := congrArg (fun n : String => n.toList.length) hname
  simp [backupSuffix] at hlength

lemma next (ht : w.Moves temp S fs gs) (hS : ∃ c, gs.get? S = some (.file c)) : Spot w temp gs S := by
  refine ⟨h.grounds.next ht ?_, hS⟩
  rintro q (rfl | rfl | rfl) hin
  · exact ⟨h.source, hS⟩
  · exact absurd (.inl (primaryPlace_inside w temp S)) hin
  · exact absurd (.inr (fallbackPlace_inside w S)) hin

omit h in
lemma primary_moves (ht : (w.primaryDepot temp).Tends (w.relative ⟨.single, S⟩) fs gs) : w.Moves temp S fs gs :=
  ht.mono (fun _ => .inl) fun _ hq => .inr (.inl hq)

omit h in
lemma fallback_moves (ht : w.localDepot.Tends (w.relative ⟨.single, S⟩) fs gs) : w.Moves temp S fs gs :=
  ht.mono (fun _ => .inr) fun _ hq => .inr (.inr hq)

lemma primary_spares (ht : (w.primaryDepot temp).Tends (w.relative ⟨.single, S⟩) fs gs) :
    (gs.get? S = some (.file c) ↔ fs.get? S = some (.file c)) ∧
      ∀ q, w.localPlace <+: q → gs.get? q = fs.get? q :=
  ⟨ht.file_iff (h.ne_copy _), fun _ hq => ht.elsewhere fun hs => not_prefix_of_apart h.grounds.apart hs hq⟩

lemma fallback_spares (ht : w.localDepot.Tends (w.relative ⟨.single, S⟩) fs gs) :
    (gs.get? S = some (.file c) ↔ fs.get? S = some (.file c)) ∧
      ∀ q, w.sessionPlace temp <+: q → gs.get? q = fs.get? q :=
  ⟨ht.file_iff (h.ne_copy _), fun _ hq => ht.elsewhere fun hl => not_prefix_of_apart h.grounds.apart hq hl⟩

lemma put_moves (c : List UInt8) : w.Moves temp S fs (fs.put S (.file c)) ∧
    (fs.put S (.file c)).get? S = some (.file c) ∧ ∀ q, q ≠ S → (fs.put S (.file c)).get? q = fs.get? q := by
  obtain ⟨c', hc'⟩ := h.source
  have hget := get?_put fs h.ne_nil (.file c)
  refine ⟨?_, by rw [hget, if_pos rfl], fun q hq => by rw [hget, if_neg hq]⟩
  have hsplit : S = S.dropLast ++ [S.getLast h.ne_nil] := (List.dropLast_append_getLast h.ne_nil).symm
  have hdir : fs.get? S.dropLast = some .directory := by
    refine h.grounds.sound.above (r := [S.getLast h.ne_nil]) (by simp) ?_
    rw [← hsplit, hc']
    rfl
  have hput : Tended (w.Inside temp) (fun q => q = S ∨ q = w.primaryPlace temp S ∨ q = w.fallbackPlace S) fs
      (fs.put (S.dropLast ++ [S.getLast h.ne_nil]) (.file c)) := by
    refine .put h.grounds.sound (h.proper_source _ (List.getLast_mem _)) hdir ?_ (.inl hsplit.symm) c
    rw [← hsplit, hc']
    exact nofun
  rwa [← hsplit] at hput

/-! What is at the paths of the file and its copies. -/

omit h in
lemma primaryBackup_eq (w : Workspace) (temp S : Place) : w.primaryBackup ⟨.single, S⟩ =
    (w.primaryDepot temp).copyPath (w.relative ⟨.single, S⟩) := by
  rw [primaryBackup, backupIn]
  simp only [primaryDir_eq, Depot.copyPath, primaryDepot, Depot.lead, down, List.append_assoc]

omit h in
lemma localBackup_eq (w : Workspace) (S : Place) : w.localBackup ⟨.single, S⟩ =
    w.localDepot.copyPath (w.relative ⟨.single, S⟩) := by
  rw [localBackup, backupIn]
  simp [localDir, Path.child, Depot.copyPath, localDepot, Depot.lead, down]

lemma entry_primary : fs.entryAt? (w.primaryBackup ⟨.single, S⟩) = fs.get? (w.primaryPlace temp S) := by
  rw [primaryBackup_eq w temp]
  exact h.grounds.primary.entry_copy h.relative_ne_nil h.relative_proper

lemma entry_fallback : fs.entryAt? (w.localBackup ⟨.single, S⟩) = fs.get? (w.fallbackPlace S) := by
  rw [localBackup_eq]
  exact h.grounds.fallback.entry_copy h.relative_ne_nil h.relative_proper

lemma resolved : fs.entryAt? ⟨.single, S⟩ = fs.get? S ∧ fs.placeOf ⟨.single, S⟩ = .ok S := by
  obtain ⟨c, hc⟩ := h.source
  obtain ⟨hentry, hplace⟩ := Depot.entryAt?_file h.grounds.sound hc
  exact ⟨hentry.trans hc.symm, hplace⟩

/-! What the steps of instrumenting a file come to. -/

lemma copyBack_ends (copy : Path) : Ends (copyFile copy ⟨.single, S⟩) fs fun r gs =>
    (r = .ok () ∧ ∃ c, fs.entryAt? copy = some (.file c) ∧ gs = fs.put S (.file c)) ∨
      (∃ f, r = .error f ∧ f.kind.isSystem = true) ∧ (∀ c, fs.entryAt? copy ≠ some (.file c)) ∧ gs = fs := by
  obtain ⟨c', hc'⟩ := h.source
  have hput : ∀ c, fs.entryAt? copy = some (.file c) →
      fs.copy copy ⟨.single, S⟩ = .ok (fs.put S (.file c)) := fun c hc =>
    copy_file hc h.resolved.2 (by simp [hc'])
  refine Depot.copyFile_ends.mono ?_
  rintro r gs (⟨rfl, hcopy⟩ | ⟨f, rfl, hcopy, rfl⟩)
  · obtain ⟨c, hread, -⟩ := copy_eq_ok.mp hcopy
    have hc := read_eq_ok_iff.mp hread
    cases (hput c hc).symm.trans hcopy
    exact .inl ⟨rfl, c, hc, rfl⟩
  · refine .inr ⟨⟨f, rfl, copy_eq_error hcopy⟩, fun c hc => ?_, rfl⟩
    cases (hput c hc).symm.trans hcopy

/-- What restoring a file comes to: its content is that of a copy, or nothing is changed. -/
structure Restored (w : Workspace) (temp S : Place) (fs : Files) (r : Except Fault Bool) (gs : Files) : Prop where
  moves : w.Moves temp S fs gs
  primary : gs.get? (w.primaryPlace temp S) = fs.get? (w.primaryPlace temp S)
  fallback : gs.get? (w.fallbackPlace S) = fs.get? (w.fallbackPlace S)
  outcome : (gs = fs ∧ (∀ c, ¬ w.Copied temp fs S c) ∧
      ((∃ f, r = .error f ∧ f.kind.isSystem = true) ∨ r = .ok false)) ∨
    r = .ok true ∧ ∃ c, w.Copied temp fs S c ∧ gs.get? S = some (.file c)

lemma restoreFile_ends : Ends (w.restoreFile ⟨.single, S⟩) fs (Restored w temp S fs) := by
  have hlocated : w.located ⟨.single, S⟩ = ⟨.single, S⟩ := Path.join_absolute rfl
  have hback : ∀ copy, (∀ c, fs.entryAt? copy = some (.file c) ↔ w.Copied temp fs S c) →
      Ends (do
        copyFile copy ⟨.single, S⟩
        return true) fs (Restored w temp S fs) := by
    intro copy hcopied
    refine (h.copyBack_ends copy).bind ?_ ?_
    · rintro _ gs (⟨-, c, hc, rfl⟩ | ⟨⟨f, hf, -⟩, -⟩)
      · obtain ⟨hmoves, hS, hrest⟩ := h.put_moves c
        exact ends_pure ⟨hmoves, hrest _ (h.ne_copy _).symm, hrest _ (h.ne_copy _).symm,
          .inr ⟨rfl, c, (hcopied c).mp hc, hS⟩⟩
      · cases hf
    · rintro f gs (⟨hr, -⟩ | ⟨⟨f', hf, hsystem⟩, hnone, rfl⟩)
      · cases hr
      · cases hf
        exact ⟨.refl h.grounds.sound, rfl, rfl,
          .inl ⟨rfl, fun c hc => hnone c ((hcopied c).mpr hc), .inl ⟨f, rfl, hsystem⟩⟩⟩
  unfold restoreFile
  dsimp only
  rw [hlocated]
  refine (hasBackup_asks _).ends_bind ?_
  rintro _ gs ⟨hgs, rfl⟩
  rw [hgs, hasEntry, h.entry_primary]
  cases hp : fs.get? (w.primaryPlace temp S) with
  | some e =>
    simp only [Option.isSome_some, if_true]
    refine hback _ fun c => ?_
    rw [h.entry_primary, Copied, hp]
    simp
  | none =>
    simp only [Option.isSome_none, Bool.false_eq_true, if_false]
    refine (hasLocalBackup_asks _).ends_bind ?_
    rintro _ gs ⟨hgs, rfl⟩
    rw [hgs, hasEntry, h.entry_fallback]
    cases hl : fs.get? (w.fallbackPlace S) with
    | some e =>
      simp only [Option.isSome_some, if_true]
      refine (does_note _ (Q := fun _ gs => gs = fs) rfl).ends_bind ?_
      rintro _ _ rfl
      refine hback _ fun c => ?_
      rw [h.entry_fallback, Copied, hp]
      simp
    | none =>
      simp only [Option.isSome_none, Bool.false_eq_true, if_false]
      refine (does_note _ (Q := fun _ gs => gs = fs) rfl).ends_bind ?_
      rintro _ _ rfl
      refine ends_pure ⟨.refl h.grounds.sound, rfl, rfl, .inl ⟨rfl, fun c hc => ?_, .inr rfl⟩⟩
      simp [Copied, hp, hl] at hc

/-- What making the copies comes to: both are made, or of the primary one no other than that. -/
structure BackedUp (w : Workspace) (temp S : Place) (bs : List UInt8) (fs : Files) (r : Except Fault (Path × Path))
    (gs : Files) : Prop where
  moves : w.Moves temp S fs gs
  source : gs.get? S = some (.file bs)
  outcome : ((∃ x, r = .ok x) ∧ gs.get? (w.primaryPlace temp S) = some (.file bs) ∧
      gs.get? (w.fallbackPlace S) = some (.file bs)) ∨
    (∃ f, r = .error f ∧ f.kind.isSystem = true) ∧ gs.get? (w.fallbackPlace S) = fs.get? (w.fallbackPlace S) ∧
      (gs.get? (w.primaryPlace temp S) = fs.get? (w.primaryPlace temp S) ∨
        gs.get? (w.primaryPlace temp S) = some (.file bs))

lemma backup_ends (hS : fs.get? S = some (.file bs)) :
    Ends (w.backup ⟨.single, S⟩) fs (BackedUp w temp S bs fs) := by
  have hlocated : w.located ⟨.single, S⟩ = ⟨.single, S⟩ := Path.join_absolute rfl
  have hne := h.relative_ne_nil
  have hp := h.relative_proper
  unfold backup
  dsimp only
  rw [hlocated, primaryBackup_eq w temp, localBackup_eq]
  refine (h.grounds.primary.copyInto_ends hne hp hS (h.ne_copy _)).bind ?_ ?_
  · rintro _ gs ⟨htends, ⟨-, hprimary⟩ | ⟨⟨f, hf, -⟩, -⟩⟩
    · obtain ⟨hsource, hlocal⟩ := h.primary_spares (c := bs) htends
      have hS' := hsource.mpr hS
      have h' := h.next (primary_moves htends) ⟨bs, hS'⟩
      refine (h'.grounds.fallback.copyInto_ends hne hp hS' (h'.ne_copy _)).bind ?_ ?_
      · rintro _ hs ⟨htends', ⟨-, hfallback⟩ | ⟨⟨f, hf, -⟩, -⟩⟩
        · obtain ⟨hsource', hsession⟩ := h'.fallback_spares (c := bs) htends'
          refine (does_note _ (Q := fun _ ks => ks = hs) rfl).ends_bind ?_
          rintro _ _ rfl
          refine ends_pure ⟨(primary_moves htends).trans (fallback_moves htends'), hsource'.mpr hS', .inl
            ⟨⟨_, rfl⟩, ?_, hfallback⟩⟩
          exact (hsession _ (primaryPlace_inside w temp S)).trans hprimary
        · cases hf
      · rintro f hs ⟨htends', ⟨hr, -⟩ | ⟨⟨f', hf, hsystem⟩, hfallback⟩⟩
        · cases hr
        · cases hf
          obtain ⟨hsource', hsession⟩ := h'.fallback_spares (c := bs) htends'
          refine ⟨(primary_moves htends).trans (fallback_moves htends'), hsource'.mpr hS', .inr
            ⟨⟨f, rfl, hsystem⟩, hfallback.trans (hlocal _ (fallbackPlace_inside w S)), .inr ?_⟩⟩
          exact (hsession _ (primaryPlace_inside w temp S)).trans hprimary
    · cases hf
  · rintro f gs ⟨htends, ⟨hr, -⟩ | ⟨⟨f', hf, hsystem⟩, hprimary⟩⟩
    · cases hr
    · cases hf
      obtain ⟨hsource, hlocal⟩ := h.primary_spares (c := bs) htends
      exact ⟨primary_moves htends, hsource.mpr hS, .inr
        ⟨⟨f, rfl, hsystem⟩, hlocal _ (fallbackPlace_inside w S), .inl hprimary⟩⟩

lemma none_of_blocked {d : Depot} (hd : d.Open fs)
    (hc : fs.get? (d.dir ++ (w.relative ⟨.single, S⟩).dropLast) = some (.file c)) :
    fs.get? (d.copyPlace (w.relative ⟨.single, S⟩)) = none := by
  rw [Depot.copyPlace_eq h.relative_ne_nil]
  exact hd.sound.get?_below_none (by simp) (by simp [hc])

lemma not_blocked (hP : fs.get? (w.primaryPlace temp S) = some (.file bs))
    (hL : fs.get? (w.fallbackPlace S) = some (.file c)) : ¬ w.Blocked temp fs S := by
  rintro (⟨c', hc'⟩ | ⟨c', hc'⟩)
  · cases hP.symm.trans (h.none_of_blocked h.grounds.primary hc')
  · cases hL.symm.trans (h.none_of_blocked h.grounds.fallback hc')

/-- What removing the copies comes to: they are gone, but it fails where the place of the directory of one
is blocked. -/
structure Discarded (w : Workspace) (temp S : Place) (fs : Files) (r : Except Fault Unit) (gs : Files) : Prop where
  moves : w.Moves temp S fs gs
  source : ∀ c, fs.get? S = some (.file c) → gs.get? S = some (.file c)
  primary : gs.get? (w.primaryPlace temp S) = none
  fallback : gs.get? (w.fallbackPlace S) = none
  outcome : (¬ w.Blocked temp fs S ∧ r = .ok ()) ∨
    w.Blocked temp fs S ∧ ∃ f, r = .error f ∧ f.kind = .notDirectory

lemma discard_ends (hP : fs.get? (w.primaryPlace temp S) ≠ some .directory)
    (hL : fs.get? (w.fallbackPlace S) ≠ some .directory)
    (hblocked : w.Blocked temp fs S → fs.get? (w.fallbackPlace S) = none) :
    Ends (w.discard ⟨.single, S⟩) fs (Discarded w temp S fs) := by
  have hne := h.relative_ne_nil
  have hp := h.relative_proper
  have htop : w.localDir = w.localDepot.top := rfl
  unfold discard
  rw [primaryBackup_eq w temp, localBackup_eq, primaryDir_eq w, htop]
  by_cases hprimary : ∃ c, fs.get? ((w.primaryDepot temp).dir ++ (w.relative ⟨.single, S⟩).dropLast) =
      some (.file c)
  · obtain ⟨c, hc⟩ := hprimary
    refine (h.grounds.primary.discardCopy_fails hne hp hc).bind ?_ ?_
    · rintro _ gs ⟨-, f, hf, -⟩
      cases hf
    · rintro f gs ⟨rfl, f', hf, hkind⟩
      cases hf
      exact ⟨.refl h.grounds.sound, fun _ => id, h.none_of_blocked h.grounds.primary hc,
        hblocked (.inl ⟨c, hc⟩), .inr ⟨.inl ⟨c, hc⟩, f, rfl, hkind⟩⟩
  · refine (h.grounds.primary.discardCopy_does hne hp hP fun c hc => hprimary ⟨c, hc⟩).ends_bind ?_
    rintro _ gs ⟨htends, hgone⟩
    have hmoves : w.Moves temp S fs gs := primary_moves htends
    have hsource := fun c => (h.primary_spares (c := c) htends).1.mpr
    have hlocal := (h.primary_spares (c := []) htends).2
    have h' : Spot w temp gs S := h.next hmoves (h.source.imp hsource)
    have hsame := hlocal (w.localDepot.dir ++ (w.relative ⟨.single, S⟩).dropLast) (List.prefix_append _ _)
    by_cases hfallback : ∃ c, fs.get? (w.localDepot.dir ++ (w.relative ⟨.single, S⟩).dropLast) = some (.file c)
    · obtain ⟨c, hc⟩ := hfallback
      refine (h'.grounds.fallback.discardCopy_fails hne hp (hsame.trans hc)).mono ?_
      rintro r _ ⟨rfl, f, rfl, hkind⟩
      exact ⟨hmoves, hsource, hgone, h'.none_of_blocked h'.grounds.fallback (hsame.trans hc),
        .inr ⟨.inr ⟨c, hc⟩, f, rfl, hkind⟩⟩
    · have hL' : gs.get? (w.fallbackPlace S) ≠ some .directory := by
        rwa [hlocal _ (fallbackPlace_inside w S)]
      refine Ends.mono (h'.grounds.fallback.discardCopy_does hne hp hL' fun c hc =>
        hfallback ⟨c, hsame.symm.trans hc⟩) ?_
      rintro r hs ⟨⟨⟩, rfl, htends', hgone'⟩
      have hsession := (h'.fallback_spares (c := []) htends').2
      refine ⟨hmoves.trans (fallback_moves htends'), fun c hc =>
        (h'.fallback_spares (c := c) htends').1.mpr (hsource c hc), ?_, hgone', .inl ⟨?_, rfl⟩⟩
      · exact (hsession _ (primaryPlace_inside w temp S)).trans hgone
      · exact fun hb => hb.elim hprimary hfallback

lemma prepare_ends (hS : fs.get? S = some (.file bs)) {had : Bool}
    (hhad : had = ((fs.get? (w.primaryPlace temp S)).isSome || (fs.get? (w.fallbackPlace S)).isSome)) :
    Ends (w.prepare ⟨.single, S⟩ had) fs fun r gs => w.Moves temp S fs gs ∧
      ∃ c, (c = bs ∨ w.Copied temp fs S c) ∧ gs.get? S = some (.file c) ∧
        ((r = .ok () ∧ gs.get? (w.primaryPlace temp S) = some (.file c) ∧
            gs.get? (w.fallbackPlace S) = some (.file c)) ∨
          (∃ f, r = .error f ∧ f.kind.isSystem = true) ∧ (had = false → c = bs ∧
            gs.get? (w.fallbackPlace S) = none ∧ (gs.get? (w.primaryPlace temp S) = none ∨
              gs.get? (w.primaryPlace temp S) = some (.file bs)))) := by
  unfold prepare
  -- A file that has copies is restored first, so that only without them its content is known to stay.
  cases had with
  | false =>
    rw [Eq.comm, Bool.or_eq_false_iff, Option.isSome_eq_false_iff, Option.isSome_eq_false_iff,
      Option.isNone_iff_eq_none, Option.isNone_iff_eq_none] at hhad
    simp only [Bool.false_eq_true, if_false]
    refine (h.backup_ends hS).bind ?_ ?_
    · rintro x gs ⟨hmoves, hsource, ⟨-, hP, hL⟩ | ⟨⟨f, hf, -⟩, -⟩⟩
      · exact ends_pure ⟨hmoves, bs, .inl rfl, hsource, .inl ⟨rfl, hP, hL⟩⟩
      · cases hf
    · rintro f gs ⟨hmoves, hsource, ⟨⟨x, hx⟩, -⟩ | ⟨hsystem, hL, hP⟩⟩
      · cases hx
      · refine ⟨hmoves, bs, .inl rfl, hsource, .inr ⟨?_, fun _ =>
          ⟨rfl, hL.trans hhad.2, hP.imp_left fun hP => hP.trans hhad.1⟩⟩⟩
        obtain ⟨f', hf, hkind⟩ := hsystem
        cases hf
        exact ⟨f, rfl, hkind⟩
  | true =>
    simp only [if_true]
    refine h.restoreFile_ends.bind ?_ ?_
    · rintro b gs hrestored
      obtain ⟨c, hc, hS'⟩ : ∃ c, (c = bs ∨ w.Copied temp fs S c) ∧ gs.get? S = some (.file c) := by
        rcases hrestored.outcome with ⟨rfl, -⟩ | ⟨-, c, hc, hS'⟩
        · exact ⟨bs, .inl rfl, hS⟩
        · exact ⟨c, .inr hc, hS'⟩
      refine ((h.next hrestored.moves ⟨c, hS'⟩).backup_ends hS').bind ?_ ?_
      · rintro x hs ⟨hmoves, hsource, ⟨-, hP, hL⟩ | ⟨⟨f, hf, -⟩, -⟩⟩
        · exact ends_pure ⟨hrestored.moves.trans hmoves, c, hc, hsource, .inl ⟨rfl, hP, hL⟩⟩
        · cases hf
      · rintro f hs ⟨hmoves, hsource, ⟨⟨x, hx⟩, -⟩ | ⟨⟨f', hf, hkind⟩, -⟩⟩
        · cases hx
        · cases hf
          exact ⟨hrestored.moves.trans hmoves, c, hc, hsource, .inr ⟨⟨f, rfl, hkind⟩, nofun⟩⟩
    · rintro f gs hrestored
      rcases hrestored.outcome with ⟨rfl, -, ⟨f', hf, hkind⟩ | hr⟩ | ⟨hr, -⟩
      · cases hf
        exact ⟨hrestored.moves, bs, .inl rfl, hS, .inr ⟨⟨f, rfl, hkind⟩, nofun⟩⟩
      · cases hr
      · cases hr

lemma instrumentFile_ends (hS : fs.get? S = some (.file bs)) :
    Ends (instrumentFile ⟨.single, S⟩) fs fun r gs =>
      (∃ wrapped cs, r = .ok (some wrapped) ∧ gs = fs.put S (.file cs)) ∨
        (r = .ok none ∨ ∃ f, r = .error f) ∧ gs = fs := by
  obtain ⟨hentry, hplace⟩ := h.resolved
  have hread : fs.read ⟨.single, S⟩ = .ok bs := read_file (hentry.trans hS)
  unfold instrumentFile
  refine (does_ask (Q := fun b gs => b = bs ∧ gs = fs) hread ⟨rfl, rfl⟩).ends_bind ?_
  rintro _ _ ⟨rfl, rfl⟩
  refine ends_settle_bind (fun source _ => ?_) fun f _ => .inr ⟨.inr ⟨f, rfl⟩, rfl⟩
  refine ends_settle_bind (fun p _ => ?_) fun f _ => .inr ⟨.inr ⟨f, rfl⟩, rfl⟩
  obtain ⟨text, wrapped⟩ := p
  cases text with
  | none => exact ends_pure (.inr ⟨.inl rfl, rfl⟩)
  | some text =>
    have hwrite := write_file hplace (by simp [hS]) (Text.encodeUtf8 text)
    refine Does.ends_bind (does_change (Q := fun _ gs => gs = _) hwrite rfl) ?_
    rintro _ _ rfl
    exact ends_pure (.inl ⟨wrapped, _, rfl, rfl⟩)

section Copies

variable (hS : fs.get? S = some (.file c)) (hP : fs.get? (w.primaryPlace temp S) = some (.file c))
  (hL : fs.get? (w.fallbackPlace S) = some (.file c))

include hS hP hL

lemma discard_does : Does (w.discard ⟨.single, S⟩) fs fun _ gs => w.Moves temp S fs gs ∧
    gs.get? S = some (.file c) ∧ gs.get? (w.primaryPlace temp S) = none ∧
    gs.get? (w.fallbackPlace S) = none := by
  have hfree := h.not_blocked hP hL
  refine (h.discard_ends (by simp [hP]) (by simp [hL]) fun hb => absurd hb hfree).mono ?_
  rintro r gs ⟨hmoves, hsource, hP', hL', ⟨-, rfl⟩ | ⟨hb, -⟩⟩
  · exact ⟨(), rfl, hmoves, hsource c hS, hP', hL'⟩
  · exact absurd hb hfree

omit hS in
lemma restoreFile_does : Does (w.restoreFile ⟨.single, S⟩) fs fun _ gs => w.Moves temp S fs gs ∧
    gs.get? S = some (.file c) ∧ gs.get? (w.primaryPlace temp S) = some (.file c) ∧
    gs.get? (w.fallbackPlace S) = some (.file c) := by
  refine h.restoreFile_ends.mono ?_
  rintro r gs ⟨hmoves, hP', hL', ⟨-, hnone, -⟩ | ⟨rfl, c', hc' | ⟨hc', -⟩, hS'⟩⟩
  · exact absurd (.inl hP) (hnone c)
  · cases hP.symm.trans hc'
    exact ⟨true, rfl, hmoves, hS', hP'.trans hP, hL'.trans hL⟩
  · cases hP.symm.trans hc'

lemma injectPrepared_does :
    Does (w.injectPrepared ⟨.single, S⟩) fs fun i gs => w.Moves temp S fs gs ∧
      (∃ c', gs.get? S = some (.file c')) ∧ i.path = ⟨.single, S⟩ ∧
      (i.status = .failed → gs.get? S = some (.file c) ∧ gs.get? (w.primaryPlace temp S) = none ∧
        gs.get? (w.fallbackPlace S) = none) := by
  unfold injectPrepared
  refine (does_outcome (Q := fun r gs => (∀ f, r = .error f → gs = fs) ∧
      (∀ wrapped, r = .ok (some wrapped) → w.Moves temp S fs gs ∧ ∃ c', gs.get? S = some (.file c')) ∧
      (r = .ok none → w.Moves temp S fs gs ∧ ∃ c', gs.get? S = some (.file c')))
    ((h.instrumentFile_ends hS).bind ?_ ?_)).bind ?_
  · rintro o gs (⟨wrapped, cs, ho, rfl⟩ | ⟨ho | ⟨f, hf⟩, rfl⟩)
    · cases ho
      obtain ⟨hmoves, hS', -⟩ := h.put_moves cs
      exact ends_pure ⟨nofun, fun _ _ => ⟨hmoves, cs, hS'⟩, nofun⟩
    · cases ho
      refine Does.ends_bind (does_note _ (Q := fun _ hs => hs = gs) rfl) ?_
      rintro _ _ rfl
      refine Does.ends_bind (h.discard_does hS hP hL) ?_
      rintro _ hs ⟨hmoves, hS', -, -⟩
      exact ends_pure ⟨nofun, nofun, fun _ => ⟨hmoves, c, hS'⟩⟩
    · cases hf
  · rintro e gs (⟨wrapped, cs, ho, -⟩ | ⟨-, rfl⟩)
    · cases ho
    · exact ⟨fun _ _ => rfl, nofun, nofun⟩
  · rintro (f | o) gs ⟨herror, hsome, hnone⟩
    · obtain rfl := herror f rfl
      refine does_note_bind _ ((h.restoreFile_does hP hL).bind ?_)
      rintro _ hs ⟨hmoves, hS', hP', hL'⟩
      refine ((h.next hmoves ⟨c, hS'⟩).discard_does hS' hP' hL').bind ?_
      rintro _ ks ⟨hmoves', hS'', hP'', hL''⟩
      exact does_pure ⟨hmoves.trans hmoves', ⟨c, hS''⟩, rfl, fun _ => ⟨hS'', hP'', hL''⟩⟩
    · cases o with
      | none =>
        obtain ⟨hmoves, hS'⟩ := hnone rfl
        exact does_pure ⟨hmoves, hS', rfl, nofun⟩
      | some wrapped =>
        obtain ⟨hmoves, hS'⟩ := hsome wrapped rfl
        exact does_note_bind _ (does_pure ⟨hmoves, hS', rfl, nofun⟩)

end Copies

lemma file_iff (hm : w.Moves temp S fs gs) (hS : ∃ c, gs.get? S = some (.file c)) (hP : q ≠ w.primaryPlace temp S)
    (hL : q ≠ w.fallbackPlace S) : (∃ c, gs.get? q = some (.file c)) ↔ ∃ c, fs.get? q = some (.file c) := by
  by_cases hq : q = S
  · rw [hq]
    exact iff_of_true hS h.source
  · exact exists_congr fun c => hm.file_iff fun hskip => hskip.elim hq fun hskip => hskip.elim hP hL

lemma blocked_iff (hm : w.Moves temp S fs gs) (hS : ∃ c, gs.get? S = some (.file c)) :
    w.Blocked temp gs S ↔ w.Blocked temp fs S := by
  have hother : ∀ d : Depot, d.dir ++ (w.relative ⟨.single, S⟩).dropLast ≠
      d.copyPlace (w.relative ⟨.single, S⟩) := by
    intro d heq
    rw [Depot.copyPlace_eq h.relative_ne_nil] at heq
    have := congrArg List.length heq
    simp at this
  have hsession : w.sessionPlace temp <+: (w.primaryDepot temp).dir ++ (w.relative ⟨.single, S⟩).dropLast :=
    (w.primaryDepot temp).root_prefix_dir.trans (List.prefix_append _ _)
  have hlocal : w.localPlace <+: w.localDepot.dir ++ (w.relative ⟨.single, S⟩).dropLast := List.prefix_append _ _
  refine or_congr (h.file_iff hm hS (hother _) ?_) (h.file_iff hm hS ?_ (hother _))
  · intro heq
    exact not_prefix_of_apart h.grounds.apart hsession (heq ▸ fallbackPlace_inside w S)
  · intro heq
    exact not_prefix_of_apart h.grounds.apart (primaryPlace_inside w temp S) (heq ▸ hlocal)

/-- What instrumenting a file comes to: a result, and a fault only where it had no copies and the place of
the directory of one is blocked. -/
structure Contained (w : Workspace) (temp S : Place) (bs : List UInt8) (fs : Files) (r : Except Fault Injection)
    (gs : Files) : Prop where
  moves : w.Moves temp S fs gs
  source : ∃ c, gs.get? S = some (.file c)
  raised : (∃ f, r = .error f) ↔ fs.get? (w.primaryPlace temp S) = none ∧ fs.get? (w.fallbackPlace S) = none ∧
    w.Blocked temp fs S
  fault : ∀ f, r = .error f → f.kind = .notDirectory ∧ gs.get? S = some (.file bs) ∧
    gs.get? (w.primaryPlace temp S) = none ∧ gs.get? (w.fallbackPlace S) = none
  result : ∀ i, r = .ok i → i.path = ⟨.single, S⟩ ∧ (i.status = .failed →
    (∃ c, (c = bs ∨ w.Copied temp fs S c) ∧ gs.get? S = some (.file c)) ∧
      (fs.get? (w.primaryPlace temp S) = none → fs.get? (w.fallbackPlace S) = none →
        gs.get? (w.primaryPlace temp S) = none ∧ gs.get? (w.fallbackPlace S) = none))

omit h in
lemma Contained.of_ok {i : Injection} (hmoves : w.Moves temp S fs gs) (hsource : ∃ c, gs.get? S = some (.file c))
    (hfree : ¬ (fs.get? (w.primaryPlace temp S) = none ∧ fs.get? (w.fallbackPlace S) = none ∧ w.Blocked temp fs S))
    (hresult : i.path = ⟨.single, S⟩ ∧ (i.status = .failed →
      (∃ c, (c = bs ∨ w.Copied temp fs S c) ∧ gs.get? S = some (.file c)) ∧
        (fs.get? (w.primaryPlace temp S) = none → fs.get? (w.fallbackPlace S) = none →
          gs.get? (w.primaryPlace temp S) = none ∧ gs.get? (w.fallbackPlace S) = none))) :
    Contained w temp S bs fs (.ok i) gs := by
  refine ⟨hmoves, hsource, iff_of_false (by rintro ⟨_, ⟨⟩⟩) hfree, ?_, ?_⟩
  · rintro _ ⟨⟩
  · rintro _ ⟨⟩
    exact hresult

lemma removed_ends (hP : fs.get? (w.primaryPlace temp S) = none) (hL : fs.get? (w.fallbackPlace S) = none)
    (hmoves : w.Moves temp S fs gs) (hS : gs.get? S = some (.file bs))
    (hP' : gs.get? (w.primaryPlace temp S) = none ∨ gs.get? (w.primaryPlace temp S) = some (.file bs))
    (hL' : gs.get? (w.fallbackPlace S) = none) (f : Fault) : Ends (do
      w.discard ⟨.single, S⟩
      return (⟨⟨.single, S⟩, .failed, [], some f⟩ : Injection)) gs (Contained w temp S bs fs) := by
  have h' := h.next hmoves ⟨bs, hS⟩
  have hfile : gs.get? (w.primaryPlace temp S) ≠ some .directory := by
    rcases hP' with hP' | hP' <;> simp [hP']
  have hblocked := h.blocked_iff hmoves ⟨bs, hS⟩
  refine (h'.discard_ends hfile (by simp [hL']) fun _ => hL').bind ?_ ?_
  · rintro _ hs ⟨hmoves', hsource, hP'', hL'', ⟨hfree, -⟩ | ⟨-, f', hf, -⟩⟩
    · refine ends_pure (.of_ok (hmoves.trans hmoves') ⟨bs, hsource bs hS⟩ ?_
        ⟨rfl, fun _ => ⟨⟨bs, .inl rfl, hsource bs hS⟩, fun _ _ => ⟨hP'', hL''⟩⟩⟩)
      rintro ⟨-, -, hb⟩
      exact hfree (hblocked.mpr hb)
    · cases hf
  · rintro e hs ⟨hmoves', hsource, hP'', hL'', ⟨-, hr⟩ | ⟨hb, f', hf, hkind⟩⟩
    · cases hr
    · cases hf
      refine ⟨hmoves.trans hmoves', ⟨bs, hsource bs hS⟩, iff_of_true ⟨e, rfl⟩ ⟨hP, hL, hblocked.mp hb⟩, ?_, ?_⟩
      · rintro _ ⟨⟩
        exact ⟨hkind, hsource bs hS, hP'', hL''⟩
      · rintro _ ⟨⟩

lemma injectFile_ends (hS : fs.get? S = some (.file bs)) {file : Path}
    (hfile : fs.resolve (w.located file) = ⟨.single, S⟩) (force : Bool) :
    Ends (w.injectFile file force) fs (Contained w temp S bs fs) := by
  unfold injectFile
  refine ends_files_bind ?_
  dsimp only
  rw [hfile]
  refine (hasBackup_asks _).ends_bind ?_
  rintro _ gs ⟨hgs, rfl⟩
  rw [hgs, hasEntry, h.entry_primary]
  split
  · rename_i hskip
    simp only [Bool.and_eq_true] at hskip
    refine (does_note _ (Q := fun _ gs => gs = fs) rfl).ends_bind ?_
    rintro _ _ rfl
    refine ends_pure (.of_ok (.refl h.grounds.sound) h.source ?_ ⟨rfl, by rintro ⟨⟩⟩)
    rintro ⟨hP, -, -⟩
    simp [hP] at hskip
  · refine (hasBackup_asks _).ends_bind ?_
    rintro _ gs ⟨hgs, rfl⟩
    rw [hgs, hasEntry, h.entry_primary]
    refine (hasLocalBackup_asks _).ends_bind ?_
    rintro _ gs ⟨hgs, rfl⟩
    rw [hgs, hasEntry, h.entry_fallback]
    refine (does_outcome (h.prepare_ends hS rfl)).ends_bind ?_
    rintro r gs ⟨hmoves, c, hc, hS', ⟨rfl, hP, hL⟩ | ⟨⟨f, rfl, hsystem⟩, hfresh⟩⟩
    · have h' := h.next hmoves ⟨c, hS'⟩
      refine Ends.mono (h'.injectPrepared_does hS' hP hL) ?_
      rintro _ hs ⟨i, rfl, hmoves', hS'', hpath, hfailed⟩
      refine .of_ok (hmoves.trans hmoves') hS'' ?_ ⟨hpath, fun hi => ?_⟩
      · rintro ⟨-, -, hb⟩
        exact h'.not_blocked hP hL ((h.blocked_iff hmoves ⟨c, hS'⟩).mpr hb)
      · obtain ⟨hS'', hP'', hL''⟩ := hfailed hi
        exact ⟨⟨c, hc, hS''⟩, fun _ _ => ⟨hP'', hL''⟩⟩
    · -- The copies were not made: those that a file without any has now are removed.
      simp only [hsystem, Bool.not_true, Bool.false_eq_true, if_false]
      refine (does_note _ (Q := fun _ hs => hs = gs) rfl).ends_bind ?_
      intro _ hs hhs
      rw [hhs]
      cases hhad : (fs.get? (w.primaryPlace temp S)).isSome || (fs.get? (w.fallbackPlace S)).isSome with
      | true =>
        refine ends_pure (.of_ok hmoves ⟨c, hS'⟩ ?_ ⟨rfl, fun _ => ⟨⟨c, hc, hS'⟩, fun hP hL => ?_⟩⟩)
        · rintro ⟨hP, hL, -⟩
          simp [hP, hL] at hhad
        · simp [hP, hL] at hhad
      | false =>
        obtain ⟨rfl, hL', hP'⟩ := hfresh hhad
        rw [Bool.or_eq_false_iff, Option.isSome_eq_false_iff, Option.isSome_eq_false_iff,
          Option.isNone_iff_eq_none, Option.isNone_iff_eq_none] at hhad
        exact h.removed_ends hhad.1 hhad.2 hmoves hS' hP' hL' f

end Spot

end CallSnapshot.Workspace
