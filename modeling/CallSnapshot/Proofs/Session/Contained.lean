import CallSnapshot.Proofs.Session.Containing
import CallSnapshot.Proofs.Session.Pristine

/-!
What goes wrong with a file that is instrumented is told in its result, and the file is as it was or as
its copy is, in a project with anything where the copies go. But a file without copies is not dealt with
where another file stands in the place of the directory of a copy: no result is given for any file then.
-/

namespace CallSnapshot

namespace Files

variable {fs : Files} {p : Path} {q dir : Place} {names : List String} {bs : List UInt8}

lemma resolveFrom_walk {links fuel : ℕ} (h : walk fs true links fuel dir names = .ok q) :
    resolveFrom fs links fuel dir names = q := by
  induction fuel generalizing links dir names with
  | zero => cases h
  | succ fuel ih =>
    cases names with
    | nil =>
      cases h
      rfl
    | cons n rest =>
      simp only [walk, resolveFrom] at h ⊢
      by_cases hn : (n == "..") = true
      · rw [if_pos hn] at h ⊢
        exact ih h
      · rw [if_neg hn] at h ⊢
        have hlast : ∀ e : FileError, (if rest.isEmpty = true then .ok (dir ++ [n]) else .error e) =
            (.ok q : Except FileError Place) → resolveFrom fs links fuel (dir ++ [n]) rest = q := by
          intro e he
          split at he
          · rename_i hrest
            cases he
            rw [List.isEmpty_iff.mp hrest]
            cases fuel <;> rfl
          · cases he
        cases hg : fs.get? (dir ++ [n]) with
        | none =>
          simp only [hg] at h ⊢
          exact hlast _ h
        | some e =>
          cases e with
          | directory =>
            simp only [hg] at h ⊢
            exact ih h
          | file c =>
            simp only [hg] at h ⊢
            exact hlast _ h
          | link t =>
            cases links with
            | zero => simp [hg] at h
            | succ links =>
              simp only [hg, Bool.not_true, Bool.and_false, Bool.false_eq_true, if_false] at h ⊢
              exact ih h

lemma resolve_of_entry {e : Entry} (h : fs.entryAt? p = some e) :
    ∃ q, fs.resolve p = ⟨.single, q⟩ ∧ fs.get? q = some e := by
  unfold entryAt? at h
  cases hq : fs.placeOf p with
  | error _ =>
    rw [hq] at h
    cases h
  | ok q =>
    rw [hq] at h
    exact ⟨q, congrArg (Path.mk .single) (resolveFrom_walk hq), h⟩

lemma isFile_iff : fs.isFile p = true ↔ ∃ c, fs.entryAt? p = some (.file c) := by
  unfold isFile
  split <;> simp_all

end Files

namespace Workspace

open Files Acting

def Uncopied (w : Workspace) (fs : Files) (p : Path) : Prop :=
  fs.hasEntry (w.primaryBackup p) = false ∧ fs.hasEntry (w.localBackup p) = false

/-- A regular file stands where the directory of a copy goes. -/
def Hemmed (w : Workspace) (fs : Files) (p : Path) : Prop :=
  fs.isFile (w.primaryBackup p).parent = true ∨ fs.isFile (w.localBackup p).parent = true

/-- The copy of one file goes where the directory for a copy of another one does. -/
def Collides (w : Workspace) (p q : Path) : Prop :=
  (w.primaryBackup p).parent = w.primaryBackup q ∨ (w.localBackup p).parent = w.localBackup q

/-- The content of the copy that a file is restored from. -/
def Backed (w : Workspace) (fs : Files) (p : Path) (c : List UInt8) : Prop :=
  fs.read (w.primaryBackup p) = .ok c ∨
    fs.hasEntry (w.primaryBackup p) = false ∧ fs.read (w.localBackup p) = .ok c

/-- What instrumenting a file with some content comes to. -/
structure Answered (w : Workspace) (fs : Files) (p : Path) (bs : List UInt8) (r : Except Fault Injection)
    (gs : Files) : Prop where
  raised : (∃ f, r = .error f) ↔ w.Uncopied fs p ∧ w.Hemmed fs p
  fault : ∀ f, r = .error f → f.kind = .notDirectory ∧ gs.read p = .ok bs ∧ w.Uncopied gs p
  result : ∀ i, r = .ok i → i.path = p ∧ (i.status = .failed →
    (∃ c, (c = bs ∨ w.Backed fs p c) ∧ gs.read p = .ok c) ∧ (w.Uncopied fs p → w.Uncopied gs p))

variable {w : Workspace} {temp S q : Place} {fs gs : Files} {bs c : List UInt8} {p : Path}

namespace Spot

variable (h : Spot w temp fs S)

include h

lemma uncopied_iff : w.Uncopied fs ⟨.single, S⟩ ↔
    fs.get? (w.primaryPlace temp S) = none ∧ fs.get? (w.fallbackPlace S) = none := by
  simp [Uncopied, hasEntry, h.entry_primary, h.entry_fallback]

lemma hemmed_iff : w.Hemmed fs ⟨.single, S⟩ ↔ w.Blocked temp fs S := by
  have hparent : ∀ d : Depot, (d.copyPath (w.relative ⟨.single, S⟩)).parent =
      down d.base (d.lead ++ (w.relative ⟨.single, S⟩).dropLast) := fun d =>
    Depot.copyPath_parent h.relative_ne_nil
  have hp : ∀ n ∈ (w.relative ⟨.single, S⟩).dropLast, Proper n := fun n hn =>
    h.relative_proper n (List.mem_of_mem_dropLast hn)
  rw [Hemmed, primaryBackup_eq w temp, localBackup_eq, hparent, hparent, isFile_iff, isFile_iff,
    h.grounds.primary.entry hp, h.grounds.fallback.entry hp, Blocked]

lemma backed_iff : w.Backed fs ⟨.single, S⟩ c ↔ w.Copied temp fs S c := by
  rw [Backed, Copied, read_eq_ok_iff, read_eq_ok_iff, hasEntry, h.entry_primary, h.entry_fallback,
    Option.isSome_eq_false_iff, Option.isNone_iff_eq_none]

lemma read_iff : fs.read ⟨.single, S⟩ = .ok c ↔ fs.get? S = some (.file c) := by
  rw [read_eq_ok_iff, h.resolved.1]

lemma resolve_located : fs.resolve (w.located ⟨.single, S⟩) = ⟨.single, S⟩ := by
  rw [show w.located ⟨.single, S⟩ = ⟨.single, S⟩ from Path.join_absolute rfl]
  exact congrArg (Path.mk .single) (resolveFrom_walk h.resolved.2)

lemma answered {r : Except Fault Injection} (hr : Contained w temp S bs fs r gs) :
    w.Answered fs ⟨.single, S⟩ bs r gs := by
  have h' : Spot w temp gs S := h.next hr.moves hr.source
  refine ⟨?_, fun f hf => ?_, fun i hi => ?_⟩
  · rw [hr.raised, h.uncopied_iff, h.hemmed_iff, and_assoc]
  · rw [h'.read_iff, h'.uncopied_iff]
    exact hr.fault f hf
  · obtain ⟨hpath, hfailed⟩ := hr.result i hi
    refine ⟨hpath, fun hs => ?_⟩
    obtain ⟨⟨c, hc, hS⟩, hgone⟩ := hfailed hs
    refine ⟨⟨c, hc.imp_right h.backed_iff.mpr, h'.read_iff.mpr hS⟩, fun hu => ?_⟩
    obtain ⟨hP, hL⟩ := h.uncopied_iff.mp hu
    exact h'.uncopied_iff.mpr (hgone hP hL)

end Spot

/-! The files of a pattern, one after another. -/

lemma suffix_copyName (names : List String) (n : String) :
    (⟨.single, names ++ [n ++ backupSuffix]⟩ : Path).suffix = ".bak" := by
  have hname : (⟨.single, names ++ [n ++ backupSuffix]⟩ : Path).name = n ++ backupSuffix := by
    simp [Path.name]
  have hback : (n ++ backupSuffix).toList.reverse =
      'k' :: 'a' :: 'b' :: '.' :: 'p' :: 'a' :: 'n' :: 's' :: '.' :: n.toList.reverse := by
    rw [String.toList_append, List.reverse_append]
    rfl
  unfold Path.suffix
  rw [hname, hback]
  rfl

lemma ne_copyPlace {d : Depot} {rel : List String} (hne : rel ≠ []) (hroot : p.root = .single)
    (hsuffix : p.suffix = ".py") : p.names ≠ d.copyPlace rel := by
  intro heq
  have hcopy : p = ⟨.single, d.dir ++ rel.dropLast ++ [rel.getLast hne ++ backupSuffix]⟩ := by
    rw [← Depot.copyPlace_eq hne, ← heq, ← hroot]
  rw [hcopy, suffix_copyName] at hsuffix
  exact absurd hsuffix (by decide)

lemma parent_eq_copyPath {d : Depot} {rel rel' : List String} (hne : rel ≠ [])
    (h : d.dir ++ rel.dropLast = d.copyPlace rel') : (d.copyPath rel).parent = d.copyPath rel' := by
  rw [Depot.copyPath_parent hne, List.append_cancel_left h]
  rfl

lemma not_collides_self (w : Workspace) (p : Path) : ¬ w.Collides p p := by
  have hshort : ∀ (dir : Path) (r : List String), r ≠ [] → (⟨dir.root, dir.names ++ r⟩ : Path).parent ≠
      ⟨dir.root, dir.names ++ r⟩ := by
    intro dir r hr heq
    have hlength := congrArg (fun p : Path => p.names.length) heq
    have := List.length_pos_of_ne_nil hr
    simp [Path.parent] at hlength
    omega
  rintro (heq | heq)
  · exact hshort _ _ (Path.extend_ne_nil _ _) heq
  · exact hshort _ _ (Path.extend_ne_nil _ _) heq

lemma found_file {pattern : Option String} (hp : p ∈ fs.sourceFiles w.project pattern)
    (hself : fs.resolve p = p) : p.root = .single ∧ p.suffix = ".py" ∧ ∃ c, fs.get? p.names = some (.file c) := by
  have hmem := Path.mem_sorted.mp hp
  simp only [List.mem_filter, List.mem_map, Bool.and_eq_true, beq_iff_eq] at hmem
  obtain ⟨-, ⟨hfile, hsuffix⟩, -⟩ := hmem
  obtain ⟨c, hc⟩ := isFile_iff.mp hfile
  obtain ⟨q, hq, hentry⟩ := resolve_of_entry hc
  obtain rfl : p = ⟨.single, q⟩ := hself.symm.trans hq
  exact ⟨rfl, hsuffix, c, hentry⟩

/-- The tree while the files that were found are worked on: they are files, and of the files that came
since each is one of their copies. -/
structure Amid (w : Workspace) (temp : Place) (found : List Path) (fs gs : Files) : Prop where
  grounds : Grounds w temp gs
  source : ∀ p ∈ found, p.root = .single ∧ p.suffix = ".py" ∧ ∃ c, gs.get? p.names = some (.file c)
  copies : ∀ q, (∃ c, gs.get? q = some (.file c)) → (∃ c, fs.get? q = some (.file c)) ∨
    ∃ p ∈ found, q = w.primaryPlace temp p.names ∨ q = w.fallbackPlace p.names

namespace Amid

variable {hs : Files} {found : List Path} (h : Amid w temp found fs gs)

include h

lemma spot (hp : p ∈ found) : p = ⟨.single, p.names⟩ ∧ Spot w temp gs p.names := by
  obtain ⟨hroot, -, hsource⟩ := h.source p hp
  exact ⟨by rw [← hroot], h.grounds, hsource⟩

lemma next (hp : p ∈ found) (hm : w.Moves temp p.names gs hs)
    (hS : ∃ c, hs.get? p.names = some (.file c)) : Amid w temp found fs hs := by
  have hspot := (h.spot hp).2
  refine ⟨(hspot.next hm hS).grounds, fun q hq => ?_, fun q hq => ?_⟩
  · obtain ⟨hroot, hsuffix, hfile⟩ := h.source q hq
    have hne := hspot.relative_ne_nil
    exact ⟨hroot, hsuffix, (hspot.file_iff hm hS (ne_copyPlace hne hroot hsuffix)
      (ne_copyPlace hne hroot hsuffix)).mpr hfile⟩
  · by_cases hcopy : q = w.primaryPlace temp p.names ∨ q = w.fallbackPlace p.names
    · exact .inr ⟨p, hp, hcopy⟩
    · exact h.copies q ((hspot.file_iff hm hS (fun hP => hcopy (.inl hP)) fun hL => hcopy (.inr hL)).mp hq)

lemma hemmed (h₀ : Spot w temp fs p.names) (hp : p ∈ found) (hb : w.Blocked temp gs p.names) :
    w.Hemmed fs p ∨ ∃ q ∈ found, w.Collides p q := by
  obtain ⟨hpath, hspot⟩ := h.spot hp
  have hne := hspot.relative_ne_nil
  have hapart := h.grounds.apart
  have hsession : w.sessionPlace temp <+:
      (w.primaryDepot temp).dir ++ (w.relative ⟨.single, p.names⟩).dropLast :=
    (w.primaryDepot temp).root_prefix_dir.trans (List.prefix_append _ _)
  have hlocal : w.localPlace <+: w.localDepot.dir ++ (w.relative ⟨.single, p.names⟩).dropLast :=
    List.prefix_append _ _
  have hcollides : ∀ q ∈ found,
      (w.primaryDepot temp).dir ++ (w.relative ⟨.single, p.names⟩).dropLast = w.primaryPlace temp q.names ∨
        w.localDepot.dir ++ (w.relative ⟨.single, p.names⟩).dropLast = w.fallbackPlace q.names →
      w.Collides p q := by
    intro q hq heq
    rw [hpath, (h.spot hq).1, Collides, Spot.primaryBackup_eq w temp, Spot.primaryBackup_eq w temp,
      Spot.localBackup_eq, Spot.localBackup_eq]
    exact heq.imp (parent_eq_copyPath hne) (parent_eq_copyPath hne)
  -- A copy of the one kind is never in the way of one of the other: their directories are apart.
  rcases hb with hb | hb
  · rcases h.copies _ hb with hstart | ⟨q, hq, heq | heq⟩
    · refine .inl ?_
      rw [hpath]
      exact h₀.hemmed_iff.mpr (.inl hstart)
    · exact .inr ⟨q, hq, hcollides q hq (.inl heq)⟩
    · exact absurd (heq ▸ fallbackPlace_inside w q.names) (not_prefix_of_apart hapart hsession)
  · rcases h.copies _ hb with hstart | ⟨q, hq, heq | heq⟩
    · refine .inl ?_
      rw [hpath]
      exact h₀.hemmed_iff.mpr (.inr hstart)
    · exact absurd hlocal (not_prefix_of_apart hapart (heq ▸ primaryPlace_inside w temp q.names))
    · exact .inr ⟨q, hq, hcollides q hq (.inr heq)⟩

lemma resolved (hp : p ∈ found) : gs.resolve (w.located p) = p := by
  obtain ⟨hpath, hspot⟩ := h.spot hp
  rw [hpath]
  exact hspot.resolve_located

end Amid

namespace Grounds

variable (h : Grounds w temp fs)

include h

lemma injectFile_answers {file : Path} (hread : fs.read (w.located file) = .ok bs) (force : Bool) :
    Ends (w.injectFile file force) fs (w.Answered fs (fs.resolve (w.located file)) bs) := by
  obtain ⟨S, hfile, hS⟩ := resolve_of_entry (read_eq_ok_iff.mp hread)
  have hspot : Spot w temp fs S := ⟨h, bs, hS⟩
  rw [hfile]
  exact (hspot.injectFile_ends hS hfile force).mono fun _ _ hr => hspot.answered hr

lemma inject_answers {pattern : Option String}
    (hself : ∀ p ∈ fs.sourceFiles w.project pattern, fs.resolve p = p) (force : Bool) :
    Ends (w.inject pattern force) fs fun r _ =>
      (∃ results, r = .ok results ∧ results.map Injection.path = fs.sourceFiles w.project pattern) ∨
        ∃ f, r = .error f ∧ f.kind = .notDirectory ∧ ∃ p ∈ fs.sourceFiles w.project pattern,
          w.Hemmed fs p ∨ ∃ q ∈ fs.sourceFiles w.project pattern, w.Collides p q := by
  have hstart : Amid w temp (fs.sourceFiles w.project pattern) fs fs :=
    ⟨h, fun p hp => found_file hp (hself p hp), fun q hq => .inl hq⟩
  unfold inject
  refine Does.ends_bind (files_does w pattern) ?_
  rintro _ gs ⟨rfl, rfl⟩
  dsimp only
  split
  · rename_i hempty
    refine (does_note _ (Q := fun _ hs => hs = gs) rfl).ends_bind ?_
    rintro _ _ rfl
    exact ends_pure (.inl ⟨[], rfl, by simpa using (List.isEmpty_iff.mp hempty).symm⟩)
  · refine (does_note _ (Q := fun _ hs => hs = gs) rfl).ends_bind ?_
    intro _ fs hfs
    rw [hfs]
    -- Between two files `Amid` holds, and the results are those of the files that are done.
    refine (ends_mapM (I := fun pre results hs => Amid w temp (gs.sourceFiles w.project pattern) gs hs ∧
      results.map Injection.path = pre) (E := fun f _ => f.kind = .notDirectory ∧
        ∃ p ∈ gs.sourceFiles w.project pattern, w.Hemmed gs p ∨
          ∃ q ∈ gs.sourceFiles w.project pattern, w.Collides p q) ?_ ⟨hstart, rfl⟩).mono ?_
    · intro pre p post results hs hfound ⟨hamid, hpaths⟩
      have hp : p ∈ gs.sourceFiles w.project pattern := by simp [hfound]
      obtain ⟨hpath, hspot⟩ := hamid.spot hp
      obtain ⟨bs, hbs⟩ := hspot.source
      refine (hspot.injectFile_ends hbs ((hamid.resolved hp).trans hpath) force).mono ?_
      rintro (f | i) ks hr
      · obtain ⟨-, -, hb⟩ := hr.raised.mp ⟨f, rfl⟩
        exact .inr ⟨f, rfl, (hr.fault f rfl).1, p, hp, hamid.hemmed (hstart.spot hp).2 hp hb⟩
      · refine .inl ⟨i, rfl, hamid.next hp hr.moves hr.source, ?_⟩
        rw [List.map_append, hpaths, List.map_singleton, (hr.result i rfl).1, ← hpath]
    · rintro r ks (⟨results, hr, -, hpaths⟩ | ⟨f, hr, hkind, hcause⟩)
      · exact .inl ⟨results, hr, hpaths⟩
      · exact .inr ⟨f, hr, hkind, hcause⟩

end Grounds

/-- A file is instrumented or its fault is told in a result, and then it is as it was or as its copy was,
with no copies if it had none before. Only where it has no copies and a file stands in the place of the
directory of one, the removal of the copies fails; the file is as it was, but no result is given. Of many
files each has its result, but where one of them is so placed or two get in each other's way. -/
theorem injections_answered (h : Grounds w temp fs) (force : Bool) :
    (∀ file bs, fs.read (w.located file) = .ok bs →
      Ends (w.injectFile file force) fs (w.Answered fs (fs.resolve (w.located file)) bs)) ∧
    ∀ pattern, (∀ p ∈ fs.sourceFiles w.project pattern, fs.resolve p = p) →
      Ends (w.inject pattern force) fs fun r _ =>
        (∃ results, r = .ok results ∧ results.map Injection.path = fs.sourceFiles w.project pattern) ∨
          ∃ f, r = .error f ∧ f.kind = .notDirectory ∧ ∃ p ∈ fs.sourceFiles w.project pattern,
            w.Hemmed fs p ∨ ∃ q ∈ fs.sourceFiles w.project pattern, w.Collides p q :=
  ⟨fun _ _ hread => h.injectFile_answers hread force, fun _ hself => h.inject_answers hself force⟩

/-! A small project with a file in the place of the directory for copies. -/

def smallFile : Path := ⟨.single, ["p", "a.py"]⟩

def hemmedFiles : Files := smallFiles.put ["p", localBackupName] (.file [])

lemma small_grounds : Grounds smallWorkspace ["t"] smallFiles := by
  refine ⟨small_sound, rfl, rfl, small_site.leads, small_site.apart, fun q t _ hlink => ?_⟩
  have hne : q ≠ [] := by
    rintro rfl
    cases hlink
  rcases small_places hne (by rw [hlink]; rfl) with rfl | rfl | rfl <;> cases hlink

lemma hemmed_grounds : Grounds smallWorkspace ["t"] hemmedFiles := by
  have hput : Tended (smallWorkspace.Inside ["t"]) (Eq smallWorkspace.localPlace) smallFiles hemmedFiles :=
    .put small_sound localName_proper rfl (by decide) rfl []
  refine small_grounds.next hput fun q hq hin => absurd (.inr ?_) hin
  rw [hq]

lemma small_spot : Spot smallWorkspace ["t"] smallFiles smallFile.names := ⟨small_grounds, smallContent, rfl⟩

lemma hemmed_spot : Spot smallWorkspace ["t"] hemmedFiles smallFile.names := ⟨hemmed_grounds, smallContent, rfl⟩

lemma small_deep {q : Place} (hq : 2 < q.length) : smallFiles.get? q = none := by
  rw [← Option.not_isSome_iff_eq_none]
  intro hs
  rcases small_places (by rintro rfl; simp at hq) hs with rfl | rfl | rfl <;> simp at hq

lemma hemmed_deep {q : Place} (hq : 2 < q.length) : hemmedFiles.get? q = none := by
  rw [hemmedFiles, get?_put _ (by simp), if_neg, small_deep hq]
  rintro rfl
  simp at hq

lemma small_relative : smallWorkspace.relative ⟨.single, smallFile.names⟩ = ["a.py"] := by decide

lemma hemmed_small : smallWorkspace.Uncopied hemmedFiles smallFile ∧
    smallWorkspace.Hemmed hemmedFiles smallFile := by
  refine ⟨hemmed_spot.uncopied_iff.mpr ⟨hemmed_deep ?_, hemmed_deep ?_⟩,
    hemmed_spot.hemmed_iff.mpr (.inr ⟨[], ?_⟩)⟩
  · rw [primaryPlace, small_relative]
    exact Nat.le.step Nat.le.refl
  · rw [fallbackPlace, small_relative]
    exact Nat.le.refl
  · rw [small_relative]
    rfl

lemma small_unhemmed : ¬ smallWorkspace.Hemmed smallFiles smallFile := by
  intro hh
  rcases small_spot.hemmed_iff.mp hh with ⟨c, hc⟩ | ⟨c, hc⟩ <;> rw [small_relative] at hc
  · cases (small_deep (q := ["t", smallWorkspace.sessionName, "backup"]) (by simp)).symm.trans hc
  · cases hc

/-- Where the other file stands the one is not dealt with, and where it does not each has its result. -/
theorem injections_answered_hemmed :
    (smallWorkspace.Uncopied hemmedFiles smallFile ∧ smallWorkspace.Hemmed hemmedFiles smallFile ∧
      ∃ f, ((smallWorkspace.injectFile ⟨.relative, ["a.py"]⟩ false).run.run ⟨hemmedFiles, [], .warning⟩).1 =
        .error f ∧ f.kind = .notDirectory) ∧
    ∃ results, ((smallWorkspace.inject (some "a.py") false).run.run ⟨smallFiles, [], .warning⟩).1 =
      .ok results ∧ results.map Injection.path = [smallFile] := by
  obtain ⟨huncopied, hhemmed⟩ := hemmed_small
  have hfound : smallFiles.sourceFiles smallWorkspace.project (some "a.py") = [smallFile] := by decide +kernel
  have hfile := (injections_answered hemmed_grounds false).1 ⟨.relative, ["a.py"]⟩ smallContent rfl
    ⟨hemmedFiles, [], .warning⟩ rfl
  have hall := (injections_answered small_grounds false).2 (some "a.py")
    (by rw [hfound]; decide) ⟨smallFiles, [], .warning⟩ rfl
  refine ⟨⟨huncopied, hhemmed, ?_⟩, ?_⟩
  · obtain ⟨f, hf⟩ := hfile.raised.mpr ⟨huncopied, hhemmed⟩
    exact ⟨f, hf, (hfile.fault f hf).1⟩
  · rcases hall with ⟨results, hr, hpaths⟩ | ⟨f, -, -, p, hp, hcause⟩
    · exact ⟨results, hr, hpaths.trans hfound⟩
    · rw [hfound] at hp hcause
      obtain rfl := List.mem_singleton.mp hp
      rcases hcause with hh | ⟨q, hq, hcollides⟩
      · exact absurd hh small_unhemmed
      · obtain rfl := List.mem_singleton.mp hq
        exact absurd hcollides (not_collides_self smallWorkspace smallFile)

end Workspace

end CallSnapshot
