import CallSnapshot.Proofs.Session.Depot

/-!
Keeping copies in a directory with anything in it, files where directories are expected and directories
where copies are. Making a copy fails and changes no file, or it makes the copy. Taking one away does so
and clears the empty directories above it, or it fails on a file in the place of the nearest of these.
-/

namespace CallSnapshot

namespace Files

variable {fs gs hs : Files} {inside inside' skip skip' : Place → Prop} {q dir : Place} {n : String}
  {c : List UInt8}

def Hollow (e : Option Entry) : Prop := e = none ∨ e = some .directory

/-- The tree after some work: but for the places that are skipped, only directories came and went, and
only inside; no link was made. -/
structure Tended (inside skip : Place → Prop) (fs gs : Files) : Prop where
  sound : Sound gs
  current : gs.current = fs.current
  kept : ∀ q, ¬ skip q → gs.get? q = fs.get? q ∨ inside q ∧ Hollow (fs.get? q) ∧ Hollow (gs.get? q)
  unlinked : ∀ q t, gs.get? q = some (.link t) → fs.get? q = some (.link t)

namespace Tended

lemma refl (h : Sound fs) : Tended inside skip fs fs := ⟨h, rfl, fun _ _ => .inl rfl, fun _ _ => id⟩

lemma trans (h : Tended inside skip fs gs) (h' : Tended inside skip gs hs) : Tended inside skip fs hs := by
  refine ⟨h'.sound, h'.current.trans h.current, fun q hq => ?_,
    fun q t ht => h.unlinked q t (h'.unlinked q t ht)⟩
  rcases h'.kept q hq with heq | ⟨hin, hmid, hlast⟩
  · rw [heq]
    exact h.kept q hq
  · rcases h.kept q hq with heq | ⟨-, hfirst, -⟩
    · exact .inr ⟨hin, heq ▸ hmid, hlast⟩
    · exact .inr ⟨hin, hfirst, hlast⟩

lemma mono (h : Tended inside skip fs gs) (hin : ∀ q, inside q → inside' q)
    (hskip : ∀ q, skip q → skip' q) : Tended inside' skip' fs gs := by
  refine ⟨h.sound, h.current, fun q hq => ?_, h.unlinked⟩
  exact (h.kept q fun hs => hq (hskip q hs)).imp_right fun ⟨hi, h'⟩ => ⟨hin q hi, h'⟩

lemma file_iff (h : Tended inside skip fs gs) (hq : ¬ skip q) :
    gs.get? q = some (.file c) ↔ fs.get? q = some (.file c) := by
  rcases h.kept q hq with heq | ⟨-, hfs, hgs⟩
  · rw [heq]
  · constructor <;> intro hfile
    · rcases hgs with hg | hg <;> rw [hfile] at hg <;> cases hg
    · rcases hfs with hg | hg <;> rw [hfile] at hg <;> cases hg

lemma outside (h : Tended inside skip fs gs) (hq : ¬ skip q) (hin : ¬ inside q) : gs.get? q = fs.get? q :=
  (h.kept q hq).resolve_right fun hr => hin hr.1

lemma of_grown {rest : List String} (h : Grown fs gs dir rest)
    (hin : ∀ r, r ≠ [] → r <+: rest → inside (dir ++ r)) : Tended inside skip fs gs := by
  refine ⟨h.sound, h.current, fun q _ => ?_, fun q t ht => ?_⟩
  · rcases h.kept q with heq | ⟨hnone, hmade, r, hne, hr, rfl⟩
    · exact .inl heq
    · exact .inr ⟨hin r hne hr, .inl hnone, .inr hmade⟩
  · rcases h.kept q with heq | ⟨-, hmade, -⟩
    · rwa [← heq]
    · rw [hmade] at ht
      cases ht

lemma put (hs : Sound fs) (hn : Proper n) (hdir : fs.get? dir = some .directory)
    (hq : fs.get? (dir ++ [n]) ≠ some .directory) (hskip : skip (dir ++ [n])) (c : List UInt8) :
    Tended inside skip fs (fs.put (dir ++ [n]) (.file c)) := by
  have hget := get?_put fs (p := dir ++ [n]) (by simp) (.file c)
  refine ⟨hs.put hn hdir (.inr hq), rfl, fun q hns => .inl ?_, fun q t ht => ?_⟩
  · rw [hget, if_neg]
    rintro rfl
    exact hns hskip
  · rw [hget] at ht
    split at ht
    · cases ht
    · exact ht

lemma erase (hs : Sound fs) (hne : q ≠ []) (halone : ∀ n, fs.get? (q ++ [n]) = none)
    (hq : skip q ∨ inside q ∧ fs.get? q = some .directory) : Tended inside skip fs (fs.erase q) := by
  have hget := get?_erase fs hne
  refine ⟨hs.erase hne halone, rfl, fun p hp => ?_, fun p t ht => ?_⟩
  · rw [hget]
    split
    · rename_i heq
      subst heq
      exact .inr ⟨(hq.resolve_left hp).1, .inr (hq.resolve_left hp).2, .inl rfl⟩
    · exact .inl rfl
  · rw [hget] at ht
    split at ht
    · cases ht
    · exact ht

end Tended

/-- Nothing is taken away but directories, and nothing new is there. -/
def Thinned (fs gs : Files) : Prop := ∀ q, gs.get? q = fs.get? q ∨ fs.get? q = some .directory

lemma Thinned.trans (h : Thinned fs gs) (h' : Thinned gs hs) : Thinned fs hs := by
  intro q
  rcases h' q with heq | hdir
  · rw [heq]
    exact h q
  · rcases h q with heq | hdir'
    · exact .inr (heq ▸ hdir)
    · exact .inr hdir'

section Plain

open Acting Workspace

variable {p : Place} {rest : List String}

/-- No directory that is named as a copy has come into being. -/
def Plain (fs gs : Files) : Prop :=
  ∀ q, gs.get? q = some .directory → fs.get? q = some .directory ∨ Depot.Unmarked q

namespace Plain

lemma refl (fs : Files) : Plain fs fs := fun _ => .inl

lemma trans (h : Plain fs gs) (h' : Plain gs hs) : Plain fs hs := by
  intro q hq
  rcases h' q hq with hq | hq
  · exact h q hq
  · exact .inr hq

lemma put (hp : p ≠ []) (c : List UInt8) : Plain fs (fs.put p (.file c)) := by
  intro q hq
  rw [get?_put fs hp] at hq
  split at hq
  · cases hq
  · exact .inl hq

lemma of_grown (h : Grown fs gs dir rest) (hrest : ∀ n ∈ rest, isBackupName n = false) : Plain fs gs := by
  intro q hq
  rcases h.kept q with heq | ⟨-, -, r, hne, hr, rfl⟩
  · exact .inl (heq ▸ hq)
  · refine .inr fun n hn => hrest n (hr.subset (List.mem_of_getLast? ?_))
    rwa [List.getLast?_append_of_ne_nil _ hne] at hn

lemma bind {α β : Type} {c : Acting α} {f : α → Acting β} (hc : Ends c fs fun _ gs => Plain fs gs)
    (hf : ∀ a gs, Ends (f a) gs fun _ hs => Plain gs hs) : Ends (c >>= f) fs fun _ gs => Plain fs gs := by
  refine hc.bind (fun a gs hgs => ?_) fun _ _ hgs => hgs
  exact (hf a gs).mono fun _ _ hhs => hgs.trans hhs

end Plain

lemma copy_plain {source target : Path} (h : fs.copy source target = .ok gs) : Plain fs gs := by
  obtain ⟨c, -, hwrite⟩ := copy_eq_ok.mp h
  obtain ⟨q, -, hq, rfl⟩ := write_eq_ok.mp hwrite
  refine .put ?_ c
  rintro rfl
  exact hq (get?_nil fs)

lemma Tended.copy_kept {inside skip : Place → Prop} (ht : Tended inside skip fs gs) (hp : Plain fs gs)
    (hskip : ¬ skip q) (hmarked : ¬ Depot.Unmarked q) (hfree : fs.get? q ≠ some .directory) :
    gs.get? q = fs.get? q := by
  rcases ht.kept q hskip with heq | ⟨-, hfs, hgs⟩
  · exact heq
  · rcases hgs with hgs | hgs
    · rw [hgs, hfs.resolve_right hfree]
    · exact absurd ((hp q hgs).resolve_right hmarked) hfree

end Plain

section Making

variable {b : Path} {rest r : List String}

lemma makeFrom_blocked (hs : Sound fs) (hr : ∀ n ∈ rest, n ≠ "..") (hl : Linkless fs dir rest)
    (hne : r ≠ []) (hp : r <+: rest) (hfile : fs.get? (dir ++ r) = some (.file c)) (fuel : ℕ) :
    ∃ e, makeFrom fuel fs dir rest = .error e := by
  -- Down the names: up to the file there are directories already, so none is made before it is met.
  induction rest generalizing dir r fuel with
  | nil => exact absurd (List.prefix_nil.mp hp) hne
  | cons n rest ih =>
    cases fuel with
    | zero => exact ⟨_, rfl⟩
    | succ fuel =>
      rw [List.forall_mem_cons] at hr
      obtain ⟨m, r, rfl⟩ := List.exists_cons_of_ne_nil hne
      obtain ⟨rfl, hp'⟩ := List.cons_prefix_cons.mp hp
      simp only [makeFrom, beq_iff_eq, hr.1, if_false]
      rw [← List.singleton_append, ← List.append_assoc] at hfile
      cases hg : fs.get? (dir ++ [m]) with
      | none =>
        by_cases hnil : r = []
        · rw [hnil, List.append_nil, hg] at hfile
          cases hfile
        · rw [hs.get?_below_none hnil (by simp [hg])] at hfile
          cases hfile
      | some e =>
        cases e with
        | file _ => exact ⟨_, rfl⟩
        | link t => exact absurd hg (hl [m] (by simp) (by simp) t)
        | directory =>
          have hnil : r ≠ [] := by
            rintro rfl
            rw [List.append_nil, hg] at hfile
            cases hfile
          exact ih hr.2 hl.tail hnil hp' hfile fuel

lemma makeDirectories_blocked (h : Leads fs b dir) (hs : Sound fs) (hr : ∀ n ∈ rest, n ≠ "..")
    (hl : Linkless fs dir rest) (hne : r ≠ []) (hp : r <+: rest)
    (hfile : fs.get? (dir ++ r) = some (.file c)) :
    ∃ e, fs.makeDirectories (down b rest) = .error e := by
  obtain ⟨links, fuel, -, -, hmake⟩ := walk_on h.place h.directory
  have := hmake rest.length rest
  rw [makeDirectories, down, stepLimit_append]
  obtain ⟨e, he⟩ := makeFrom_blocked hs hr hl hne hp hfile (fuel + rest.length)
  exact ⟨e, this.trans he⟩

lemma makeDirectories_cases (h : Leads fs b dir) (hs : Sound fs) (hr : ∀ n ∈ rest, Proper n)
    (hl : Linkless fs dir rest) :
    (∃ gs, fs.makeDirectories (down b rest) = .ok gs ∧ Grown fs gs dir rest) ∨
      ∃ e, fs.makeDirectories (down b rest) = .error e := by
  by_cases hc : Clear fs dir rest
  · exact .inl (makeDirectories_down h hs hr hc)
  · unfold Clear at hc
    push Not at hc
    obtain ⟨r, hne, hp, hsome, hdir⟩ := hc
    refine .inr ?_
    cases hg : fs.get? (dir ++ r) with
    | none => exact absurd hg hsome
    | some e =>
      cases e with
      | directory => exact absurd hg hdir
      | link t => exact absurd hg (hl r hne hp t)
      | file c => exact makeDirectories_blocked h hs (fun n hn => (hr n hn).2) hl hne hp hg

end Making

lemma fault_isSystem (e : FileError) (path : String) : (e.fault path).kind.isSystem = true := by
  cases e <;> rfl

lemma copy_eq_error {source target : Path} {f : Fault} (h : fs.copy source target = .error f) :
    f.kind.isSystem = true := by
  unfold copy at h
  cases hread : fs.read source with
  | error e =>
    rw [hread] at h
    cases h
    exact fault_isSystem _ _
  | ok bs =>
    rw [hread] at h
    cases hwrite : fs.write target bs with
    | error e =>
      simp only [Except.mapError, bind, Except.bind, hwrite] at h
      cases h
      exact fault_isSystem _ _
    | ok gs =>
      simp only [Except.mapError, bind, Except.bind, hwrite] at h
      cases h

end Files

namespace Depot

open Files Workspace Acting

variable {d : Depot} {fs gs : Files} {rel r : List String} {q : Place} {bs c : List UInt8}

/-- The way to the depot leads there, and no link is in it. -/
structure Open (d : Depot) (fs : Files) : Prop where
  sound : Sound fs
  reached : d.Reached fs
  unlinked : ∀ q t, d.root <+: q → fs.get? q ≠ some (.link t)

abbrev Tends (d : Depot) (rel : List String) : Files → Files → Prop :=
  Tended (fun q => d.root <+: q) fun q => q = d.copyPlace rel

lemma root_prefix_copyPlace (d : Depot) (rel : List String) : d.root <+: d.copyPlace rel :=
  d.root_prefix_dir.trans (List.prefix_append _ _)

lemma Tends.elsewhere (h : d.Tends rel fs gs) (hq : ¬ d.root <+: q) : gs.get? q = fs.get? q := by
  refine h.outside ?_ hq
  rintro rfl
  exact hq (d.root_prefix_copyPlace rel)

lemma copyPlace_eq (hne : rel ≠ []) :
    d.copyPlace rel = d.dir ++ rel.dropLast ++ [rel.getLast hne ++ backupSuffix] := by
  rw [copyPlace, Path.extend_eq hne, List.append_assoc]

lemma unmarked_nil : Unmarked [] := by simp [Unmarked]

lemma unmarked_append {r : List String} (hne : r ≠ []) : Unmarked (q ++ r) ↔ Unmarked r := by
  rw [Unmarked, Unmarked, List.getLast?_append_of_ne_nil _ hne]

lemma not_unmarked_extend (hne : rel ≠ []) : ¬ Unmarked (Path.extend rel backupSuffix) := by
  intro h
  rw [Path.extend_eq hne] at h
  have := h (rel.getLast hne ++ backupSuffix) (by simp)
  rw [isBackupName_extend] at this
  cases this

lemma not_unmarked_copyPlace (d : Depot) (hne : rel ≠ []) : ¬ Unmarked (d.copyPlace rel) := by
  rw [copyPlace, unmarked_append (Path.extend_ne_nil _ _)]
  exact not_unmarked_extend hne

lemma root_prefix_lead (hne : r ≠ []) (hp : r <+: d.lead ++ rel) : d.root <+: d.place ++ r := by
  obtain ⟨m, r, rfl⟩ := List.exists_cons_of_ne_nil hne
  obtain ⟨rfl, -⟩ := List.cons_prefix_cons.mp hp
  exact ⟨r, by simp [root]⟩

lemma copyFile_ends {source target : Path} : Ends (copyFile source target) fs fun r gs =>
    (r = .ok () ∧ fs.copy source target = .ok gs) ∨
      ∃ f, r = .error f ∧ fs.copy source target = .error f ∧ gs = fs := by
  refine ends_files_bind (ends_settle_bind (fun gs hgs => ?_) fun f hf => ?_)
  · refine Ends.mono (does_modify (Q := fun _ hs => hs = gs) rfl) ?_
    rintro r _ ⟨⟨⟩, rfl, rfl⟩
    exact .inl ⟨rfl, hgs⟩
  · exact .inr ⟨f, rfl, hf, rfl⟩

namespace Open

lemma next (h : d.Open fs) (ht : d.Tends rel fs gs) : d.Open gs := by
  refine ⟨ht.sound, ⟨h.reached.proper, fun hs hsound hc hq => ?_⟩, fun q t hq hlink =>
    h.unlinked q t hq (ht.unlinked q t hlink)⟩
  refine h.reached.leads hs hsound (hc.trans ht.current) fun q hr => ?_
  rw [hq q hr, ht.elsewhere hr]

section Places

variable (h : d.Open fs)

include h

lemma linkless (r : List String) : Linkless fs d.place (d.lead ++ r) := by
  exact fun t hne hp u => h.unlinked _ u (root_prefix_lead hne hp)

lemma proper (hp : ∀ n ∈ r, Proper n) : ∀ n ∈ d.lead ++ r, Proper n := by
  intro n hn
  rcases List.mem_append.mp hn with hn | hn
  · exact h.reached.proper n hn
  · exact hp n hn

lemma entry (hp : ∀ n ∈ r, Proper n) : fs.entryAt? (down d.base (d.lead ++ r)) = fs.get? (d.dir ++ r) := by
  rw [(h.reached.here h.sound).entryAt?_down (fun n hn => (h.proper hp n hn).2) (h.linkless r) h.sound, dir,
    List.append_assoc]

lemma places (hp : ∀ n ∈ r, Proper n) (hr : fs.get? (d.dir ++ r).dropLast = some .directory) :
    fs.placeOf (down d.base (d.lead ++ r)) = .ok (d.dir ++ r) ∧
      fs.ownPlaceOf (down d.base (d.lead ++ r)) = .ok (d.dir ++ r) := by
  have hne : d.lead ++ r ≠ [] := by simp [lead]
  rw [dir, List.append_assoc] at hr ⊢
  rw [List.dropLast_append_of_ne_nil hne] at hr
  have hnames : ∀ n ∈ d.lead ++ r, n ≠ ".." := fun n hn => (h.proper hp n hn).2
  have hleads := h.reached.here h.sound
  exact ⟨hleads.placeOf_down hnames (h.linkless r) h.sound fun _ => hr,
    hleads.ownPlaceOf_down hnames (h.linkless r) h.sound hne hr⟩

omit h in
lemma directory_above (hs : Sound fs) (hr : (fs.get? (d.dir ++ r)).isSome = true) :
    fs.get? (d.dir ++ r).dropLast = some .directory := by
  have hne : d.dir ++ r ≠ [] := by simp [dir, lead]
  refine hs.above (r := [(d.dir ++ r).getLast hne]) (by simp) ?_
  rwa [List.dropLast_append_getLast]

lemma found (hp : ∀ n ∈ r, Proper n) (hr : ∀ c, fs.get? (d.dir ++ r) ≠ some (.file c))
    (hentry : fs.hasEntry (down d.top r) = true) :
    fs.get? (d.dir ++ r) = some .directory ∧ fs.placeOf (down d.top r) = .ok (d.dir ++ r) ∧
      fs.ownPlaceOf (down d.top r) = .ok (d.dir ++ r) := by
  rw [top, down_down] at hentry ⊢
  rw [hasEntry, h.entry hp] at hentry
  refine ⟨?_, h.places hp (directory_above h.sound hentry)⟩
  obtain ⟨e, hg⟩ := Option.isSome_iff_exists.mp hentry
  cases e with
  | directory => exact hg
  | file c => exact absurd hg (hr c)
  | link t => exact absurd hg (h.unlinked _ t (d.root_prefix_dir.trans (List.prefix_append _ _)))

lemma removeDirectory_tends (hown : fs.ownPlaceOf (down d.top r) = .ok (d.dir ++ r))
    (hremove : fs.removeDirectory (down d.top r) = .ok gs) (rel : List String) :
    gs = fs.erase (d.dir ++ r) ∧ d.Tends rel fs gs ∧ Thinned fs gs := by
  obtain ⟨q, hq, hg, hempty, rfl⟩ := removeDirectory_eq_ok.mp hremove
  obtain rfl := Except.ok.inj (hown.symm.trans hq)
  have hne : d.dir ++ r ≠ [] := by simp [dir, lead]
  have halone : ∀ n, fs.get? (d.dir ++ r ++ [n]) = none := by
    intro n
    rw [← Option.not_isSome_iff_eq_none, ← mem_children, hempty]
    exact List.not_mem_nil
  refine ⟨rfl, .erase h.sound hne halone (.inr ⟨d.root_prefix_dir.trans (List.prefix_append _ _), hg⟩), fun q => ?_⟩
  rcases get?_erase_cases fs (d.dir ++ r) q with hsame | ⟨rfl, -⟩
  · exact .inl hsame
  · exact .inr hg

lemma prunes_tends {o : Except Fault Unit} (hprunes : Prunes d.top r fs o gs) (rel : List String)
    (hp : ∀ n ∈ r, Proper n) (hr : ∀ c, fs.get? (d.dir ++ r) ≠ some (.file c)) :
    o = .ok () ∧ d.Tends rel fs gs ∧ Thinned fs gs := by
  -- Upwards: above what is there is a directory, so a file can only be met at the first place.
  induction hprunes with
  | absent hdir => exact ⟨rfl, .refl h.sound, fun q => .inl rfl⟩
  | full hdir hlist hne => exact ⟨rfl, .refl h.sound, fun q => .inl rfl⟩
  | unlisted hdir hlist =>
    obtain ⟨hg, hplace, -⟩ := h.found hp hr hdir
    cases hlist.symm.trans (list_directory hplace hg)
  | kept hdir hlist hremove =>
    obtain ⟨hg, hplace, hown⟩ := h.found hp hr hdir
    have hempty := Except.ok.inj ((list_directory hplace hg).symm.trans hlist)
    cases hremove.symm.trans (removeDirectory_empty hown hg hempty)
  | last htop hdir hlist hremove => exact ⟨rfl, (h.removeDirectory_tends (h.found hp hr hdir).2.2 hremove rel).2⟩
  | @next r fs gs hs o hne hdir hlist hremove hprune ih =>
    obtain ⟨hg, -, hown⟩ := h.found hp hr hdir
    obtain ⟨rfl, htends, hthin⟩ := h.removeDirectory_tends hown hremove rel
    have habove : fs.get? (d.dir ++ r.dropLast) = some .directory := by
      rw [← List.dropLast_append_of_ne_nil hne]
      exact directory_above h.sound (by rw [hg]; rfl)
    obtain ⟨ho, htends', hthin'⟩ := ih (h.next htends) (fun n hn => hp n (List.mem_of_mem_dropLast hn))
      fun c hc => by cases habove.symm.trans (get?_of_erase hc)
    exact ⟨ho, htends.trans htends', hthin.trans hthin'⟩

end Places

section Copy

variable (h : d.Open fs) (hne : rel ≠ []) (hp : ∀ n ∈ rel, Proper n)

include h hne hp

omit h in
lemma proper_copy : ∀ n ∈ Path.extend rel backupSuffix, Proper n :=
  Path.extend_proper hne hp (by decide) (by decide)

omit h hne in
lemma proper_parent : ∀ n ∈ rel.dropLast, Proper n := fun n hn => hp n (List.mem_of_mem_dropLast hn)

lemma entry_copy : fs.entryAt? (d.copyPath rel) = fs.get? (d.copyPlace rel) := h.entry (proper_copy hne hp)

lemma grown_copy {S : Place} (hS : fs.get? S = some (.file bs)) (hcopy : S ≠ d.copyPlace rel)
    (hgrown : Grown fs gs d.place (d.lead ++ rel.dropLast)) : d.Tends rel fs gs ∧
      gs.get? (d.dir ++ rel.dropLast) = some .directory ∧ gs.entryAt? ⟨.single, S⟩ = some (.file bs) ∧
      gs.placeOf (d.copyPath rel) = .ok (d.copyPlace rel) ∧
      gs.get? (d.copyPlace rel) = fs.get? (d.copyPlace rel) := by
  have htends : d.Tends rel fs gs := .of_grown hgrown fun r hne hr => root_prefix_lead hne hr
  have hdir : gs.get? (d.dir ++ rel.dropLast) = some .directory := by
    have := hgrown.made _ (List.prefix_refl _)
    rwa [← List.append_assoc] at this
  refine ⟨htends, hdir, (entryAt?_file hgrown.sound ((htends.file_iff hcopy).mpr hS)).1, ?_, ?_⟩
  · refine ((h.next htends).places (proper_copy hne hp) ?_).1
    rw [Path.extend_eq hne, ← List.append_assoc, List.dropLast_concat]
    exact hdir
  · refine (hgrown.kept _).resolve_right ?_
    rintro ⟨-, -, t, -, ht, heq⟩
    rw [copyPlace, dir, List.append_assoc, List.append_cancel_left_eq] at heq
    have hle := ht.length_le
    rw [← heq, Path.extend_eq hne] at hle
    simp at hle

omit h in
lemma put_copy (hs : Sound fs) (hdir : fs.get? (d.dir ++ rel.dropLast) = some .directory)
    (hfree : fs.get? (d.copyPlace rel) ≠ some .directory) :
    d.Tends rel fs (fs.put (d.copyPlace rel) (.file bs)) := by
  rw [copyPlace_eq hne] at hfree ⊢
  refine .put hs (proper_copy hne hp _ ?_) hdir hfree (copyPlace_eq hne).symm bs
  rw [Path.extend_eq hne]
  exact List.mem_append_right _ (List.mem_singleton_self _)

lemma copyInto_does {S : Place} (hS : fs.get? S = some (.file bs)) (hcopy : S ≠ d.copyPlace rel)
    (hway : Clear fs d.place (d.lead ++ rel.dropLast)) (hfree : fs.get? (d.copyPlace rel) ≠ some .directory)
    (hplain : ∀ n ∈ d.lead ++ rel.dropLast, isBackupName n = false) :
    Does (copyInto ⟨.single, S⟩ (d.copyPath rel)) fs fun _ gs =>
      d.Tends rel fs gs ∧ Plain fs gs ∧ gs.get? (d.copyPlace rel) = some (.file bs) := by
  obtain ⟨made, hmade, hgrown⟩ := makeDirectories_down (h.reached.here h.sound) h.sound
    (h.proper (proper_parent hp)) hway
  obtain ⟨htends, hdir, hentry, hplace, hkept⟩ := h.grown_copy hne hp hS hcopy hgrown
  have hfree' : made.get? (d.copyPlace rel) ≠ some .directory := by rwa [hkept]
  unfold copyInto
  rw [copyPath_parent hne]
  refine does_change_bind hmade ((copyFile_does (copy_file hentry hplace hfree')).mono ?_)
  rintro _ _ rfl
  have hcne : d.copyPlace rel ≠ [] := by simp [copyPlace, Path.extend_ne_nil]
  refine ⟨htends.trans (put_copy hne hp hgrown.sound hdir hfree'), ?_, ?_⟩
  · exact (Plain.of_grown hgrown hplain).trans (.put hcne bs)
  · rw [get?_put _ hcne, if_pos rfl]

lemma copyInto_ends {S : Place} (hS : fs.get? S = some (.file bs)) (hcopy : S ≠ d.copyPlace rel) :
    Ends (copyInto ⟨.single, S⟩ (d.copyPath rel)) fs fun r gs => d.Tends rel fs gs ∧
      ((r = .ok () ∧ gs.get? (d.copyPlace rel) = some (.file bs)) ∨
        (∃ f, r = .error f ∧ f.kind.isSystem = true) ∧
          gs.get? (d.copyPlace rel) = fs.get? (d.copyPlace rel)) := by
  unfold copyInto
  rw [copyPath_parent hne]
  have hparent := h.proper (proper_parent hp)
  refine (ends_change_iff _).bind ?_ ?_
  · rintro _ gs (⟨-, hmake⟩ | ⟨e, -, hr, -⟩)
    · obtain hgrown : Grown fs gs d.place (d.lead ++ rel.dropLast) := by
        rcases makeDirectories_cases (h.reached.here h.sound) h.sound hparent (h.linkless _) with
          ⟨made, hmade, hgrown⟩ | ⟨e, he⟩
        · cases hmade.symm.trans hmake
          exact hgrown
        · cases he.symm.trans hmake
      obtain ⟨htends, hdir, hentry, hplace, hkept⟩ := h.grown_copy hne hp hS hcopy hgrown
      refine copyFile_ends.mono ?_
      rintro r gs' (⟨rfl, hcopied⟩ | ⟨f, rfl, hcopied, rfl⟩)
      · obtain ⟨c, hread, hwrite⟩ := copy_eq_ok.mp hcopied
        obtain rfl := Except.ok.inj ((read_file hentry).symm.trans hread)
        obtain ⟨q, hq, hfree, rfl⟩ := write_eq_ok.mp hwrite
        obtain rfl := Except.ok.inj (hplace.symm.trans hq)
        refine ⟨htends.trans (put_copy hne hp hgrown.sound hdir hfree), .inl ⟨rfl, ?_⟩⟩
        rw [get?_put _ (by simp [copyPlace, Path.extend_ne_nil]), if_pos rfl]
      · exact ⟨htends, .inr ⟨⟨f, rfl, copy_eq_error hcopied⟩, hkept⟩⟩
    · cases hr
  · rintro f gs (⟨hr, -⟩ | ⟨e, -, hr, rfl⟩)
    · cases hr
    · cases hr
      exact ⟨.refl h.sound, .inr ⟨⟨_, rfl, fault_isSystem _ _⟩, rfl⟩⟩

lemma found_copy (hcopy : fs.get? (d.copyPlace rel) ≠ some .directory)
    (hentry : fs.hasEntry (d.copyPath rel) = true) :
    ∃ c, fs.get? (d.copyPlace rel) = some (.file c) ∧ fs.ownPlaceOf (d.copyPath rel) = .ok (d.copyPlace rel) := by
  rw [hasEntry, h.entry_copy hne hp] at hentry
  have hown := (h.places (proper_copy hne hp) (directory_above h.sound hentry)).2
  obtain ⟨e, hg⟩ := Option.isSome_iff_exists.mp hentry
  cases e with
  | file c => exact ⟨c, hg, hown⟩
  | directory => exact absurd hg hcopy
  | link t => exact absurd hg (h.unlinked _ t (d.root_prefix_copyPlace rel))

lemma remove_tends (hcopy : fs.get? (d.copyPlace rel) ≠ some .directory)
    (hentry : fs.hasEntry (d.copyPath rel) = true) (hremove : fs.remove (d.copyPath rel) = .ok gs) :
    gs = fs.erase (d.copyPlace rel) ∧ d.Tends rel fs gs := by
  obtain ⟨c, hg, hown⟩ := h.found_copy hne hp hcopy hentry
  obtain ⟨q, e, hq, -, -, rfl⟩ := remove_eq_ok.mp hremove
  obtain rfl := Except.ok.inj (hown.symm.trans hq)
  have halone : ∀ n, fs.get? (d.copyPlace rel ++ [n]) = none := fun n =>
    h.sound.get?_below_none (by simp) (by simp [hg])
  exact ⟨rfl, .erase h.sound (by simp [copyPlace, Path.extend_ne_nil]) halone (.inl rfl)⟩

lemma discardCopy_does (hcopy : fs.get? (d.copyPlace rel) ≠ some .directory)
    (hparent : ∀ c, fs.get? (d.dir ++ rel.dropLast) ≠ some (.file c)) :
    Does (discardCopy d.top (d.copyPath rel)) fs fun _ gs =>
      d.Tends rel fs gs ∧ gs.get? (d.copyPlace rel) = none := by
  -- what pruning takes away is a directory, so a place where nothing is stays empty
  have hgone : ∀ {gs hs : Files}, Thinned gs hs → gs.get? (d.copyPlace rel) = none →
      hs.get? (d.copyPlace rel) = none := by
    intro gs hs hthin hnone
    rcases hthin (d.copyPlace rel) with heq | hdir
    · exact heq.trans hnone
    · cases hnone.symm.trans hdir
  rw [copyPath_eq]
  refine (discardCopy_discards d.top (Path.extend_ne_nil _ _)).mono fun o gs hdiscards => ?_
  cases hdiscards with
  | kept hentry hremove =>
    rw [← copyPath_eq] at hentry hremove
    obtain ⟨c, hg, hown⟩ := h.found_copy hne hp hcopy hentry
    cases hremove.symm.trans (remove_file hown hg)
  | removed hentry hremove hprune =>
    rw [← copyPath_eq] at hentry hremove
    rw [Path.dropLast_extend hne] at hprune
    obtain ⟨rfl, htends⟩ := h.remove_tends hne hp hcopy hentry hremove
    obtain ⟨ho, htends', hthin⟩ := (h.next htends).prunes_tends hprune rel (proper_parent hp)
      fun c hc => hparent c (get?_of_erase hc)
    refine ⟨(), ho, htends.trans htends', hgone hthin ?_⟩
    rw [get?_erase _ (by simp [copyPlace, Path.extend_ne_nil]), if_pos rfl]
  | missing hentry hprune =>
    rw [← copyPath_eq, hasEntry, h.entry_copy hne hp] at hentry
    rw [Path.dropLast_extend hne] at hprune
    obtain ⟨ho, htends, hthin⟩ := h.prunes_tends hprune rel (proper_parent hp) hparent
    exact ⟨(), ho, htends, hgone hthin (by simpa using hentry)⟩

lemma discardCopy_fails (hparent : fs.get? (d.dir ++ rel.dropLast) = some (.file c)) :
    Ends (discardCopy d.top (d.copyPath rel)) fs fun r gs =>
      gs = fs ∧ ∃ f, r = .error f ∧ f.kind = .notDirectory := by
  have hg : fs.get? (d.copyPlace rel) = none := by
    rw [copyPlace_eq hne]
    exact h.sound.get?_below_none (by simp) (by simp [hparent])
  have hhas : fs.hasEntry (d.copyPath rel) = false := by simp [hasEntry, h.entry_copy hne hp, hg]
  have hhas' : fs.hasEntry (down d.top rel.dropLast) = true := by
    rw [top, down_down, hasEntry, h.entry (proper_parent hp), hparent]
    rfl
  have hlist : fs.list (down d.top rel.dropLast) = .error .notDirectory := by
    have hplace := (h.places (proper_parent hp) (directory_above h.sound (by rw [hparent]; rfl))).1
    rw [top, down_down]
    simp [Files.list, hplace, hparent, bind, Except.bind]
  rw [copyPath_eq] at hhas ⊢
  refine (discardCopy_discards d.top (Path.extend_ne_nil _ _)).mono fun o gs hdiscards => ?_
  cases hdiscards with
  | kept hentry => cases hhas.symm.trans hentry
  | removed hentry => cases hhas.symm.trans hentry
  | missing _ hprune =>
    rw [Path.dropLast_extend hne] at hprune
    cases hprune with
    | absent hdir => cases hhas'.symm.trans hdir
    | unlisted _ hlist' =>
      cases hlist.symm.trans hlist'
      exact ⟨rfl, _, rfl, rfl⟩
    | full _ hlist' => cases hlist.symm.trans hlist'
    | kept _ hlist' => cases hlist.symm.trans hlist'
    | last _ _ hlist' => cases hlist.symm.trans hlist'
    | next _ _ hlist' => cases hlist.symm.trans hlist'

end Copy

end Open

end Depot

end CallSnapshot
