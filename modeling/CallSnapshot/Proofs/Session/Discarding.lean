import CallSnapshot.Proofs.Session.Injecting
import CallSnapshot.Proofs.Session.Pristine

/-!
Discarding the copies of a file comes to an end, and what it takes away is a copy or an empty directory on the way
to one. Where no link leads out of it, all of this lies in the directories for copies.
-/

namespace CallSnapshot

namespace Files

def LiesIn (fs : Files) (dir : Path) (q : Place) : Prop := ∃ p, fs.ownPlaceOf dir = .ok p ∧ p <+: q

end Files

namespace Workspace

open Files Acting Relation

variable {w : Workspace} {file top : Path} {fs gs hs : Files} {q : Place} {r : Except Fault Unit} {rest : List String}

def tops (w : Workspace) : List Path := [w.primaryDir, w.localDir]

def copyNames (w : Workspace) (file : Path) : List String := Path.extend (w.relative file) backupSuffix

/-- Discarding as it is done: both copies, the one in the project if all went well with the other. -/
inductive Discards (w : Workspace) (file : Path) (fs : Files) : Except Fault Unit → Files → Prop
  | failed {f : Fault} {gs : Files} (hprimary : DiscardsCopy w.primaryDir (w.copyNames file) fs (.error f) gs) :
      Discards w file fs (.error f) gs
  | both {gs hs : Files} {r : Except Fault Unit}
      (hprimary : DiscardsCopy w.primaryDir (w.copyNames file) fs (.ok ()) gs)
      (hlocal : DiscardsCopy w.localDir (w.copyNames file) gs r hs) : Discards w file fs r hs

lemma discard_discards (w : Workspace) (file : Path) : Ends (w.discard file) fs (Discards w file fs) := by
  have hne : w.copyNames file ≠ [] := Path.extend_ne_nil _ _
  refine Ends.bind (discardCopy_discards w.primaryDir hne) ?_ fun f gs => .failed
  rintro ⟨⟩ gs hprimary
  exact (discardCopy_discards w.localDir hne).mono fun r hs => .both hprimary

/-! What is taken away, one thing after another. -/

/-- Where one of the paths of a file's copies leads, to a file or a link, or where the path of a directory on the
way to it leads, to a directory. -/
inductive Removable (w : Workspace) (file : Path) (fs : Files) (q : Place) : Prop
  | copy {top : Path} {e : Entry} (htop : top ∈ w.tops) (hq : fs.ownPlaceOf (w.backupIn top file) = .ok q)
      (he : fs.get? q = some e) (hne : e ≠ .directory)
  | directory {top : Path} {rest : List String} (htop : top ∈ w.tops) (hrest : rest <+: (w.copyNames file).dropLast)
      (hq : fs.ownPlaceOf (down top rest) = .ok q) (he : fs.get? q = some .directory)

/-- One thing is taken away; a directory only if it is empty. -/
def Removal (w : Workspace) (file : Path) (fs gs : Files) : Prop :=
  ∃ q, w.Removable file fs q ∧ (fs.get? q = some .directory → fs.children q = []) ∧ gs = fs.erase q

lemma removal_directory (htop : top ∈ w.tops) (hrest : rest <+: (w.copyNames file).dropLast)
    (h : fs.removeDirectory (down top rest) = .ok gs) : w.Removal file fs gs := by
  obtain ⟨q, hq, he, hempty, rfl⟩ := removeDirectory_eq_ok.mp h
  exact ⟨q, .directory htop hrest hq he, fun _ => hempty, rfl⟩

lemma removal_copy (htop : top ∈ w.tops) (h : fs.remove (w.backupIn top file) = .ok gs) :
    w.Removal file fs gs := by
  obtain ⟨q, e, hq, he, hne, rfl⟩ := remove_eq_ok.mp h
  exact ⟨q, .copy htop hq he hne, fun hdir => absurd (Option.some.inj (he.symm.trans hdir)) hne, rfl⟩

lemma Prunes.removals (h : Prunes top rest fs r gs) (htop : top ∈ w.tops)
    (hrest : rest <+: (w.copyNames file).dropLast) : ReflTransGen (w.Removal file) fs gs := by
  induction h with
  | absent hdir => exact .refl
  | unlisted hdir hlist => exact .refl
  | full hdir hlist hne => exact .refl
  | kept hdir hlist hremove => exact .refl
  | last hend hdir hlist hremove => exact .single (removal_directory htop hrest hremove)
  | next hne hdir hlist hremove hprune ih =>
    exact .head (removal_directory htop hrest hremove) (ih ((List.dropLast_prefix _).trans hrest))

lemma DiscardsCopy.removals (h : DiscardsCopy top (w.copyNames file) fs r gs) (htop : top ∈ w.tops) :
    ReflTransGen (w.Removal file) fs gs := by
  cases h with
  | kept hcopy hremove => exact .refl
  | removed hcopy hremove hprune =>
    exact .head (removal_copy htop hremove) (hprune.removals htop (List.prefix_refl _))
  | missing hcopy hprune => exact hprune.removals htop (List.prefix_refl _)

lemma Discards.removals (h : w.Discards file fs r gs) : ReflTransGen (w.Removal file) fs gs := by
  have hprimary : w.primaryDir ∈ w.tops := by simp [tops]
  have hlocal : w.localDir ∈ w.tops := by simp [tops]
  cases h with
  | failed h => exact h.removals hprimary
  | both h h' => exact (h.removals hprimary).trans (h'.removals hlocal)

/-! What was there and is no longer. -/

/-- Only what may be taken away is missing, by where the paths led at first. -/
structure Reduced (w : Workspace) (file : Path) (fs gs : Files) : Prop where
  current : gs.current = fs.current
  changed : ∀ q, gs.get? q ≠ fs.get? q → gs.get? q = none ∧ w.Removable file fs q

namespace Reduced

lemma first (h : w.Reduced file fs gs) {e : Entry} (he : gs.get? q = some e) : fs.get? q = some e := by
  by_contra hne
  have hnone := (h.changed q fun heq => hne (heq ▸ he)).1
  rw [he] at hnone
  cases hnone

lemma removable (h : w.Reduced file fs gs) (hq : w.Removable file gs q) : w.Removable file fs q := by
  have hback : ∀ {p e}, gs.ownPlaceOf p = .ok q → gs.get? q = some e → fs.ownPlaceOf p = .ok q := by
    intro p e hp he
    -- what is left leads on as it did, so a path that still leads to something has not been turned elsewhere
    exact ownPlaceOf_extends (fun _ _ => .inl ∘ h.first) h.current.symm hp (by rw [he]; rfl)
  cases hq with
  | copy htop hq he hne => exact .copy htop (hback hq he) (h.first he) hne
  | directory htop hrest hq he => exact .directory htop hrest (hback hq he) (h.first he)

lemma next (h : w.Reduced file fs gs) (hnext : w.Removal file gs hs) : w.Reduced file fs hs := by
  obtain ⟨p, hp, -, rfl⟩ := hnext
  refine ⟨h.current, fun q hq => ?_⟩
  rcases get?_erase_cases gs p q with hsame | ⟨rfl, hnone⟩
  · rw [hsame] at hq ⊢
    exact h.changed q hq
  · exact ⟨hnone, h.removable hp⟩

end Reduced

lemma reduced_of_removals (h : ReflTransGen (w.Removal file) fs gs) : w.Reduced file fs gs := by
  induction h with
  | refl => exact ⟨rfl, fun q hq => absurd rfl hq⟩
  | tail _ hnext ih => exact ih.next hnext

/-! Where no link leads out of the directories for copies. -/

/-- No directory for copies is a link, and none is on the way from there to the copy of a file. -/
def Unlinked (w : Workspace) (file : Path) (fs : Files) : Prop :=
  ∀ top ∈ w.tops, ∀ p, fs.ownPlaceOf top = .ok p →
    ∀ r, r <+: (w.relative file).dropLast → ∀ t, fs.get? (p ++ r) ≠ some (.link t)

lemma dropLast_copyNames (w : Workspace) (file : Path) :
    (w.copyNames file).dropLast = (w.relative file).dropLast := by
  by_cases h : w.relative file = []
  · rw [copyNames, h]
    rfl
  · exact Path.dropLast_extend h backupSuffix

section Unlinked

variable (hw : w.project.isAbsolute = true) (hu : w.Unlinked file fs)

include hw

lemma copyNames_dots (file : Path) : ∀ n ∈ w.copyNames file, n ≠ ".." := extend_dots (relative_dots hw file)

include hu

lemma ownPlaceOf_copy (htop : top ∈ w.tops) (h : fs.ownPlaceOf (w.backupIn top file) = .ok q) :
    ∃ p, fs.ownPlaceOf top = .ok p ∧ q = p ++ w.copyNames file := by
  refine ownPlaceOf_straight (copyNames_dots hw file) (fun p hp r hr => hu top htop p hp r ?_) h
  rwa [← dropLast_copyNames]

lemma ownPlaceOf_way (htop : top ∈ w.tops) (hrest : rest <+: (w.copyNames file).dropLast)
    (h : fs.ownPlaceOf (down top rest) = .ok q) : ∃ p, fs.ownPlaceOf top = .ok p ∧ q = p ++ rest := by
  have hdots : ∀ n ∈ rest, n ≠ ".." := fun n hn =>
    copyNames_dots hw file n (List.mem_of_mem_dropLast (hrest.subset hn))
  rw [dropLast_copyNames] at hrest
  exact ownPlaceOf_straight hdots
    (fun p hp r hr => hu top htop p hp r ((hr.trans (List.dropLast_prefix rest)).trans hrest)) h

lemma Removable.inside (h : w.Removable file fs q) :
    ∃ top ∈ w.tops, ∃ p, fs.ownPlaceOf top = .ok p ∧ p <+: q ∧ q <+: p ++ w.copyNames file := by
  cases h with
  | copy htop hq he hne =>
    obtain ⟨p, hp, rfl⟩ := ownPlaceOf_copy hw hu htop hq
    exact ⟨_, htop, p, hp, List.prefix_append _ _, List.prefix_refl _⟩
  | directory htop hrest hq he =>
    obtain ⟨p, hp, rfl⟩ := ownPlaceOf_way hw hu htop hrest hq
    exact ⟨_, htop, p, hp, List.prefix_append _ _,
      (List.prefix_append_right_inj p).mpr (hrest.trans (List.dropLast_prefix _))⟩

end Unlinked

/-- What is taken away lies in the directories for copies, on the way to the copies of one file. So the directory
of the session and the project stay, unless they are themselves kept among copies, and so do the copies of every
file that has others. -/
structure Confined (w : Workspace) (file : Path) (fs gs : Files) : Prop where
  inside : ∀ q, gs.get? q ≠ fs.get? q →
    ∃ top ∈ w.tops, ∃ p, fs.ownPlaceOf top = .ok p ∧ p <+: q ∧ q <+: p ++ w.copyNames file
  session : ∀ q, fs.placeOf w.sessionDir = .ok q → ¬ fs.LiesIn w.localDir q → gs.get? q = fs.get? q
  project : ∀ q, fs.placeOf w.project = .ok q → ¬ fs.LiesIn w.primaryDir q → gs.get? q = fs.get? q
  copies : (∀ q, fs.LiesIn w.primaryDir q → ¬ fs.LiesIn w.localDir q) →
    ∀ other, w.Unlinked other fs → w.localBackup other ≠ w.localBackup file →
      ∀ top ∈ w.tops, ∀ q, fs.ownPlaceOf (w.backupIn top other) = .ok q → fs.get? q ≠ some .directory →
        gs.get? q = fs.get? q

lemma not_liesIn_child {n : String} (hn : n ≠ "..") {b : Path} (hq : fs.placeOf b = .ok q) :
    ¬ fs.LiesIn (b.child n) q := by
  rintro ⟨p, hp, hpre⟩
  obtain ⟨q', hq', rfl⟩ := ownPlaceOf_child hn hp
  obtain rfl := Except.ok.inj (hq.symm.trans hq')
  have := hpre.length_le
  simp at this

lemma Reduced.confined (hw : w.project.isAbsolute = true) (h : w.Reduced file fs gs) (hu : w.Unlinked file fs) :
    w.Confined file fs gs := by
  have inside : ∀ q, gs.get? q ≠ fs.get? q →
      ∃ top ∈ w.tops, ∃ p, fs.ownPlaceOf top = .ok p ∧ p <+: q ∧ q <+: p ++ w.copyNames file :=
    fun q hq => (h.changed q hq).2.inside hw hu
  have outside : ∀ q, ¬ fs.LiesIn w.primaryDir q → ¬ fs.LiesIn w.localDir q → gs.get? q = fs.get? q := by
    intro q hprimary hlocal
    by_contra hq
    obtain ⟨top, htop, p, hp, hpre, -⟩ := inside q hq
    simp only [tops, List.mem_cons, List.not_mem_nil, or_false] at htop
    rcases htop with rfl | rfl
    · exact hprimary ⟨p, hp, hpre⟩
    · exact hlocal ⟨p, hp, hpre⟩
  refine ⟨inside, fun q hq hlocal => outside q (not_liesIn_child (by decide) hq) hlocal,
    fun q hq hprimary => outside q hprimary (not_liesIn_child localName_proper.2 hq), ?_⟩
  intro hapart other hother hne top htop q hq hdir
  by_contra hchanged
  obtain ⟨p, hp, rfl⟩ := ownPlaceOf_copy hw hother htop hq
  cases (h.changed _ hchanged).2 with
  | directory _ _ _ he => exact hdir he
  | @copy top' e htop' hq' he _ =>
    obtain ⟨p', hp', heq⟩ := ownPlaceOf_copy hw hu htop' hq'
    have hin : fs.LiesIn top (p ++ w.copyNames other) := ⟨p, hp, List.prefix_append _ _⟩
    have hin' : fs.LiesIn top' (p ++ w.copyNames other) := ⟨p', hp', heq ▸ List.prefix_append _ _⟩
    have hsame : top = top' → False := by
      rintro rfl
      obtain rfl := Except.ok.inj (hp.symm.trans hp')
      exact hne (congrArg (down w.localDir) (List.append_cancel_left heq))
    simp only [tops, List.mem_cons, List.not_mem_nil, or_false] at htop htop'
    rcases htop with rfl | rfl <;> rcases htop' with rfl | rfl
    · exact hsame rfl
    · exact hapart _ hin hin'
    · exact hapart _ hin' hin
    · exact hsame rfl

/-- Discarding the copies of a file comes to an end and takes away, one after another, what the paths of its copies
lead to and empty directories that the paths on the way there lead to, whether or not it fails. At each moment all
else is as it was. Where no link is on that way, all this is in the directories for copies. -/
theorem discard_confined (hw : w.project.isAbsolute = true) (file : Path) (fs : Files) :
    Ends (w.discard file) fs (fun r gs => w.Discards file fs r gs ∧ ReflTransGen (w.Removal file) fs gs) ∧
    ∀ gs, ReflTransGen (w.Removal file) fs gs →
      gs.current = fs.current ∧
      (∀ q, gs.get? q ≠ fs.get? q → gs.get? q = none ∧ w.Removable file fs q) ∧
      (w.Unlinked file fs → w.Confined file fs gs) := by
  refine ⟨(w.discard_discards file).mono fun r gs h => ⟨h, h.removals⟩, fun gs hgs => ?_⟩
  have hreduced := reduced_of_removals hgs
  exact ⟨hreduced.current, hreduced.changed, hreduced.confined hw⟩

/-- A file in a directory of the small project. -/
def deepFile : Path := .parse "/p/deep/../deep//a.py"

/-- The small project with both copies of that file, and one of another. -/
def deepFiles : Files :=
  ⟨[(["p"], .directory), (["t"], .directory), (["t", smallWorkspace.sessionName], .directory),
    (["t", smallWorkspace.sessionName, "backup"], .directory),
    (["t", smallWorkspace.sessionName, "backup", "deep"], .directory),
    (["t", smallWorkspace.sessionName, "backup", "deep", "a.py.snap.bak"], .file smallContent),
    (["p", localBackupName], .directory), (["p", localBackupName, "deep"], .directory),
    (["p", localBackupName, "deep", "a.py.snap.bak"], .file smallContent),
    (["p", localBackupName, "b.py.snap.bak"], .file smallContent)], []⟩

/-- The files after the copies of a file have been discarded. -/
def afterDiscard (w : Workspace) (file : Path) (fs : Files) : Files :=
  ((w.discard file).run.run ⟨fs, [], .warning⟩).2.files

lemma deep_unlinked (q : Place) (t : Path) : deepFiles.get? q ≠ some (.link t) := by
  intro h
  have hne : q ≠ [] := by
    rintro rfl
    cases h
  simpa [deepFiles] using mem_of_get? hne h

lemma deep_places : deepFiles.placeOf smallWorkspace.sessionDir = .ok ["t", smallWorkspace.sessionName] ∧
    deepFiles.ownPlaceOf smallWorkspace.primaryDir = .ok ["t", smallWorkspace.sessionName, "backup"] ∧
    deepFiles.ownPlaceOf smallWorkspace.localDir = .ok ["p", localBackupName] ∧
    deepFiles.ownPlaceOf (smallWorkspace.localBackup (.parse "b.py")) =
      .ok ["p", localBackupName, "b.py.snap.bak"] := by
  decide +kernel

/-- The copies of the file and the directories that were for them alone are gone; the session, the project and the
other copy stay. -/
theorem discard_confined_deep : smallWorkspace.project.isAbsolute = true ∧
    smallWorkspace.Unlinked deepFile deepFiles ∧
    ∃ gs, afterDiscard smallWorkspace deepFile deepFiles = gs ∧
      ReflTransGen (smallWorkspace.Removal deepFile) deepFiles gs ∧
      (∀ q ∈ [["t", smallWorkspace.sessionName, "backup", "deep", "a.py.snap.bak"],
          ["t", smallWorkspace.sessionName, "backup"], ["p", localBackupName, "deep", "a.py.snap.bak"],
          ["p", localBackupName, "deep"]], (deepFiles.get? q).isSome = true ∧ gs.get? q = none) ∧
      gs.get? ["t", smallWorkspace.sessionName] = some .directory ∧ gs.get? ["p"] = some .directory ∧
      gs.get? ["p", localBackupName, "b.py.snap.bak"] = some (.file smallContent) := by
  have hunlinked : ∀ file, smallWorkspace.Unlinked file deepFiles := fun _ _ _ _ _ _ _ t => deep_unlinked _ t
  obtain ⟨hsession, hprimary, hlocal, hother⟩ := deep_places
  have hnotLocal : ∀ n rest, n ≠ "p" → ¬ deepFiles.LiesIn smallWorkspace.localDir (n :: rest) := by
    rintro n rest hn ⟨p, hp, hpre⟩
    obtain rfl := Except.ok.inj (hlocal.symm.trans hp)
    exact hn (List.cons_prefix_cons.mp hpre).1.symm
  have hnotPrimary : ∀ rest, ¬ deepFiles.LiesIn smallWorkspace.primaryDir ("p" :: rest) := by
    rintro rest ⟨p, hp, hpre⟩
    obtain rfl := Except.ok.inj (hprimary.symm.trans hp)
    exact absurd (List.cons_prefix_cons.mp hpre).1 (by decide)
  have hapart : ∀ q, deepFiles.LiesIn smallWorkspace.primaryDir q →
      ¬ deepFiles.LiesIn smallWorkspace.localDir q := by
    rintro q ⟨p, hp, hpre⟩
    obtain rfl := Except.ok.inj (hprimary.symm.trans hp)
    obtain ⟨u, rfl⟩ := hpre
    exact hnotLocal _ _ (by decide)
  obtain ⟨hends, hleft⟩ := discard_confined (w := smallWorkspace) rfl deepFile deepFiles
  have hrun := (hends ⟨deepFiles, [], .warning⟩ rfl).2
  have hconfined := (hleft _ hrun).2.2 (hunlinked deepFile)
  refine ⟨rfl, hunlinked deepFile, _, rfl, hrun, by decide +kernel, ?_, ?_, ?_⟩
  · exact (hconfined.session _ hsession (hnotLocal _ _ (by decide))).trans (by decide +kernel)
  · exact (hconfined.project ["p"] (by decide +kernel) (hnotPrimary [])).trans rfl
  · refine (hconfined.copies hapart (.parse "b.py") (hunlinked _) (by decide) smallWorkspace.localDir ?_ _ hother
      ?_).trans ?_
    · simp [tops]
    · decide +kernel
    · decide +kernel

/-- A link below the project's directory for copies to another directory of the project. -/
def linkedShelf : Files :=
  ⟨[(["p"], .directory), (["p", "lib"], .directory), (["p", "lib", "sub"], .directory),
    (["p", "lib", "keep.txt"], .file []), (["p", localBackupName], .directory),
    (["p", localBackupName, "pkg"], .link ⟨.single, ["p", "lib"]⟩), (["t"], .directory)], []⟩

/-- The project with its temporary files where the copies in it go. -/
def nestedWorkspace : Workspace := ⟨smallWorkspace.project, ⟨.single, smallWorkspace.localPlace⟩⟩

/-- A session in the project's directory for copies, with a copy of a file. -/
def nestedShelf : Files :=
  ⟨[(["p"], .directory), (["p", localBackupName], .directory),
    (["p", localBackupName, nestedWorkspace.sessionName], .directory),
    (["p", localBackupName, nestedWorkspace.sessionName, "backup"], .directory),
    (["p", localBackupName, nestedWorkspace.sessionName, "backup", "b.py.snap.bak"], .file smallContent)], []⟩

/-- The copy of a file in the project. -/
def plainShelf : Files :=
  ⟨[(["p"], .directory), (["p", localBackupName], .directory),
    (["p", localBackupName, "a.py.snap.bak"], .file smallContent), (["t"], .directory)], []⟩

/-- A directory of the project is taken away where a link leads to it. Where the temporary files lie in the project's
directory for copies, the directory of the session is taken away, and a copy of another file; and a file
outside of the project takes that of a file in it with it. -/
theorem discard_strays :
    (linkedShelf.get? ["p", "lib", "sub"] = some .directory ∧
      (∀ top ∈ smallWorkspace.tops, ¬ linkedShelf.LiesIn top ["p", "lib", "sub"]) ∧
      (afterDiscard smallWorkspace (.parse "pkg/sub/x.py") linkedShelf).get? ["p", "lib", "sub"] = none) ∧
    (∃ file other q, nestedWorkspace.target file ≠ nestedWorkspace.target other ∧
      nestedShelf.isFile (nestedWorkspace.primaryBackup other) = true ∧
      (afterDiscard nestedWorkspace file nestedShelf).hasEntry (nestedWorkspace.primaryBackup other) = false ∧
      nestedShelf.placeOf nestedWorkspace.sessionDir = .ok q ∧ nestedShelf.get? q = some .directory ∧
      (afterDiscard nestedWorkspace file nestedShelf).get? q = none) ∧
    ∃ file other, smallWorkspace.target file ≠ smallWorkspace.target other ∧
      plainShelf.isFile (smallWorkspace.localBackup other) = true ∧
      (afterDiscard smallWorkspace file plainShelf).hasEntry (smallWorkspace.localBackup other) = false := by
  have hprimary : linkedShelf.ownPlaceOf smallWorkspace.primaryDir = .error .missing := by decide +kernel
  have hlocal : linkedShelf.ownPlaceOf smallWorkspace.localDir = .ok ["p", localBackupName] := by decide +kernel
  have hout : ∀ top ∈ smallWorkspace.tops, ¬ linkedShelf.LiesIn top ["p", "lib", "sub"] := by
    simp only [tops, List.mem_cons, List.not_mem_nil, or_false]
    rintro top (rfl | rfl) ⟨p, hp, hpre⟩
    · cases hprimary.symm.trans hp
    · obtain rfl := Except.ok.inj (hlocal.symm.trans hp)
      exact absurd hpre (by decide)
  refine ⟨⟨rfl, hout, by decide +kernel⟩, ?_, .parse "/a.py", .parse "a.py", by decide +kernel⟩
  exact ⟨⟨.relative, [nestedWorkspace.sessionName, "backup", "b.py"]⟩, .parse "b.py",
    ["p", localBackupName, nestedWorkspace.sessionName], by decide +kernel⟩

end Workspace

end CallSnapshot
