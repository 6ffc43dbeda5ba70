import CallSnapshot.Proofs.Acting
import CallSnapshot.Proofs.Session.Places

/-!
A directory that holds copies of files: each copy lies as the file does in the project, under an
extended name. Making or removing one leaves all other copies as they are. What follows when one is removed is
given as a relation first: directories are pruned upwards, to the one for all copies.
-/

namespace CallSnapshot

open Files Workspace Acting

lemma prefix_append_cases {α : Type} {r a b : List α} (h : r <+: a ++ b) :
    r <+: a ∨ ∃ t, t ≠ [] ∧ t <+: b ∧ r = a ++ t := by
  rcases List.prefix_or_prefix_of_prefix h (List.prefix_append a b) with h' | ⟨t, rfl⟩
  · exact .inl h'
  · by_cases ht : t = []
    · exact .inl (by simp [ht])
    · exact .inr ⟨t, ht, (List.prefix_append_right_inj a).mp h, rfl⟩

namespace Workspace

variable {fs : Files} {top : Path} {rest : List String}

/-! Discarding as it is done, with no limit on the rounds of pruning. What is looked at is given by its names from
the directory for all copies on. -/

/-- Pruning from a directory on. -/
inductive Prunes (top : Path) : List String → Files → Except Fault Unit → Files → Prop
  | absent {rest : List String} {fs : Files} (hdir : fs.hasEntry (down top rest) = false) :
      Prunes top rest fs (.ok ()) fs
  | unlisted {rest : List String} {fs : Files} {e : FileError} (hdir : fs.hasEntry (down top rest) = true)
      (hlist : fs.list (down top rest) = .error e) : Prunes top rest fs (.error (e.fault (down top rest).text)) fs
  | full {rest names : List String} {fs : Files} (hdir : fs.hasEntry (down top rest) = true)
      (hlist : fs.list (down top rest) = .ok names) (hne : names ≠ []) : Prunes top rest fs (.ok ()) fs
  | kept {rest : List String} {fs : Files} {e : FileError} (hdir : fs.hasEntry (down top rest) = true)
      (hlist : fs.list (down top rest) = .ok []) (hremove : fs.removeDirectory (down top rest) = .error e) :
      Prunes top rest fs (.error (e.fault (down top rest).text)) fs
  | last {rest : List String} {fs gs : Files} (htop : rest = []) (hdir : fs.hasEntry (down top rest) = true)
      (hlist : fs.list (down top rest) = .ok []) (hremove : fs.removeDirectory (down top rest) = .ok gs) :
      Prunes top rest fs (.ok ()) gs
  | next {rest : List String} {fs gs hs : Files} {r : Except Fault Unit} (hne : rest ≠ [])
      (hdir : fs.hasEntry (down top rest) = true) (hlist : fs.list (down top rest) = .ok [])
      (hremove : fs.removeDirectory (down top rest) = .ok gs) (hprune : Prunes top rest.dropLast gs r hs) :
      Prunes top rest fs r hs

/-- Removing one copy, where there is one, and pruning from the directory that it lay in. -/
inductive DiscardsCopy (top : Path) (rest : List String) (fs : Files) : Except Fault Unit → Files → Prop
  | kept {e : FileError} (hcopy : fs.hasEntry (down top rest) = true)
      (hremove : fs.remove (down top rest) = .error e) :
      DiscardsCopy top rest fs (.error (e.fault (down top rest).text)) fs
  | removed {gs hs : Files} {r : Except Fault Unit} (hcopy : fs.hasEntry (down top rest) = true)
      (hremove : fs.remove (down top rest) = .ok gs) (hprune : Prunes top rest.dropLast gs r hs) :
      DiscardsCopy top rest fs r hs
  | missing {gs : Files} {r : Except Fault Unit} (hcopy : fs.hasEntry (down top rest) = false)
      (hprune : Prunes top rest.dropLast fs r gs) : DiscardsCopy top rest fs r gs

/-- There are fewer rounds than the limit, as each goes up by a name and the top one is the last. -/
lemma pruneFrom_prunes {fuel : ℕ} (hf : rest.length < fuel) :
    Ends (pruneFrom fuel top (down top rest)) fs (Prunes top rest fs) := by
  induction fuel generalizing fs rest with
  | zero => exact absurd hf (Nat.not_lt_zero _)
  | succ fuel ih =>
    unfold pruneFrom
    refine ends_files_bind ?_
    cases hdir : fs.hasEntry (down top rest) with
    | false =>
      simp only [Bool.not_false, if_true]
      exact ends_pure (.absent hdir)
    | true =>
      simp only [Bool.not_true, Bool.false_eq_true, if_false]
      refine ends_ask_bind (fun names hlist => ?_) fun e hlist => .unlisted hdir hlist
      cases names with
      | cons n names => exact ends_pure (.full hdir hlist (by simp))
      | nil =>
        refine ends_change_bind (fun gs hremove => ?_) fun e hremove => .kept hdir hlist hremove
        split
        · rename_i htop
          rw [beq_iff_eq, down_eq_self] at htop
          exact ends_pure (.last htop hdir hlist hremove)
        · rename_i htop
          rw [beq_iff_eq, down_eq_self] at htop
          -- not the top one: there is a name left to go up by, and a round less to go
          have hlen : rest.dropLast.length < fuel := by
            rw [List.length_dropLast]
            have := List.length_pos_of_ne_nil htop
            omega
          rw [down_parent htop]
          exact (ih hlen).mono fun r hs => .next htop hdir hlist hremove

lemma discardCopy_discards (top : Path) (hne : rest ≠ []) :
    Ends (discardCopy top (down top rest)) fs (DiscardsCopy top rest fs) := by
  have hprune : ∀ gs, Ends (pruneFrom ((down top rest).names.length + 1) top (down top rest).parent) gs
      (Prunes top rest.dropLast gs) := by
    intro gs
    rw [down_parent hne]
    refine pruneFrom_prunes ?_
    rw [List.length_dropLast, down, List.length_append]
    omega
  unfold discardCopy
  refine ends_files_bind ?_
  cases hcopy : fs.hasEntry (down top rest) with
  | false =>
    simp only [Bool.false_eq_true, if_false]
    exact (hprune fs).mono fun r gs => .missing hcopy
  | true =>
    simp only [if_true]
    refine ends_change_bind (fun gs hremove => ?_) fun e hremove => .kept hcopy hremove
    exact (hprune gs).mono fun r hs => .removed hcopy hremove

end Workspace

/-- Where copies are kept: below `place`, which `base` leads to, in `first` and further on. -/
structure Depot where
  base : Path
  place : Place
  first : String
  more : List String

namespace Depot

def lead (d : Depot) : List String := d.first :: d.more

def root (d : Depot) : Place := d.place ++ [d.first]

def dir (d : Depot) : Place := d.place ++ d.lead

def top (d : Depot) : Path := down d.base d.lead

def copyPath (d : Depot) (rel : List String) : Path :=
  down d.base (d.lead ++ Path.extend rel backupSuffix)

def copyPlace (d : Depot) (rel : List String) : Place := d.dir ++ Path.extend rel backupSuffix

def Unmarked (r : List String) : Prop := ∀ n ∈ r.getLast?, isBackupName n = false

/-- A file of which copies may be made: by proper names, in directories not named as copies. -/
structure Sources (S : List String → List UInt8 → Prop) : Prop where
  ne_nil : ∀ {rel bs}, S rel bs → rel ≠ []
  proper : ∀ {rel bs}, S rel bs → ∀ n ∈ rel, Proper n
  unmarked : ∀ {rel bs}, S rel bs → ∀ n ∈ rel.dropLast, isBackupName n = false
  unique : ∀ {rel bs cs}, S rel bs → S rel cs → bs = cs

/-- The names on the way to the depot are proper, and its place is reached whatever is in it. -/
structure Reached (d : Depot) (fs : Files) : Prop where
  proper : ∀ n ∈ d.lead, Proper n
  leads : ∀ gs, Sound gs → gs.current = fs.current →
    (∀ q, ¬ d.root <+: q → gs.get? q = fs.get? q) → Leads gs d.base d.place

/-- Only directories and true copies are in the depot. -/
structure Holds (d : Depot) (S : List String → List UInt8 → Prop) (fs : Files) : Prop where
  way : Clear fs d.place d.lead
  copies : ∀ r e, fs.get? (d.dir ++ r) = some e → (e = .directory ∧ Unmarked r) ∨
    ∃ rel bs, S rel bs ∧ r = Path.extend rel backupSuffix ∧ e = .file bs

/-- What work on one copy does: directories come and go, and nothing else changes. -/
structure Change (d : Depot) (rel : List String) (fs gs : Files) : Prop where
  sound : Sound gs
  current : gs.current = fs.current
  outside : ∀ q, ¬ d.root <+: q → gs.get? q = fs.get? q
  way : ∀ q, ¬ d.dir <+: q →
    gs.get? q = fs.get? q ∨ (fs.get? q = none ∧ gs.get? q = some .directory)
  inside : ∀ r, r ≠ Path.extend rel backupSuffix → gs.get? (d.dir ++ r) = fs.get? (d.dir ++ r) ∨
    (Unmarked r ∧ (gs.get? (d.dir ++ r) = none ∨ gs.get? (d.dir ++ r) = some .directory) ∧
      (fs.get? (d.dir ++ r) = none ∨ fs.get? (d.dir ++ r) = some .directory))

variable {d : Depot} {S : List String → List UInt8 → Prop} {fs gs : Files} {rel : List String}
  {bs : List UInt8}

lemma dir_eq (d : Depot) : d.dir = d.root ++ d.more := by simp [dir, root, lead]

lemma root_prefix_dir (d : Depot) : d.root <+: d.dir := ⟨d.more, (dir_eq d).symm⟩

lemma Holds.congr (h : d.Holds S fs) (hq : ∀ q, d.root <+: q → gs.get? q = fs.get? q) :
    d.Holds S gs := by
  refine ⟨fun r hr hp => ?_, fun r e he => ?_⟩
  · rw [hq]
    · exact h.way r hr hp
    · obtain ⟨n, r, rfl⟩ := List.exists_cons_of_ne_nil hr
      obtain ⟨rfl, -⟩ := List.cons_prefix_cons.mp hp
      exact ⟨r, by simp [root]⟩
  · rw [hq _ (d.root_prefix_dir.trans (List.prefix_append _ _))] at he
    exact h.copies r e he

lemma Reached.here (h : Reached d fs) (hs : Sound fs) : Leads fs d.base d.place :=
  h.leads fs hs rfl fun _ _ => rfl

lemma Unmarked.ne_extend {r : List String} (h : Unmarked r) (hrel : rel ≠ []) :
    r ≠ Path.extend rel backupSuffix := by
  rintro rfl
  rw [Path.extend_eq hrel] at h
  have hlast := h (rel.getLast hrel ++ backupSuffix) (by simp)
  rw [isBackupName_extend] at hlast
  cases hlast

section Copy

variable (hS : Sources S) (hh : Holds d S fs) (hrel : S rel bs)

include hS hh hrel

lemma copyPlace_entry : fs.get? (d.copyPlace rel) = none ∨ fs.get? (d.copyPlace rel) = some (.file bs) := by
  cases hg : fs.get? (d.copyPlace rel) with
  | none => exact .inl rfl
  | some e =>
    rcases hh.copies _ e hg with ⟨-, hu⟩ | ⟨rel', bs', hs', he, rfl⟩
    · exact absurd rfl (hu.ne_extend (hS.ne_nil hrel))
    · obtain rfl := Path.extend_inj (hS.ne_nil hrel) (hS.ne_nil hs') he
      rw [hS.unique hrel hs']
      exact .inr rfl

lemma clear_parent : Clear fs d.place (d.lead ++ rel.dropLast) := by
  intro r hr hp
  rcases prefix_append_cases hp with hp | ⟨t, ht, hp', rfl⟩
  · exact hh.way r hr hp
  · rw [← List.append_assoc]
    cases hg : fs.get? (d.dir ++ t) with
    | none => exact .inl hg
    | some e =>
      rcases hh.copies t e hg with ⟨rfl, -⟩ | ⟨rel', bs', hs', rfl, -⟩
      · exact .inr hg
      · rw [Path.extend_eq (hS.ne_nil hs')] at hp'
        have hm : rel'.getLast (hS.ne_nil hs') ++ backupSuffix ∈ rel.dropLast := hp'.subset (by simp)
        have := hS.unmarked hrel _ hm
        rw [isBackupName_extend] at this
        cases this

lemma linkless_copy : Linkless fs d.place (d.lead ++ Path.extend rel backupSuffix) := by
  rw [Path.extend_eq (hS.ne_nil hrel), ← List.append_assoc]
  intro r hr hp t ht
  rcases prefix_append_cases hp with hp | ⟨u, hu, hu', rfl⟩
  · exact (clear_parent hS hh hrel).linkless r hr hp t ht
  · obtain ⟨m, u, rfl⟩ := List.exists_cons_of_ne_nil hu
    obtain ⟨rfl, hp'⟩ := List.cons_prefix_cons.mp hu'
    obtain rfl := List.prefix_nil.mp hp'
    have hcopy : d.place ++ (d.lead ++ rel.dropLast ++ [rel.getLast (hS.ne_nil hrel) ++ backupSuffix]) =
        d.copyPlace rel := by
      simp [copyPlace, dir, Path.extend_eq (hS.ne_nil hrel)]
    rw [hcopy] at ht
    rcases copyPlace_entry hS hh hrel with h | h <;> simp [h] at ht

omit hh in
lemma copyPath_proper (hd : Reached d fs) : ∀ n ∈ d.lead ++ Path.extend rel backupSuffix, Proper n := by
  intro n hn
  rcases List.mem_append.mp hn with hn | hn
  · exact hd.proper n hn
  · exact Path.extend_proper (hS.ne_nil hrel) (hS.proper hrel) (by decide) (by decide) n hn

lemma entryAt?_copy (hd : Reached d fs) (hs : Sound fs) :
    fs.entryAt? (d.copyPath rel) = fs.get? (d.copyPlace rel) := by
  rw [copyPath, (hd.here hs).entryAt?_down (fun n hn => (copyPath_proper hS hrel hd n hn).2)
    (linkless_copy hS hh hrel) hs, copyPlace, dir, List.append_assoc]

end Copy

lemma linkless_file {q : Place} {c : List UInt8} (hs : Sound fs) (hq : fs.get? q = some (.file c)) :
    Linkless fs [] q := by
  rintro r - ⟨t, rfl⟩ u hu
  by_cases hte : t = []
  · rw [hte, List.append_nil] at hq
    simp [hq] at hu
  · have := hs.above (q := r) hte (by simp [hq])
    simp [this] at hu

lemma entryAt?_file {q : Place} {c : List UInt8} (hs : Sound fs) (hq : fs.get? q = some (.file c)) :
    fs.entryAt? ⟨.single, q⟩ = some (.file c) ∧ fs.placeOf ⟨.single, q⟩ = .ok q := by
  have hproper : ∀ n ∈ q, n ≠ ".." := fun n hn => (hs.named q (by simp [hq]) n hn).2
  have hl := linkless_file hs hq
  have hdown : down ⟨.single, []⟩ q = ⟨.single, q⟩ := by simp [down]
  constructor
  · have := (leads_root fs).entryAt?_down hproper hl hs
    rw [hdown] at this
    simpa [hq] using this
  · have := (leads_root fs).placeOf_down hproper hl hs fun hne => ?_
    · rw [hdown] at this
      simpa using this
    · refine hs.above (q := [] ++ q.dropLast) (r := [q.getLast hne]) (by simp) ?_
      rw [List.nil_append, List.dropLast_append_getLast, hq]
      rfl

namespace Change

lemma trans {hs : Files} (h : Change d rel fs gs) (h' : Change d rel gs hs) : Change d rel fs hs := by
  refine ⟨h'.sound, h'.current.trans h.current, fun q hq => ?_, fun q hq => ?_, fun r hr => ?_⟩
  · rw [h'.outside q hq, h.outside q hq]
  · rcases h'.way q hq with h₂ | ⟨h₂, h₃⟩
    · rw [h₂]
      exact h.way q hq
    · rcases h.way q hq with h₁ | ⟨-, h₁⟩
      · exact .inr ⟨h₁ ▸ h₂, h₃⟩
      · simp [h₁] at h₂
  · rcases h'.inside r hr with h₂ | ⟨hu, h₂, h₃⟩
    · rw [h₂]
      exact h.inside r hr
    · rcases h.inside r hr with h₁ | ⟨-, -, h₁⟩
      · exact .inr ⟨hu, h₂, h₁ ▸ h₃⟩
      · exact .inr ⟨hu, h₂, h₁⟩

lemma reached (h : Change d rel fs gs) (hd : Reached d fs) : Reached d gs := by
  refine ⟨hd.proper, fun hs hsound hc hq => hd.leads hs hsound (hc.trans h.current) fun q hr => ?_⟩
  rw [hq q hr, h.outside q hr]

lemma copy_other (h : Change d rel fs gs) (hS : Sources S) (hrel : S rel bs) {rel' : List String}
    {cs : List UInt8} (hrel' : S rel' cs) (hne : rel' ≠ rel) :
    gs.get? (d.copyPlace rel') = fs.get? (d.copyPlace rel') := by
  have hext : Path.extend rel' backupSuffix ≠ Path.extend rel backupSuffix :=
    fun he => hne (Path.extend_inj (hS.ne_nil hrel') (hS.ne_nil hrel) he)
  rcases h.inside _ hext with h | ⟨hu, -⟩
  · exact h
  · exact absurd rfl (hu.ne_extend (hS.ne_nil hrel'))

lemma holds (h : Change d rel fs gs) (hh : Holds d S fs) (hrel : S rel bs)
    (hcopy : gs.get? (d.copyPlace rel) = none ∨ gs.get? (d.copyPlace rel) = some (.file bs)) :
    Holds d S gs := by
  have copies : ∀ r e, gs.get? (d.dir ++ r) = some e → (e = .directory ∧ Unmarked r) ∨
      ∃ rel bs, S rel bs ∧ r = Path.extend rel backupSuffix ∧ e = .file bs := by
    intro r e he
    by_cases hr : r = Path.extend rel backupSuffix
    · subst hr
      rcases hcopy with hc | hc <;> rw [copyPlace, he] at hc
      · cases hc
      · cases hc
        exact .inr ⟨rel, bs, hrel, rfl, rfl⟩
    · rcases h.inside r hr with hi | ⟨hu, hg, -⟩
      · exact hh.copies r e (hi ▸ he)
      · rcases hg with hg | hg <;> rw [he] at hg <;> cases hg
        exact .inl ⟨rfl, hu⟩
  refine ⟨fun r hr hp => ?_, copies⟩
  by_cases hdir : d.dir <+: d.place ++ r
  · have hlead : r = d.lead := by
      obtain ⟨t, ht⟩ := hdir
      rw [dir, List.append_assoc, List.append_cancel_left_eq] at ht
      exact hp.eq_of_length (le_antisymm hp.length_le (by rw [← ht]; simp))
    subst hlead
    cases hg : gs.get? (d.place ++ d.lead) with
    | none => exact .inl rfl
    | some e =>
      rcases copies [] e (by simpa [dir] using hg) with ⟨rfl, -⟩ | ⟨rel', _, -, he, -⟩
      · exact .inr rfl
      · exact absurd he.symm (Path.extend_ne_nil _ _)
  · rcases h.way _ hdir with h | ⟨-, h⟩
    · rw [h]
      exact hh.way r hr hp
    · exact .inr h

end Change

lemma Holds.change_of_grown (hS : Sources S) (hrel : S rel bs)
    (h : Grown fs gs d.place (d.lead ++ rel.dropLast)) : Change d rel fs gs := by
  refine ⟨h.sound, h.current, fun q hq => ?_, fun q hq => ?_, fun r hr => ?_⟩
  · rcases h.kept q with h | ⟨-, -, r, hrne, hp, rfl⟩
    · exact h
    · obtain ⟨n, r, rfl⟩ := List.exists_cons_of_ne_nil hrne
      obtain ⟨rfl, -⟩ := List.cons_prefix_cons.mp hp
      exact absurd ⟨r, by simp [root]⟩ hq
  · rcases h.kept q with h | ⟨h₁, h₂, -⟩
    · exact .inl h
    · exact .inr ⟨h₁, h₂⟩
  · rcases h.kept (d.dir ++ r) with h | ⟨h₁, h₂, t, -, hp, ht⟩
    · exact .inl h
    · refine .inr ⟨fun n hn => ?_, .inr h₂, .inl h₁⟩
      rw [dir, List.append_assoc, List.append_cancel_left_eq] at ht
      rw [← ht, List.prefix_append_right_inj] at hp
      exact hS.unmarked hrel n (hp.subset (List.mem_of_getLast? hn))

lemma change_put (hS : Sources S) (hrel : S rel bs) (hs : Sound fs)
    (hparent : fs.get? (d.dir ++ rel.dropLast) = some .directory)
    (hcopy : fs.get? (d.copyPlace rel) ≠ some .directory) :
    Change d rel fs (fs.put (d.copyPlace rel) (.file bs)) := by
  have hne : d.copyPlace rel ≠ [] := by simp [copyPlace, Path.extend_ne_nil]
  have hget := fun q => get?_put fs hne (.file bs) q
  have hbelow : d.dir <+: d.copyPlace rel := List.prefix_append _ _
  refine ⟨?_, rfl, fun q hq => ?_, fun q hq => ?_, fun r hr => ?_⟩
  · have hplace : d.copyPlace rel =
        d.dir ++ rel.dropLast ++ [rel.getLast (hS.ne_nil hrel) ++ backupSuffix] := by
      simp [copyPlace, Path.extend_eq (hS.ne_nil hrel)]
    have hproper : ∀ n ∈ Path.extend rel backupSuffix, Proper n :=
      Path.extend_proper (hS.ne_nil hrel) (hS.proper hrel) (by decide) (by decide)
    rw [Path.extend_eq (hS.ne_nil hrel)] at hproper
    rw [hplace] at hcopy ⊢
    exact hs.put (hproper _ (by simp)) hparent (.inr hcopy)
  · rw [hget, if_neg]
    rintro rfl
    exact hq ((root_prefix_dir d).trans hbelow)
  · rw [hget, if_neg]
    · exact .inl rfl
    · rintro rfl
      exact hq hbelow
  · rw [hget, if_neg]
    · exact .inl rfl
    · rw [copyPlace, List.append_cancel_left_eq]
      exact hr

lemma change_erase (hs : Sound fs) {r : List String}
    (hr : r = Path.extend rel backupSuffix ∨ (Unmarked r ∧ fs.get? (d.dir ++ r) = some .directory))
    (hempty : ∀ n, fs.get? (d.dir ++ r ++ [n]) = none) : Change d rel fs (fs.erase (d.dir ++ r)) := by
  have hne : d.dir ++ r ≠ [] := by simp [dir, lead]
  have hget := fun q => get?_erase fs hne q
  refine ⟨hs.erase hne hempty, rfl, fun q hq => ?_, fun q hq => ?_, fun t ht => ?_⟩
  · rw [hget, if_neg]
    rintro rfl
    exact hq ((root_prefix_dir d).trans (List.prefix_append _ _))
  · rw [hget, if_neg]
    · exact .inl rfl
    · rintro rfl
      exact hq (List.prefix_append _ _)
  · rw [hget]
    split
    · rename_i heq
      obtain rfl := List.append_cancel_left heq
      rcases hr with hr | ⟨hu, hdir⟩
      · exact absurd hr ht
      · exact .inr ⟨hu, .inl rfl, .inr hdir⟩
    · exact .inl rfl

lemma copyFile_does {source target : Path} (h : fs.copy source target = .ok gs) :
    Does (copyFile source target) fs fun _ hs => hs = gs := by
  refine does_files_bind ?_
  rw [h]
  refine (does_settle (Q := fun a _ => a = gs) rfl).bind ?_
  rintro _ _ rfl
  exact does_modify rfl

lemma copyPath_eq (d : Depot) (rel : List String) :
    d.copyPath rel = down d.top (Path.extend rel backupSuffix) := by
  rw [copyPath, top, down_down]

lemma dropLast_lead (d : Depot) (hrel : rel ≠ []) :
    (d.lead ++ Path.extend rel backupSuffix).dropLast = d.lead ++ rel.dropLast := by
  rw [List.dropLast_append_of_ne_nil (Path.extend_ne_nil _ _), Path.dropLast_extend hrel]

lemma copyPath_parent (hrel : rel ≠ []) :
    (d.copyPath rel).parent = down d.base (d.lead ++ rel.dropLast) := by
  rw [copyPath, down_parent (by simp [lead]), dropLast_lead d hrel]

section Work

variable (hS : Sources S) (hh : Holds d S fs) (hd : Reached d fs) (hs : Sound fs) (hrel : S rel bs)

include hS hh hd hs hrel

lemma copyInto_does {q : Place} (hq : fs.get? q = some (.file bs)) :
    Does (copyInto ⟨.single, q⟩ (d.copyPath rel)) fs fun _ gs =>
      Change d rel fs gs ∧ gs.get? (d.copyPlace rel) = some (.file bs) := by
  have hproper : ∀ n ∈ d.lead ++ rel.dropLast, Proper n := by
    intro n hn
    rcases List.mem_append.mp hn with hn | hn
    · exact hd.proper n hn
    · exact hS.proper hrel n (List.mem_of_mem_dropLast hn)
  obtain ⟨gs, hmake, hgrown⟩ :=
    makeDirectories_down (hd.here hs) hs hproper (clear_parent hS hh hrel)
  have hchange := Holds.change_of_grown hS hrel hgrown
  have hcopy : gs.get? (d.copyPlace rel) = fs.get? (d.copyPlace rel) := by
    rcases hgrown.kept (d.copyPlace rel) with h | ⟨-, -, r, -, hp, he⟩
    · exact h
    · rw [copyPlace, dir, List.append_assoc, List.append_cancel_left_eq] at he
      rw [← he, List.prefix_append_right_inj, Path.extend_eq (hS.ne_nil hrel)] at hp
      have := hp.length_le
      simp at this
  have hq' : gs.get? q = some (.file bs) := by
    rcases hgrown.kept q with h | ⟨h, -⟩
    · rw [h, hq]
    · simp [hq] at h
  have hhold : Holds d S gs := hchange.holds hh hrel (hcopy ▸ copyPlace_entry hS hh hrel)
  have hreach := hchange.reached hd
  have hparent : gs.get? (d.dir ++ rel.dropLast) = some .directory := by
    have := hgrown.made _ (List.prefix_refl _)
    rwa [← List.append_assoc] at this
  have hplace : gs.placeOf (d.copyPath rel) = .ok (d.copyPlace rel) := by
    have := (hreach.here hgrown.sound).placeOf_down
      (fun n hn => (copyPath_proper hS hrel hreach n hn).2) (linkless_copy hS hhold hrel) hgrown.sound
      fun _ => by
        rw [dropLast_lead d (hS.ne_nil hrel), ← List.append_assoc]
        exact hparent
    rw [copyPath, this, copyPlace, dir, List.append_assoc]
  have hnot : gs.get? (d.copyPlace rel) ≠ some .directory := by
    rcases copyPlace_entry hS hhold hrel with h | h <;> simp [h]
  unfold copyInto
  rw [copyPath_parent (hS.ne_nil hrel)]
  refine does_change_bind hmake ?_
  refine (copyFile_does (copy_file (entryAt?_file hgrown.sound hq').1 hplace hnot)).mono ?_
  rintro _ _ rfl
  exact ⟨hchange.trans (change_put hS hrel hgrown.sound hparent hnot), by
    rw [get?_put _ (by simp [copyPlace, Path.extend_ne_nil]), if_pos rfl]⟩

lemma parent_places {r : List String} (hr : r <+: rel.dropLast) :
    fs.entryAt? (down d.base (d.lead ++ r)) = fs.get? (d.dir ++ r) ∧
      (fs.get? (d.dir ++ r) = some .directory →
        fs.placeOf (down d.base (d.lead ++ r)) = .ok (d.dir ++ r) ∧
          fs.ownPlaceOf (down d.base (d.lead ++ r)) = .ok (d.dir ++ r)) := by
  have hl : Linkless fs d.place (d.lead ++ r) := fun t ht hp =>
    (clear_parent hS hh hrel).linkless t ht (hp.trans ((List.prefix_append_right_inj d.lead).mpr hr))
  have hproper : ∀ n ∈ d.lead ++ r, n ≠ ".." := by
    intro n hn
    rcases List.mem_append.mp hn with hn | hn
    · exact (hd.proper n hn).2
    · exact (hS.proper hrel n (List.mem_of_mem_dropLast (hr.subset hn))).2
  have hne : d.lead ++ r ≠ [] := by simp [lead]
  rw [dir, List.append_assoc]
  refine ⟨(hd.here hs).entryAt?_down hproper hl hs, fun hg => ?_⟩
  have hparent : fs.get? (d.place ++ (d.lead ++ r).dropLast) = some .directory := by
    refine hs.above (r := [(d.lead ++ r).getLast hne]) (by simp) ?_
    rw [List.append_assoc, List.dropLast_append_getLast, hg]
    rfl
  exact ⟨(hd.here hs).placeOf_down hproper hl hs fun _ => hparent,
    (hd.here hs).ownPlaceOf_down hproper hl hs hne hparent⟩

end Work

lemma Change.refl (hs : Sound fs) : Change d rel fs fs :=
  ⟨hs, rfl, fun _ _ => rfl, fun _ _ => .inl rfl, fun _ _ => .inl rfl⟩

section Discard

variable (hS : Sources S) (hh : Holds d S fs) (hd : Reached d fs) (hs : Sound fs) (hrel : S rel bs)
  {r : List String} {o : Except Fault Unit}

include hS hh hd hs hrel

omit hh hd hs in
lemma unmarked_parent (hr : r <+: rel.dropLast) : Unmarked r := fun n hn =>
  hS.unmarked hrel n (hr.subset (List.mem_of_getLast? hn))

lemma parent_directory (hr : r <+: rel.dropLast) (h : fs.hasEntry (down d.top r) = true) :
    fs.get? (d.dir ++ r) = some .directory ∧ fs.placeOf (down d.top r) = .ok (d.dir ++ r) ∧
      fs.ownPlaceOf (down d.top r) = .ok (d.dir ++ r) := by
  obtain ⟨hentry, hplaces⟩ := parent_places hS hh hd hs hrel hr
  rw [top, down_down] at h ⊢
  rw [hasEntry, hentry, Option.isSome_iff_exists] at h
  obtain ⟨e, he⟩ := h
  have hdir : fs.get? (d.dir ++ r) = some .directory := by
    rcases hh.copies r e he with ⟨rfl, -⟩ | ⟨rel', bs', hrel', rfl, -⟩
    · exact he
    · exact absurd rfl ((unmarked_parent hS hrel hr).ne_extend (hS.ne_nil hrel'))
  exact ⟨hdir, hplaces hdir⟩

lemma removeDirectory_change (hr : r <+: rel.dropLast) (h : fs.hasEntry (down d.top r) = true)
    (hremove : fs.removeDirectory (down d.top r) = .ok gs) :
    Change d rel fs gs ∧ gs.get? (d.copyPlace rel) = fs.get? (d.copyPlace rel) := by
  obtain ⟨hdir, -, hown⟩ := parent_directory hS hh hd hs hrel hr h
  obtain ⟨q, hq, -, hempty, rfl⟩ := removeDirectory_eq_ok.mp hremove
  obtain rfl := Except.ok.inj (hown.symm.trans hq)
  have hunmarked := unmarked_parent hS hrel hr
  have hnone : ∀ n, fs.get? (d.dir ++ r ++ [n]) = none := by
    intro n
    rw [← Option.not_isSome_iff_eq_none, ← mem_children, hempty]
    exact List.not_mem_nil
  refine ⟨change_erase hs (.inr ⟨hunmarked, hdir⟩) hnone, ?_⟩
  rw [get?_erase _ (by simp [dir, lead]), if_neg]
  rw [copyPlace, List.append_cancel_left_eq]
  exact (hunmarked.ne_extend (hS.ne_nil hrel)).symm

lemma prunes_change (h : Prunes d.top r fs o gs) (hr : r <+: rel.dropLast) :
    o = .ok () ∧ Change d rel fs gs ∧ gs.get? (d.copyPlace rel) = fs.get? (d.copyPlace rel) := by
  induction h with
  | absent hdir => exact ⟨rfl, .refl hs, rfl⟩
  | full hdir hlist hne => exact ⟨rfl, .refl hs, rfl⟩
  | unlisted hdir hlist =>
    obtain ⟨hg, hplace, -⟩ := parent_directory hS hh hd hs hrel hr hdir
    cases hlist.symm.trans (list_directory hplace hg)
  | kept hdir hlist hremove =>
    obtain ⟨hg, hplace, hown⟩ := parent_directory hS hh hd hs hrel hr hdir
    have hempty := Except.ok.inj ((list_directory hplace hg).symm.trans hlist)
    cases hremove.symm.trans (removeDirectory_empty hown hg hempty)
  | last htop hdir hlist hremove => exact ⟨rfl, removeDirectory_change hS hh hd hs hrel hr hdir hremove⟩
  | next hne hdir hlist hremove hprune ih =>
    obtain ⟨hchange, hcopy⟩ := removeDirectory_change hS hh hd hs hrel hr hdir hremove
    have hhold := hchange.holds hh hrel (hcopy ▸ copyPlace_entry hS hh hrel)
    obtain ⟨ho, hchange', hcopy'⟩ := ih hhold (hchange.reached hd) hchange.sound
      ((List.dropLast_prefix _).trans hr)
    exact ⟨ho, hchange.trans hchange', hcopy'.trans hcopy⟩

lemma copy_found (h : fs.hasEntry (d.copyPath rel) = true) :
    fs.get? (d.copyPlace rel) = some (.file bs) ∧ fs.ownPlaceOf (d.copyPath rel) = .ok (d.copyPlace rel) := by
  have hg : fs.get? (d.copyPlace rel) = some (.file bs) := by
    refine (copyPlace_entry hS hh hrel).resolve_left fun hnone => ?_
    simp [hasEntry, entryAt?_copy hS hh hrel hd hs, hnone] at h
  have hparent : fs.get? (d.dir ++ rel.dropLast) = some .directory := by
    refine hs.above (r := [rel.getLast (hS.ne_nil hrel) ++ backupSuffix]) (by simp) ?_
    rw [copyPlace, Path.extend_eq (hS.ne_nil hrel)] at hg
    rw [List.append_assoc, hg]
    rfl
  have := (hd.here hs).ownPlaceOf_down (fun n hn => (copyPath_proper hS hrel hd n hn).2)
    (linkless_copy hS hh hrel) hs (by simp [lead]) (by
      rw [dropLast_lead d (hS.ne_nil hrel), ← List.append_assoc]
      exact hparent)
  refine ⟨hg, ?_⟩
  rw [copyPath, this, copyPlace, dir, List.append_assoc]

lemma remove_change (h : fs.hasEntry (d.copyPath rel) = true) (hremove : fs.remove (d.copyPath rel) = .ok gs) :
    Change d rel fs gs ∧ gs.get? (d.copyPlace rel) = none := by
  obtain ⟨hg, hown⟩ := copy_found hS hh hd hs hrel h
  obtain ⟨q, e, hq, -, -, rfl⟩ := remove_eq_ok.mp hremove
  obtain rfl := Except.ok.inj (hown.symm.trans hq)
  have hnone : ∀ n, fs.get? (d.copyPlace rel ++ [n]) = none := fun n =>
    hs.get?_below_none (by simp) (by simp [hg])
  refine ⟨change_erase hs (.inl rfl) hnone, ?_⟩
  rw [get?_erase _ (by simp [copyPlace, Path.extend_ne_nil]), if_pos rfl]

lemma discardCopy_does : Does (discardCopy d.top (d.copyPath rel)) fs fun _ gs =>
    Change d rel fs gs ∧ gs.get? (d.copyPlace rel) = none := by
  have hrest := Path.dropLast_extend (hS.ne_nil hrel) backupSuffix
  rw [copyPath_eq]
  refine (discardCopy_discards d.top (Path.extend_ne_nil _ _)).mono fun o gs h => ?_
  cases h with
  | kept hcopy hremove =>
    rw [← copyPath_eq] at hcopy hremove
    obtain ⟨hg, hown⟩ := copy_found hS hh hd hs hrel hcopy
    cases hremove.symm.trans (remove_file hown hg)
  | removed hcopy hremove hprune =>
    rw [← copyPath_eq] at hcopy hremove
    rw [hrest] at hprune
    obtain ⟨hchange, hgone⟩ := remove_change hS hh hd hs hrel hcopy hremove
    obtain ⟨ho, hchange', hsame⟩ := prunes_change hS (hchange.holds hh hrel (.inl hgone)) (hchange.reached hd)
      hchange.sound hrel hprune (List.prefix_refl _)
    exact ⟨(), ho, hchange.trans hchange', hsame.trans hgone⟩
  | missing hcopy hprune =>
    rw [← copyPath_eq, hasEntry, entryAt?_copy hS hh hrel hd hs] at hcopy
    rw [hrest] at hprune
    obtain ⟨ho, hchange, hsame⟩ := prunes_change hS hh hd hs hrel hprune (List.prefix_refl _)
    exact ⟨(), ho, hchange, hsame.trans (by simpa using hcopy)⟩

end Discard

end Depot

end CallSnapshot
