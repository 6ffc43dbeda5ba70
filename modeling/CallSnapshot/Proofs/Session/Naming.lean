import CallSnapshot.Proofs.Session.Places

/-!
Which files share their copies. Within the project copies tell all files apart and lead back to them;
a file outside of it goes by its names from the root on, and so by those of a file in the project.
-/

namespace CallSnapshot

open Files (Proper down)

namespace Path

/-- Absolute, by names that lead down. -/
structure Settled (p : Path) : Prop where
  absolute : p.isAbsolute = true
  proper : ∀ n ∈ p.names, Proper n

lemma mem_collapse {done names : List String} {n : String} (h : n ∈ collapse true done names) :
    n ∈ done ∨ (n ∈ names ∧ n ≠ "..") := by
  induction names generalizing done with
  | nil => exact .inl (List.mem_reverse.mp h)
  | cons m names ih =>
    simp only [collapse] at h
    by_cases hm : m = ".."
    · simp only [hm, beq_self_eq_true, if_true] at h
      cases done with
      | nil => exact (ih h).imp_right fun hn => ⟨List.mem_cons_of_mem m hn.1, hn.2⟩
      | cons d done =>
        dsimp only at h
        split at h
        · rcases ih h with hd | hn
          · rcases List.mem_cons.mp hd with rfl | hd
            · rename_i hdots
              exact .inl (by simp [beq_iff_eq.mp hdots])
            · exact .inl hd
          · exact .inr ⟨List.mem_cons_of_mem m hn.1, hn.2⟩
        · rcases ih h with hd | hn
          · exact .inl (List.mem_cons_of_mem d hd)
          · exact .inr ⟨List.mem_cons_of_mem m hn.1, hn.2⟩
    · simp only [beq_iff_eq, hm, if_false] at h
      rcases ih h with hd | hn
      · rcases List.mem_cons.mp hd with rfl | hd
        · exact .inr ⟨List.mem_cons_self, hm⟩
        · exact .inl hd
      · exact .inr ⟨List.mem_cons_of_mem m hn.1, hn.2⟩

lemma extend_injective {rel rel' : List String} (h : ∀ n ∈ rel, IsName n) (h' : ∀ n ∈ rel', IsName n)
    {suffix : String} (he : extend rel suffix = extend rel' suffix) : rel = rel' := by
  have nameless : ∀ {names : List String}, (∀ n ∈ names, IsName n) →
      extend [] suffix = extend names suffix → [] = names := by
    intro names hn he
    by_contra hne
    have hdot : extend ["."] suffix = extend names suffix := he
    have := extend_inj (by simp) (Ne.symm hne) hdot
    exact (hn "." (by simp [← this])).2.1 rfl
  by_cases hr : rel = []
  · subst hr
    exact nameless h' he
  · by_cases hr' : rel' = []
    · subst hr'
      exact (nameless h he.symm).symm
    · exact extend_inj hr hr' he

end Path

namespace Workspace

variable {w : Workspace} {p q : Path}

def target (w : Workspace) (file : Path) : Path := (w.project.join file).normalize

def Contains (w : Workspace) (a : Path) : Prop := ∃ rel, a = down w.project rel

/-- The place in the project of a file outside of it. -/
def double (w : Workspace) (a : Path) : Path := down w.project a.names

lemma contains_double (a : Path) : w.Contains (w.double a) := ⟨a.names, rfl⟩

section Settled

variable (h : w.project.Settled) (hp : p.Valid)

include h

lemma join_settled (hp : p.Valid) :
    (w.project.join p).isAbsolute = true ∧ ∀ n ∈ (w.project.join p).names, Path.IsName n := by
  rw [Path.join]
  split
  · exact ⟨‹_›, hp⟩
  · refine ⟨h.absolute, fun n hn => ?_⟩
    rcases List.mem_append.mp hn with hn | hn
    · exact (h.proper n hn).1
    · exact hp n hn

include hp

lemma target_settled : (w.target p).Settled := by
  obtain ⟨habs, hnames⟩ := join_settled h hp
  refine ⟨habs, fun n hn => ?_⟩
  rw [target, Path.normalize, habs] at hn
  rcases Path.mem_collapse hn with hn | ⟨hn, hdots⟩
  · cases hn
  · exact ⟨hnames n hn, hdots⟩

omit h hp in
lemma relative_cases (w : Workspace) (p : Path) : w.target p = down w.project (w.relative p) ∨
    (¬ w.Contains (w.target p) ∧ w.relative p = (w.target p).names) := by
  have hrel : w.relative p = ((w.target p).relativeTo? w.project).getD (w.target p).names := rfl
  cases hr : (w.target p).relativeTo? w.project with
  | some rel =>
    left
    rw [hrel, hr, Option.getD_some]
    unfold Path.relativeTo? at hr
    split at hr
    · rename_i hroot
      exact Path.mk.injEq .. ▸ ⟨beq_iff_eq.mp hroot, Path.below?_eq_some.mp hr⟩
    · cases hr
  | none =>
    right
    rw [hrel, hr, Option.getD_none]
    refine ⟨?_, rfl⟩
    rintro ⟨rel, ht⟩
    rw [ht, Path.relativeTo?, if_pos (by simp [down])] at hr
    rw [down, Path.below?_eq_some.mpr rfl] at hr
    cases hr

lemma relative_names : ∀ n ∈ w.relative p, Path.IsName n := by
  intro n hn
  have hproper := (target_settled h hp).proper
  rcases relative_cases w p with ht | ⟨-, ht⟩
  · rw [ht] at hproper
    exact (hproper n (List.mem_append_right _ hn)).1
  · rw [ht] at hn
    exact (hproper n hn).1

lemma backupIn_eq_iff (hq : q.Valid) (dir : Path) :
    w.backupIn dir p = w.backupIn dir q ↔ w.relative p = w.relative q := by
  rw [backupIn, backupIn, Path.mk.injEq, List.append_cancel_left_eq]
  constructor
  · rintro ⟨-, he⟩
    exact Path.extend_injective (relative_names h hp) (relative_names h hq) he
  · intro he
    exact ⟨rfl, by rw [he]⟩

omit h hp in
lemma down_injective {a : Path} {rel rel' : List String} (he : down a rel = down a rel') : rel = rel' :=
  List.append_cancel_left (congrArg Path.names he)

omit h hp in
lemma relative_eq_iff : w.relative p = w.relative q ↔ w.target p = w.target q ∨
    (¬ w.Contains (w.target p) ∧ w.target q = w.double (w.target p)) ∨
    (¬ w.Contains (w.target q) ∧ w.target p = w.double (w.target q)) ∨
    (¬ w.Contains (w.target p) ∧ ¬ w.Contains (w.target q) ∧
      (w.target p).names = (w.target q).names) := by
  have inside : ∀ {r : Path}, w.target r = down w.project (w.relative r) → w.Contains (w.target r) :=
    fun hr => ⟨_, hr⟩
  rcases relative_cases w p with hp | ⟨hp, hp'⟩ <;> rcases relative_cases w q with hq | ⟨hq, hq'⟩
  · have hcp := inside hp
    have hcq := inside hq
    simp only [hcp, hcq, not_true, false_and, or_false]
    rw [hp, hq]
    exact ⟨fun he => by rw [he], down_injective⟩
  · have hcp := inside hp
    have hne : w.target p ≠ w.target q := fun he => hq (he ▸ hcp)
    simp only [hcp, hq, hne, not_true, not_false_eq_true, false_and, true_and, or_false, false_or]
    rw [hp, double, hq']
    exact ⟨fun he => by rw [he], down_injective⟩
  · have hcq := inside hq
    have hne : w.target p ≠ w.target q := fun he => hp (he ▸ hcq)
    simp only [hcq, hp, hne, not_true, not_false_eq_true, false_and, true_and, and_false, or_false,
      false_or]
    rw [hq, double, hp']
    exact ⟨fun he => by rw [he], fun he => (down_injective he).symm⟩
  · rw [hp', hq']
    simp only [hp, hq, not_false_eq_true, true_and]
    constructor
    · exact fun he => .inr (.inr (.inr he))
    · rintro (he | he | he | he)
      · rw [he]
      · exact absurd (he ▸ contains_double _) hq
      · exact absurd (he ▸ contains_double _) hp
      · exact he

lemma originalOf?_localBackup : w.originalOf? (w.localBackup p) = some (down w.project (w.relative p)) :=
  originalOf?_copy (relative_names h hp)

lemma originalOf?_eq_target_iff :
    w.originalOf? (w.localBackup p) = some (w.target p) ↔ w.Contains (w.target p) := by
  rw [originalOf?_localBackup h hp, Option.some_inj]
  rcases relative_cases w p with ht | ⟨hout, ht⟩
  · exact ⟨fun _ => ⟨_, ht⟩, fun _ => ht.symm⟩
  · exact ⟨fun he => absurd ⟨_, he.symm⟩ hout, fun hin => absurd hin hout⟩

end Settled

/-- Two files share their copies in the project, and likewise their primary ones, exactly if they are
the same, or one lies outside of the project and the other in it as that one lies below the root, or
both lie outside below different roots. A copy in the project leads back to the file it was made of
exactly if that lies in the project, and else to the one that lies in it alike. -/
theorem copies_shared_iff (h : w.project.Settled) (hp : p.Valid) (hq : q.Valid) :
    (∀ copies ∈ [w.localBackup, w.primaryBackup], copies p = copies q ↔
      w.target p = w.target q ∨
      (¬ w.Contains (w.target p) ∧ w.target q = w.double (w.target p)) ∨
      (¬ w.Contains (w.target q) ∧ w.target p = w.double (w.target q)) ∨
      (¬ w.Contains (w.target p) ∧ ¬ w.Contains (w.target q) ∧
        (w.target p).names = (w.target q).names)) ∧
    (w.originalOf? (w.localBackup p) = some (w.target p) ↔ w.Contains (w.target p)) ∧
    (¬ w.Contains (w.target p) → w.originalOf? (w.localBackup p) = some (w.double (w.target p))) := by
  refine ⟨fun copies hm => ?_, originalOf?_eq_target_iff h hp, fun hout => ?_⟩
  · rw [← relative_eq_iff]
    simp only [List.mem_cons, List.not_mem_nil, or_false] at hm
    rcases hm with rfl | rfl
    · exact backupIn_eq_iff h hp hq _
    · exact backupIn_eq_iff h hp hq _
  · rw [originalOf?_localBackup h hp, double]
    rcases relative_cases w p with ht | ⟨-, ht⟩
    · exact absurd ⟨_, ht⟩ hout
    · rw [ht]

/-- A project in the root directory. -/
def shallow : Workspace := ⟨.parse "/p", .parse "/t"⟩

theorem copies_shared_outside :
    shallow.project.Settled ∧ (Path.parse "/a.py").Valid ∧ (Path.parse "b/../a.py").Valid ∧
    shallow.target (.parse "/a.py") ≠ shallow.target (.parse "b/../a.py") ∧
    shallow.localBackup (.parse "/a.py") = shallow.localBackup (.parse "b/../a.py") ∧
    shallow.primaryBackup (.parse "/a.py") = shallow.primaryBackup (.parse "b/../a.py") ∧
    shallow.originalOf? (shallow.localBackup (.parse "/a.py")) = some (.parse "/p/a.py") := by
  have hproject : shallow.project.Settled := by
    refine ⟨by decide, fun n hn => ?_⟩
    obtain rfl : n = "p" := List.mem_singleton.mp hn
    exact ⟨⟨by decide, by decide, by decide⟩, by decide⟩
  have htarget : shallow.target (.parse "/a.py") = .parse "/a.py" := by decide
  have hout : ¬ shallow.Contains (shallow.target (.parse "/a.py")) := by
    rw [htarget]
    rintro ⟨rel, h⟩
    exact absurd (List.cons.inj (congrArg Path.names h)).1 (by decide)
  have hdouble : shallow.target (.parse "b/../a.py") = shallow.double (shallow.target (.parse "/a.py")) := by
    decide
  obtain ⟨hshared, -, hback⟩ := copies_shared_iff hproject (Path.parse_valid "/a.py")
    (Path.parse_valid "b/../a.py")
  refine ⟨hproject, Path.parse_valid _, Path.parse_valid _, by decide, ?_, ?_, ?_⟩
  · exact (hshared _ (by simp)).mpr (.inr (.inl ⟨hout, hdouble⟩))
  · exact (hshared _ (by simp)).mpr (.inr (.inl ⟨hout, hdouble⟩))
  · rw [hback hout, htarget]
    decide

end Workspace

end CallSnapshot
