import CallSnapshot.Proofs.Files.Operations
import CallSnapshot.Proofs.Text.Hex
import CallSnapshot.Session.Backup

/-! Where the copies of a file lie, and which file a copy belongs to. -/

namespace CallSnapshot

namespace Path

open Files (Proper)

lemma collapse_proper {names done : List String} (h : ∀ n ∈ names, n ≠ "..") :
    collapse true done names = done.reverse ++ names := by
  induction names generalizing done with
  | nil => simp [collapse]
  | cons n names ih =>
    simp only [List.forall_mem_cons] at h
    simp [collapse, h.1, ih h.2]

lemma join_absolute {p q : Path} (h : q.root = .single) : p.join q = q := by
  simp [join, isAbsolute, h]

lemma extend_eq {rel : List String} (h : rel ≠ []) (suffix : String) :
    extend rel suffix = rel.dropLast ++ [rel.getLast h ++ suffix] := by
  rw [extend, List.getLast?_eq_getLast_of_ne_nil h]

lemma dropLast_extend {rel : List String} (h : rel ≠ []) (suffix : String) :
    (extend rel suffix).dropLast = rel.dropLast := by
  rw [extend_eq h, List.dropLast_concat]

lemma extend_ne_nil (rel : List String) (suffix : String) : extend rel suffix ≠ [] := by
  unfold extend
  split <;> simp

lemma extend_inj {rel rel' : List String} (h : rel ≠ []) (h' : rel' ≠ []) {suffix : String}
    (he : extend rel suffix = extend rel' suffix) : rel = rel' := by
  rw [extend_eq h, extend_eq h'] at he
  obtain ⟨h₁, h₂⟩ := List.append_inj' he rfl
  have h₃ : rel.getLast h = rel'.getLast h' := by
    have h₄ := congrArg String.toList (List.singleton_inj.mp h₂)
    simp only [String.toList_append, List.append_cancel_right_eq] at h₄
    exact String.toList_inj.mp h₄
  rw [← List.dropLast_append_getLast h, ← List.dropLast_append_getLast h', h₁, h₃]

lemma extend_proper {rel : List String} (h : rel ≠ []) (hp : ∀ n ∈ rel, Proper n) {suffix : String}
    (hs : '/' ∉ suffix.toList) (hlen : 2 < suffix.toList.length) :
    ∀ n ∈ extend rel suffix, Proper n := by
  rw [extend_eq h]
  intro n hn
  rcases List.mem_append.mp hn with hn | hn
  · exact hp n (List.mem_of_mem_dropLast hn)
  · obtain rfl := List.mem_singleton.mp hn
    obtain ⟨⟨-, -, hslash⟩, -⟩ := hp _ (List.getLast_mem h)
    have long : ∀ t : String, t.toList.length ≤ 2 → rel.getLast h ++ suffix ≠ t := by
      rintro t ht rfl
      simp only [String.toList_append, List.length_append] at ht
      omega
    refine ⟨⟨long "" (by simp), long "." (by decide), ?_⟩, long ".." (by decide)⟩
    simp [String.toList_append, hslash, hs]

lemma body_append_last (init : List String) (last suffix : String) :
    body (init ++ [last ++ suffix]) = body (init ++ [last]) ++ suffix.toList := by
  induction init with
  | nil => simp [body, List.intercalate]
  | cons n init ih =>
    cases init with
    | nil => simp [body, List.intercalate]
    | cons m init =>
      have step : ∀ names : List String, body (n :: m :: names) = n.toList ++ '/' :: body (m :: names) :=
        fun names => by simp [body, List.intercalate]
      simp only [List.cons_append] at ih ⊢
      rw [step, step, ih]
      simp

lemma toList_text {names : List String} (h : body names ≠ []) :
    (text ⟨.relative, names⟩).toList = body names := by
  have hbody : ("/".intercalate names).toList = body names := by
    simp [String.toList_intercalate, body]
  have hne : "/".intercalate names ≠ "" := by
    intro he
    rw [he] at hbody
    exact h hbody.symm
  simp [text, rootText, hne, hbody]

end Path

namespace Workspace

open Files (Proper)

lemma isBackupName_iff {n : String} :
    isBackupName n = true ↔ backupSuffix.toList <:+ n.toList := by
  have := @String.Slice.endsWith_string_iff backupSuffix n.toSlice
  simpa [isBackupName] using this

lemma isBackupName_extend (n : String) : isBackupName (n ++ backupSuffix) = true := by
  rw [isBackupName_iff, String.toList_append]
  exact List.suffix_append _ _

variable {w : Workspace} {rel : List String}

lemma relative_inside (hroot : w.project.root = .single)
    (hp : ∀ n ∈ w.project.names ++ rel, n ≠ "..") :
    w.relative ⟨.single, w.project.names ++ rel⟩ = rel := by
  have hj : w.project.join ⟨.single, w.project.names ++ rel⟩ = ⟨.single, w.project.names ++ rel⟩ :=
    Path.join_absolute rfl
  have hn : Path.normalize ⟨.single, w.project.names ++ rel⟩ = ⟨.single, w.project.names ++ rel⟩ := by
    have habs : (PathRoot.single != PathRoot.relative) = true := rfl
    simp [Path.normalize, Path.isAbsolute, habs, Path.collapse_proper hp]
  rw [relative, hj, hn, Path.relativeTo?, hroot]
  simp [Path.below?_eq_some.mpr rfl]

lemma originalOf?_copy (hp : ∀ n ∈ rel, Path.IsName n) :
    w.originalOf? ⟨w.localDir.root, w.localDir.names ++ Path.extend rel backupSuffix⟩ =
      some (Files.down w.project rel) := by
  have hbelow : Path.relativeTo? ⟨w.localDir.root, w.localDir.names ++ Path.extend rel backupSuffix⟩
      w.localDir = some (Path.extend rel backupSuffix) := by
    simp [Path.relativeTo?, Path.below?_eq_some.mpr rfl]
  rw [originalOf?, hbelow, Option.map_some]
  dsimp only
  by_cases hne : rel = []
  · -- the project itself goes by a dot
    subst hne
    have hdot : Path.parse (String.ofList ((Path.text ⟨.relative, Path.extend [] backupSuffix⟩).toList.take
        ((Path.text ⟨.relative, Path.extend [] backupSuffix⟩).toList.length - backupSuffix.length))) =
        ⟨.relative, []⟩ := by decide
    rw [hdot]
    simp [Path.join, Path.isAbsolute, Files.down]
  · have hbody : Path.body (Path.extend rel backupSuffix) = Path.body rel ++ backupSuffix.toList := by
      conv_rhs => rw [← List.dropLast_append_getLast hne]
      rw [Path.extend_eq hne, Path.body_append_last]
    have htext : (Path.text ⟨.relative, Path.extend rel backupSuffix⟩).toList =
        Path.body rel ++ backupSuffix.toList := by
      rw [Path.toList_text, hbody]
      rw [hbody]
      simp [backupSuffix]
    have hnames : Path.namesOf (Path.body rel) = rel := Path.namesOf_body hp
    have hrel : Path.parse (String.ofList (Path.body rel)) = ⟨.relative, rel⟩ := by
      have hhead := Path.takeWhile_body hp
      simp [Path.parse, Path.rootOf, hhead, hnames]
    simp only [htext, List.length_append, String.length_toList, Nat.add_sub_cancel,
      List.take_left, hrel, Path.join]
    simp [Path.isAbsolute, Files.down]

end Workspace

end CallSnapshot
