import CallSnapshot.Proofs.Files.View

/-!
Trees without links. A path leads there where its names say, and work on a path changes nothing but
what is there, and the directories on the way.
-/

namespace CallSnapshot.Files

def Direct (fs : Files) : Prop := ∀ q t, fs.get? q ≠ some (.link t)

def follow : Place → List String → Place
  | dir, [] => dir
  | dir, n :: rest => if n == ".." then follow dir.dropLast rest else follow (dir ++ [n]) rest

variable {fs gs : Files} {p : Path} {q dir : Place} {names rest : List String} {c : List UInt8}

lemma follow_eq (h : ∀ n ∈ names, n ≠ "..") (dir : Place) : follow dir names = dir ++ names := by
  induction names generalizing dir with
  | nil => simp [follow]
  | cons n rest ih =>
    simp only [List.forall_mem_cons] at h
    simp [follow, h.1, ih h.2]

lemma walk_follow (hd : Direct fs) {last : Bool} {links fuel : ℕ}
    (h : walk fs last links fuel dir names = .ok q) : q = follow dir names := by
  induction fuel generalizing dir names with
  | zero => cases h
  | succ fuel ih =>
    cases names with
    | nil =>
      cases h
      rfl
    | cons n rest =>
      simp only [walk, follow] at h ⊢
      split at h
      · rename_i hn
        rw [if_pos hn]
        exact ih h
      · rename_i hn
        rw [if_neg hn]
        split at h
        · split at h
          · rename_i hrest
            cases h
            rw [List.isEmpty_iff.mp hrest, follow]
          · cases h
        · exact ih h
        · split at h
          · rename_i hrest
            cases h
            rw [List.isEmpty_iff.mp hrest, follow]
          · cases h
        · rename_i t ht
          exact absurd ht (hd _ t)

lemma placeOf_follow (hd : Direct fs) (h : fs.placeOf p = .ok q) : q = follow (fs.startOf p) p.names :=
  walk_follow hd h

lemma ownPlaceOf_follow (hd : Direct fs) (h : fs.ownPlaceOf p = .ok q) :
    q = follow (fs.startOf p) p.names := walk_follow hd h

lemma walk_through {last : Bool} {links fuel : ℕ} (hn : ∀ n ∈ names, n ≠ "..")
    (hway : ∀ r, r <+: names → r ≠ names → fs.get? (dir ++ r) = some .directory)
    (hend : ∀ t, fs.get? (dir ++ names) ≠ some (.link t)) (hf : names.length < fuel) :
    walk fs last links fuel dir names = .ok (dir ++ names) := by
  induction names generalizing dir fuel with
  | nil =>
    obtain ⟨fuel, rfl⟩ : ∃ k, fuel = k + 1 := ⟨fuel - 1, by omega⟩
    simp [walk]
  | cons n rest ih =>
    obtain ⟨fuel, rfl⟩ : ∃ k, fuel = k + 1 := ⟨fuel - 1, by omega⟩
    simp only [List.forall_mem_cons] at hn
    have hcons : dir ++ n :: rest = dir ++ [n] ++ rest := by simp
    simp only [walk, beq_iff_eq, hn.1, if_false]
    by_cases hrest : rest = []
    · subst hrest
      have hstop : ∀ fuel, 0 < fuel → walk fs last links fuel (dir ++ [n]) [] = .ok (dir ++ [n]) := by
        intro fuel hpos
        obtain ⟨fuel, rfl⟩ : ∃ k, fuel = k + 1 := ⟨fuel - 1, by omega⟩
        simp [walk]
      simp only [List.length_cons, List.length_nil] at hf
      split
      · rfl
      · exact hstop fuel (by omega)
      · rfl
      · rename_i t ht
        exact absurd ht (hend t)
    · have hdir : fs.get? (dir ++ [n]) = some .directory :=
        hway [n] (by simp) (by simpa using Ne.symm hrest)
      rw [hdir, hcons]
      refine ih hn.2 (fun r hr hne => ?_) (fun t => ?_) (by simpa using hf)
      · rw [List.append_assoc]
        exact hway (n :: r) (by simpa using hr) (by simpa using hne)
      · rw [← hcons]
        exact hend t

lemma makeFrom_through {fuel : ℕ} (hn : ∀ n ∈ names, n ≠ "..")
    (hway : ∀ r, r <+: names → r ≠ names → fs.get? (dir ++ r) = some .directory)
    (hend : fs.get? (dir ++ names) = some .directory ∨ (names ≠ [] ∧ fs.get? (dir ++ names) = none))
    (hf : names.length < fuel) : ∃ gs, makeFrom fuel fs dir names = .ok gs ∧
      gs.current = fs.current ∧ gs.get? (dir ++ names) = some .directory ∧
      ∀ q, q ≠ dir ++ names → gs.get? q = fs.get? q := by
  induction names generalizing dir fuel with
  | nil =>
    obtain ⟨fuel, rfl⟩ : ∃ k, fuel = k + 1 := ⟨fuel - 1, by omega⟩
    exact ⟨fs, by simp [makeFrom], rfl, hend.resolve_right fun h => h.1 rfl, fun _ _ => rfl⟩
  | cons n rest ih =>
    obtain ⟨fuel, rfl⟩ : ∃ k, fuel = k + 1 := ⟨fuel - 1, by omega⟩
    simp only [List.forall_mem_cons] at hn
    have hcons : dir ++ n :: rest = dir ++ [n] ++ rest := by simp
    simp only [makeFrom, beq_iff_eq, hn.1, if_false]
    by_cases hrest : rest = []
    · subst hrest
      have hstop : ∀ (gs : Files) (d : Place), makeFrom fuel gs d [] = .ok gs := by
        simp only [List.length_cons, List.length_nil] at hf
        obtain ⟨fuel, rfl⟩ : ∃ k, fuel = k + 1 := ⟨fuel - 1, by omega⟩
        simp [makeFrom]
      rcases hend with hdir | ⟨-, hnone⟩
      · refine ⟨fs, ?_, rfl, hdir, fun _ _ => rfl⟩
        rw [hdir]
        exact hstop _ _
      · have hget := get?_put fs (p := dir ++ [n]) (by simp) .directory
        rw [hnone]
        refine ⟨_, hstop _ _, rfl, by rw [hget, if_pos rfl], fun q hq => ?_⟩
        rw [hget, if_neg hq]
    · have hdir : fs.get? (dir ++ [n]) = some .directory :=
        hway [n] (by simp) (by simpa using Ne.symm hrest)
      rw [hdir, hcons]
      refine ih hn.2 (fun r hr hne => ?_) ?_ (by simpa using hf)
      · rw [List.append_assoc]
        exact hway (n :: r) (by simpa using hr) (by simpa using hne)
      · rw [← hcons]
        exact hend.imp_right fun h => ⟨hrest, h.2⟩

lemma makeFrom_made (hd : Direct fs) {fuel : ℕ} (h : makeFrom fuel fs dir names = .ok gs) :
    gs.current = fs.current ∧ ∀ q, gs.get? q = fs.get? q ∨
      (fs.get? q = none ∧ gs.get? q = some .directory ∧ ∃ r, r <+: names ∧ q = follow dir r) := by
  induction fuel generalizing fs dir names with
  | zero => cases h
  | succ fuel ih =>
    cases names with
    | nil =>
      cases h
      exact ⟨rfl, fun q => .inl rfl⟩
    | cons n rest =>
      simp only [makeFrom] at h
      split at h
      · rename_i hn
        obtain ⟨hc, hq⟩ := ih hd h
        refine ⟨hc, fun q => (hq q).imp_right fun ⟨h₁, h₂, r, hr, hqr⟩ => ⟨h₁, h₂, n :: r, ?_, ?_⟩⟩
        · simpa using hr
        · rw [follow, if_pos hn, hqr]
      · rename_i hn
        have hfollow : ∀ r, follow dir (n :: r) = follow (dir ++ [n]) r := fun r => by
          rw [follow, if_neg hn]
        split at h
        · rename_i hnone
          have hget := get?_put fs (p := dir ++ [n]) (by simp) .directory
          have hd' : Direct (fs.put (dir ++ [n]) .directory) := by
            intro q t
            rw [hget]
            split
            · simp
            · exact hd q t
          obtain ⟨hc, hq⟩ := ih hd' h
          refine ⟨hc, fun q => ?_⟩
          by_cases hqn : q = dir ++ [n]
          · refine .inr ⟨hqn ▸ hnone, ?_, [n], by simp, ?_⟩
            · rcases hq q with heq | ⟨-, hdir, -⟩
              · rw [heq, hget, if_pos hqn]
              · exact hdir
            · rw [hfollow, follow, hqn]
          · rcases hq q with heq | ⟨h₁, h₂, r, hr, hqr⟩
            · rw [heq, hget, if_neg hqn]
              exact .inl rfl
            · rw [hget, if_neg hqn] at h₁
              exact .inr ⟨h₁, h₂, n :: r, by simpa using hr, by rw [hfollow, hqr]⟩
        · obtain ⟨hc, hq⟩ := ih hd h
          refine ⟨hc, fun q => (hq q).imp_right fun ⟨h₁, h₂, r, hr, hqr⟩ => ⟨h₁, h₂, n :: r, ?_, ?_⟩⟩
          · simpa using hr
          · rw [hfollow, hqr]
        · cases h
        · rename_i t ht
          exact absurd ht (hd _ t)

lemma makeDirectories_made (hd : Direct fs) (h : fs.makeDirectories p = .ok gs) :
    gs.current = fs.current ∧ ∀ q, gs.get? q = fs.get? q ∨
      (fs.get? q = none ∧ gs.get? q = some .directory ∧
        ∃ r, r <+: p.names ∧ q = follow (fs.startOf p) r) := makeFrom_made hd h

lemma write_put (hd : Direct fs) (h : fs.write p c = .ok gs) :
    gs = fs.put (follow (fs.startOf p) p.names) (.file c) ∧
      fs.get? (follow (fs.startOf p) p.names) ≠ some .directory := by
  obtain ⟨q, hp, hq, rfl⟩ := write_eq_ok.mp h
  rw [← placeOf_follow hd hp]
  exact ⟨rfl, hq⟩

lemma append_put (hd : Direct fs) (h : fs.append p c = .ok gs) :
    (∃ b, gs = fs.put (follow (fs.startOf p) p.names) (.file b)) ∧
      fs.get? (follow (fs.startOf p) p.names) ≠ some .directory := by
  unfold append at h
  cases hp : fs.placeOf p with
  | error e => simp [hp, bind, Except.bind] at h
  | ok q =>
    simp only [hp, bind, Except.bind] at h
    rw [← placeOf_follow hd hp]
    split at h
    · cases h
    · rename_i b hq
      cases h
      exact ⟨⟨_, rfl⟩, by simp [hq]⟩
    · rename_i hdir _
      cases h
      exact ⟨⟨_, rfl⟩, hdir⟩

lemma remove_erase (hd : Direct fs) (h : fs.remove p = .ok gs) :
    gs = fs.erase (follow (fs.startOf p) p.names) ∧
      ∃ c, fs.get? (follow (fs.startOf p) p.names) = some (.file c) := by
  obtain ⟨q, e, hp, he, hne, rfl⟩ := remove_eq_ok.mp h
  rw [← ownPlaceOf_follow hd hp]
  cases e with
  | file c => exact ⟨rfl, c, he⟩
  | directory => exact absurd rfl hne
  | link t => exact absurd he (hd q t)

lemma removeDirectory_erase (hd : Direct fs) (h : fs.removeDirectory p = .ok gs) :
    gs = fs.erase (follow (fs.startOf p) p.names) ∧
      fs.get? (follow (fs.startOf p) p.names) = some .directory ∧
      ∀ n, fs.get? (follow (fs.startOf p) p.names ++ [n]) = none := by
  obtain ⟨q, hp, hq, hempty, rfl⟩ := removeDirectory_eq_ok.mp h
  rw [← ownPlaceOf_follow hd hp]
  refine ⟨rfl, hq, fun n => ?_⟩
  rw [← Option.not_isSome_iff_eq_none, ← mem_children, hempty]
  exact List.not_mem_nil

lemma resolveFrom_follow (hd : Direct fs) {links fuel : ℕ} (hf : names.length < fuel) :
    resolveFrom fs links fuel dir names = follow dir names := by
  induction names generalizing dir fuel with
  | nil =>
    obtain ⟨fuel, rfl⟩ : ∃ k, fuel = k + 1 := ⟨fuel - 1, by omega⟩
    simp [resolveFrom, follow]
  | cons n rest ih =>
    obtain ⟨fuel, rfl⟩ : ∃ k, fuel = k + 1 := ⟨fuel - 1, by omega⟩
    simp only [List.length_cons] at hf
    unfold resolveFrom
    rw [follow]
    by_cases hn : (n == "..") = true
    · rw [if_pos hn, if_pos hn]
      exact ih (by omega)
    · rw [if_neg hn, if_neg hn]
      split
      · rename_i t _ ht
        exact absurd ht (hd _ t)
      · exact ih (by omega)

lemma resolve_follow (hd : Direct fs) (p : Path) :
    fs.resolve p = ⟨.single, follow (fs.startOf p) p.names⟩ := by
  rw [resolve, resolveFrom_follow hd (by rw [stepLimit]; omega)]

/-- Double dots are taken back, so that none are left. -/
lemma follow_proper (hdir : ∀ n ∈ dir, n ≠ "..") (names : List String) :
    ∀ n ∈ follow dir names, n ≠ ".." := by
  induction names generalizing dir with
  | nil => exact hdir
  | cons n rest ih =>
    rw [follow]
    split
    · exact ih fun m hm => hdir m (List.mem_of_mem_dropLast hm)
    · rename_i hn
      refine ih fun m hm => ?_
      rcases List.mem_append.mp hm with hm | hm
      · exact hdir m hm
      · rw [List.mem_singleton.mp hm]
        simpa using hn

end CallSnapshot.Files
