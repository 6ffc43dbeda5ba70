import CallSnapshot.Proofs.Files.Walk

/-! What the operations on files do where the places of their paths are known. -/

namespace CallSnapshot.Files

variable {fs : Files} {b p : Path} {dir q : Place} {rest : List String}

def Clear (fs : Files) (dir : Place) (rest : List String) : Prop :=
  ∀ r, r ≠ [] → r <+: rest → fs.get? (dir ++ r) = none ∨ fs.get? (dir ++ r) = some .directory

lemma Clear.linkless (h : Clear fs dir rest) : Linkless fs dir rest := by
  intro r hr hp t ht
  rcases h r hr hp with h | h <;> simp [ht] at h

lemma Clear.tail {n : String} (h : Clear fs dir (n :: rest)) : Clear fs (dir ++ [n]) rest := by
  intro r hr hp
  rw [List.append_assoc]
  exact h (n :: r) (by simp) (by simpa using hp)

structure Grown (fs gs : Files) (dir : Place) (rest : List String) : Prop where
  sound : Sound gs
  current : gs.current = fs.current
  made : ∀ r, r <+: rest → gs.get? (dir ++ r) = some .directory
  kept : ∀ q, gs.get? q = fs.get? q ∨
    (fs.get? q = none ∧ gs.get? q = some .directory ∧ ∃ r, r ≠ [] ∧ r <+: rest ∧ q = dir ++ r)

lemma Grown.cons {gs : Files} {n : String} (h : Grown fs gs (dir ++ [n]) rest)
    (hd : gs.get? dir = some .directory) {r : Place} (hp : r <+: n :: rest) :
    gs.get? (dir ++ r) = some .directory := by
  cases r with
  | nil => simpa using hd
  | cons m r =>
    obtain ⟨rfl, hr⟩ := List.cons_prefix_cons.mp hp
    simpa using h.made r hr

lemma makeFrom_down (hs : Sound fs) (hr : ∀ n ∈ rest, Proper n) (hc : Clear fs dir rest)
    (hd : fs.get? dir = some .directory) {fuel : ℕ} (hf : rest.length < fuel) :
    ∃ gs, makeFrom fuel fs dir rest = .ok gs ∧ Grown fs gs dir rest := by
  induction rest generalizing fs dir fuel with
  | nil =>
    obtain ⟨fuel, rfl⟩ : ∃ k, fuel = k + 1 := ⟨fuel - 1, by omega⟩
    exact ⟨fs, by simp [makeFrom], hs, rfl, by simp [hd], fun q => .inl rfl⟩
  | cons n rest ih =>
    obtain ⟨fuel, rfl⟩ : ∃ k, fuel = k + 1 := ⟨fuel - 1, by omega⟩
    simp only [List.forall_mem_cons] at hr
    have hn : n ≠ ".." := hr.1.2
    rcases hc [n] (by simp) (by simp) with hg | hg
    · have hget := fun q => get?_put fs (p := dir ++ [n]) (by simp) .directory q
      have hs' : Sound (fs.put (dir ++ [n]) .directory) := hs.put hr.1 hd (.inl rfl)
      have hc' : Clear (fs.put (dir ++ [n]) .directory) (dir ++ [n]) rest := by
        intro r hrne hp
        rw [hget]
        split
        · exact .inr rfl
        · exact hc.tail r hrne hp
      obtain ⟨gs, hgs, hgrown⟩ := ih hs' hr.2 hc' (by simp [hget]) (Nat.lt_of_succ_lt_succ hf)
      have hdir : gs.get? dir = some .directory := by
        rcases hgrown.kept dir with h | ⟨-, h, -⟩
        · rw [h, hget]
          simp [hd]
        · exact h
      refine ⟨gs, ?_, hgrown.sound, hgrown.current, fun r hp => hgrown.cons hdir hp, fun q => ?_⟩
      · simp only [makeFrom, beq_iff_eq, hn, if_false, hg]
        exact hgs
      · rcases hgrown.kept q with h | ⟨h₁, h₂, r, hrne, hp, rfl⟩
        · rw [hget] at h
          split at h
          · rename_i hq
            exact .inr ⟨hq ▸ hg, h, [n], by simp, by simp, hq⟩
          · exact .inl h
        · rw [hget] at h₁
          split at h₁
          · cases h₁
          · exact .inr ⟨h₁, h₂, n :: r, by simp, by simpa using hp, by simp⟩
    · obtain ⟨gs, hgs, hgrown⟩ := ih hs hr.2 hc.tail hg (Nat.lt_of_succ_lt_succ hf)
      have hdir : gs.get? dir = some .directory := by
        rcases hgrown.kept dir with h | ⟨-, h, -⟩
        · rw [h, hd]
        · exact h
      refine ⟨gs, ?_, hgrown.sound, hgrown.current, fun r hp => hgrown.cons hdir hp, fun q => ?_⟩
      · simp only [makeFrom, beq_iff_eq, hn, if_false, hg]
        exact hgs
      · rcases hgrown.kept q with h | ⟨h₁, h₂, r, hrne, hp, rfl⟩
        · exact .inl h
        · exact .inr ⟨h₁, h₂, n :: r, by simp, by simpa using hp, by simp⟩

lemma makeDirectories_down (h : Leads fs b dir) (hs : Sound fs) (hr : ∀ n ∈ rest, Proper n)
    (hc : Clear fs dir rest) :
    ∃ gs, fs.makeDirectories (down b rest) = .ok gs ∧ Grown fs gs dir rest := by
  obtain ⟨links, fuel, hpos, -, hmake⟩ := walk_on h.place h.directory
  have := hmake rest.length rest
  rw [makeDirectories, down, stepLimit_append]
  obtain ⟨gs, hgs, hgrown⟩ := makeFrom_down hs hr hc h.directory (show rest.length < fuel + rest.length by omega)
  exact ⟨gs, this.trans hgs, hgrown⟩

lemma read_file {c : List UInt8} (h : fs.entryAt? p = some (.file c)) : fs.read p = .ok c := read_eq_ok_iff.mpr h

lemma write_file (hp : fs.placeOf p = .ok q) (hq : fs.get? q ≠ some .directory) (c : List UInt8) :
    fs.write p c = .ok (fs.put q (.file c)) := write_eq_ok.mpr ⟨q, hp, hq, rfl⟩

lemma copy_file {source : Path} {c : List UInt8} (hsource : fs.entryAt? source = some (.file c))
    (hp : fs.placeOf p = .ok q) (hq : fs.get? q ≠ some .directory) :
    fs.copy source p = .ok (fs.put q (.file c)) :=
  copy_eq_ok.mpr ⟨c, read_file hsource, write_file hp hq c⟩

lemma list_directory (hp : fs.placeOf p = .ok q) (hq : fs.get? q = some .directory) :
    fs.list p = .ok (fs.children q) := by
  simp [list, hp, hq, bind, Except.bind]

lemma remove_file (hp : fs.ownPlaceOf p = .ok q) {c : List UInt8} (hq : fs.get? q = some (.file c)) :
    fs.remove p = .ok (fs.erase q) := remove_eq_ok.mpr ⟨q, _, hp, hq, by simp, rfl⟩

lemma removeDirectory_empty (hp : fs.ownPlaceOf p = .ok q) (hq : fs.get? q = some .directory)
    (he : fs.children q = []) : fs.removeDirectory p = .ok (fs.erase q) :=
  removeDirectory_eq_ok.mpr ⟨q, hp, hq, he, rfl⟩

lemma removeTree_directory (hp : fs.ownPlaceOf p = .ok q) (hq : fs.get? q = some .directory) :
    fs.removeTree p = fs.eraseTree q := by
  simp [removeTree, hp, hq]

lemma resolveFrom_down (hr : ∀ n ∈ rest, n ≠ "..") (hl : Linkless fs dir rest) (links : ℕ) {fuel : ℕ}
    (hf : rest.length < fuel) : resolveFrom fs links fuel dir rest = dir ++ rest := by
  induction rest generalizing dir fuel with
  | nil =>
    obtain ⟨fuel, rfl⟩ : ∃ k, fuel = k + 1 := ⟨fuel - 1, by omega⟩
    simp [resolveFrom]
  | cons n rest ih =>
    obtain ⟨fuel, rfl⟩ : ∃ k, fuel = k + 1 := ⟨fuel - 1, by omega⟩
    simp only [List.forall_mem_cons] at hr
    have hnext := ih hr.2 hl.tail (Nat.lt_of_succ_lt_succ hf)
    simp only [resolveFrom, beq_iff_eq, hr.1, if_false]
    split
    · exact absurd ‹_› (hl [n] (by simp) (by simp) _)
    · rw [hnext]
      simp

end CallSnapshot.Files
