import CallSnapshot.Proofs.Files.View

/-!
Where paths lead. A path to a directory can be gone on from there, whatever links are on it; names
below, with no links among them, lead straight down. The limit on the steps is never what ends a walk.
-/

namespace CallSnapshot.Files

variable {fs : Files} {dir : Place} {rest : List String}

def Linkless (fs : Files) (dir : Place) (rest : List String) : Prop :=
  ∀ r, r ≠ [] → r <+: rest → ∀ t, fs.get? (dir ++ r) ≠ some (.link t)

lemma Linkless.tail {n : String} (h : Linkless fs dir (n :: rest)) : Linkless fs (dir ++ [n]) rest := by
  intro r hr hp t
  rw [List.append_assoc]
  exact h (n :: r) (by simp) (by simpa using hp) t

lemma walk_down (hs : Sound fs) (hr : ∀ n ∈ rest, n ≠ "..") (hl : Linkless fs dir rest)
    (hd : rest ≠ [] → fs.get? (dir ++ rest.dropLast) = some .directory) (last : Bool) (links : ℕ)
    {fuel : ℕ} (hf : rest.length < fuel) : walk fs last links fuel dir rest = .ok (dir ++ rest) := by
  induction rest generalizing dir fuel with
  | nil =>
    obtain ⟨fuel, rfl⟩ : ∃ k, fuel = k + 1 := ⟨fuel - 1, by omega⟩
    simp [walk]
  | cons n rest ih =>
    obtain ⟨fuel, rfl⟩ : ∃ k, fuel = k + 1 := ⟨fuel - 1, by omega⟩
    simp only [List.forall_mem_cons] at hr
    have hlink := hl [n] (by simp) (by simp)
    cases rest with
    | nil =>
      obtain ⟨fuel, rfl⟩ : ∃ k, fuel = k + 1 := ⟨fuel - 1, by simp at hf; omega⟩
      cases hg : fs.get? (dir ++ [n]) with
      | none => simp [walk, hr.1, hg]
      | some e =>
        cases e with
        | file c => simp [walk, hr.1, hg]
        | directory => simp [walk, hr.1, hg]
        | link t => exact absurd hg (hlink t)
    | cons m rest =>
      have hdir : fs.get? (dir ++ [n]) = some .directory := by
        have h := hd (by simp)
        rw [List.dropLast_cons_cons] at h
        by_cases he : (m :: rest).dropLast = []
        · simpa [he] using h
        · exact hs.above he (by simp [h])
      have hd' : m :: rest ≠ [] → fs.get? (dir ++ [n] ++ (m :: rest).dropLast) = some .directory := by
        intro _
        simpa using hd (by simp)
      simp only [walk, beq_iff_eq, hr.1, if_false, hdir]
      rw [ih hr.2 hl.tail hd' (by simpa using hf)]
      simp

lemma walk_none (hr : ∀ n ∈ rest, n ≠ "..") (hl : Linkless fs dir rest)
    (hn : fs.get? (dir ++ rest) = none) {last : Bool} {links fuel : ℕ} {q : Place}
    (h : walk fs last links fuel dir rest = .ok q) : fs.get? q = none := by
  induction rest generalizing dir fuel with
  | nil =>
    cases fuel with
    | zero => simp [walk] at h
    | succ fuel =>
      simp only [walk, Except.ok.injEq] at h
      simpa [h] using hn
  | cons n rest ih =>
    cases fuel with
    | zero => simp [walk] at h
    | succ fuel =>
      simp only [List.forall_mem_cons] at hr
      simp only [walk, beq_iff_eq, hr.1, if_false] at h
      cases hg : fs.get? (dir ++ [n]) with
      | none =>
        simp only [hg] at h
        split at h
        · cases h
          exact hg
        · cases h
      | some e =>
        cases e with
        | file c =>
          simp only [hg] at h
          split at h
          · cases h
            simp_all
          · cases h
        | directory =>
          simp only [hg] at h
          exact ih hr.2 hl.tail (by simpa using hn) h
        | link t => exact absurd hg (hl [n] (by simp) (by simp) t)

lemma walk_on {links fuel : ℕ} {names : List String} {q : Place}
    (h : walk fs true links fuel dir names = .ok q) (hq : fs.get? q = some .directory) :
    ∃ links' fuel', 0 < fuel' ∧
      (∀ k last rest, last = true ∨ rest ≠ [] →
        walk fs last links (fuel + k) dir (names ++ rest) = walk fs last links' (fuel' + k) q rest) ∧
      ∀ k rest, makeFrom (fuel + k) fs dir (names ++ rest) = makeFrom (fuel' + k) fs q rest := by
  induction fuel generalizing links dir names with
  | zero => simp [walk] at h
  | succ fuel ih =>
    cases names with
    | nil =>
      simp only [walk, Except.ok.injEq] at h
      subst h
      exact ⟨links, fuel + 1, by omega, by simp, by simp⟩
    | cons n names =>
      simp only [Nat.succ_add, List.cons_append, walk, makeFrom]
      simp only [walk] at h
      by_cases hn : n = ".."
      · simp only [hn, beq_self_eq_true, if_true] at h ⊢
        exact ih h
      · simp only [beq_iff_eq, hn, if_false] at h ⊢
        cases hg : fs.get? (dir ++ [n]) with
        | none =>
          simp only [hg] at h
          split at h
          · cases h
            rw [hg] at hq
            cases hq
          · cases h
        | some e =>
          cases e with
          | file c =>
            simp only [hg] at h
            split at h
            · cases h
              rw [hg] at hq
              cases hq
            · cases h
          | directory =>
            simp only [hg] at h
            exact ih h
          | link t =>
            simp only [hg, Bool.not_true, Bool.and_false, Bool.false_eq_true, if_false] at h
            cases links with
            | zero => cases h
            | succ links =>
              obtain ⟨links', fuel', hpos, hw, hm⟩ := ih h
              refine ⟨links', fuel', hpos, fun k last rest hr => ?_, fun k rest => ?_⟩
              · have hstop : ((names ++ rest).isEmpty && !last) = false := by
                  rcases hr with rfl | hr
                  · simp
                  · simp [hr]
                simp only [hstop, Bool.false_eq_true, if_false]
                rw [← List.append_assoc]
                exact hw k last rest hr
              · have := hm k rest
                rwa [List.append_assoc] at this

/-- What is in a tree is in the other, files with any content. -/
def Extends (fs gs : Files) : Prop :=
  ∀ q e, fs.get? q = some e →
    gs.get? q = some e ∨ ((∃ c, e = .file c) ∧ ∃ c, gs.get? q = some (.file c))

lemma Extends.directory {gs : Files} (h : Extends fs gs) {q : Place}
    (hq : fs.get? q = some .directory) : gs.get? q = some .directory := by
  rcases h q _ hq with h | ⟨⟨c, h⟩, -⟩
  · exact h
  · cases h

lemma walk_extends {gs : Files} (hx : Extends fs gs) {last : Bool} {links fuel : ℕ}
    {names : List String} {q : Place} (h : walk fs last links fuel dir names = .ok q)
    (hq : (fs.get? q).isSome = true) : walk gs last links fuel dir names = .ok q := by
  induction fuel generalizing links dir names with
  | zero => simp [walk] at h
  | succ fuel ih =>
    cases names with
    | nil => simpa [walk] using h
    | cons n names =>
      simp only [walk] at h ⊢
      by_cases hn : n = ".."
      · simp only [hn, beq_self_eq_true, if_true] at h ⊢
        exact ih h
      · simp only [beq_iff_eq, hn, if_false] at h ⊢
        cases hg : fs.get? (dir ++ [n]) with
        | none =>
          simp only [hg] at h
          split at h
          · cases h
            rw [hg] at hq
            cases hq
          · cases h
        | some e =>
          cases e with
          | file c =>
            obtain ⟨c', hg'⟩ : ∃ c', gs.get? (dir ++ [n]) = some (.file c') := by
              rcases hx _ _ hg with h | ⟨-, h⟩
              · exact ⟨c, h⟩
              · exact h
            simpa only [hg, hg'] using h
          | directory =>
            simp only [hg, hx.directory hg] at h ⊢
            exact ih h
          | link t =>
            have hg' : gs.get? (dir ++ [n]) = some (.link t) := by
              rcases hx _ _ hg with h | ⟨⟨c, h⟩, -⟩
              · exact h
              · cases h
            simp only [hg, hg'] at h ⊢
            split
            · rename_i hstop
              rwa [if_pos hstop] at h
            · rename_i hstop
              rw [if_neg hstop] at h
              cases links with
              | zero => cases h
              | succ links => exact ih h

def linkLength (e : Place × Entry) : ℕ :=
  match e.2 with
  | .link t => t.names.length + 1
  | _ => 0

lemma le_foldl_max {l : List ℕ} {k m : ℕ} : l.foldl max k ≤ m ↔ k ≤ m ∧ ∀ n ∈ l, n ≤ m := by
  induction l generalizing k with
  | nil => simp
  | cons n l ih => simp [ih, and_assoc]

section Parts

variable {b : Path} {q : Place} {names : List String} {last : Bool} {links fuel : ℕ}

/-- How many steps a link takes at most. -/
def linkSpan (fs : Files) : ℕ := (fs.entries.map linkLength).foldl max 0

lemma length_link_lt {t : Path} (h : fs.get? q = some (.link t)) : t.names.length < fs.linkSpan := by
  have hne : q ≠ [] := by
    rintro rfl
    cases h
  exact (le_foldl_max.mp le_rfl).2 _ (List.mem_map_of_mem (mem_of_get? hne h))

lemma walk_within (h : walk fs last links fuel dir names = .ok q) {bound : ℕ}
    (hb : names.length + links * fs.linkSpan < bound) : walk fs last links bound dir names = .ok q := by
  induction fuel generalizing links dir names bound with
  | zero => cases h
  | succ fuel ih =>
    obtain ⟨bound, rfl⟩ : ∃ k, bound = k + 1 := ⟨bound - 1, by omega⟩
    cases names with
    | nil => exact h
    | cons n names =>
      simp only [walk] at h ⊢
      rw [List.length_cons] at hb
      by_cases hn : (n == "..") = true
      · rw [if_pos hn] at h ⊢
        exact ih h (by omega)
      · rw [if_neg hn] at h ⊢
        cases hg : fs.get? (dir ++ [n]) with
        | none => simpa only [hg] using h
        | some e =>
          cases e with
          | file c => simpa only [hg] using h
          | directory =>
            simp only [hg] at h ⊢
            exact ih h (by omega)
          | link t =>
            simp only [hg] at h ⊢
            split at h
            · rename_i hstop
              rwa [if_pos hstop]
            · rename_i hstop
              rw [if_neg hstop]
              cases links with
              | zero => cases h
              | succ links =>
                have hspan := length_link_lt hg
                refine ih h ?_
                rw [List.length_append]
                rw [Nat.succ_mul] at hb
                omega

lemma stepLimit_eq (fs : Files) (names : List String) :
    stepLimit fs names = names.length + 1 + (linkLimit + 1) * fs.linkSpan := rfl

/-- The limit on the steps is never what keeps a path from leading somewhere. -/
lemma placeOf_eq_ok_iff : fs.placeOf b = .ok q ↔
    ∃ fuel, walk fs true linkLimit fuel (startOf fs b) b.names = .ok q :=
  ⟨fun h => ⟨_, h⟩, fun ⟨_, h⟩ => walk_within h (by rw [stepLimit_eq, Nat.succ_mul]; omega)⟩

lemma ownPlaceOf_eq_ok_iff : fs.ownPlaceOf b = .ok q ↔
    ∃ fuel, walk fs false linkLimit fuel (startOf fs b) b.names = .ok q :=
  ⟨fun h => ⟨_, h⟩, fun ⟨_, h⟩ => walk_within h (by rw [stepLimit_eq, Nat.succ_mul]; omega)⟩

lemma placeOf_extends {gs : Files} (hx : Extends fs gs) (hc : gs.current = fs.current)
    (h : fs.placeOf b = .ok q) (hq : (fs.get? q).isSome = true) : gs.placeOf b = .ok q := by
  have hstart : startOf gs b = startOf fs b := by rw [startOf, startOf, hc]
  exact placeOf_eq_ok_iff.mpr ⟨_, hstart ▸ walk_extends hx h hq⟩

lemma ownPlaceOf_extends {gs : Files} (hx : Extends fs gs) (hc : gs.current = fs.current)
    (h : fs.ownPlaceOf b = .ok q) (hq : (fs.get? q).isSome = true) : gs.ownPlaceOf b = .ok q := by
  have hstart : startOf gs b = startOf fs b := by rw [startOf, startOf, hc]
  exact ownPlaceOf_eq_ok_iff.mpr ⟨_, hstart ▸ walk_extends hx h hq⟩

lemma walk_append (hne : rest ≠ []) (h : walk fs last links fuel dir (names ++ rest) = .ok q) :
    ∃ p links' fuel', walk fs true links fuel dir names = .ok p ∧ walk fs last links' fuel' p rest = .ok q := by
  induction fuel generalizing links dir names with
  | zero => cases h
  | succ fuel ih =>
    cases names with
    | nil => exact ⟨dir, links, fuel + 1, rfl, h⟩
    | cons n names =>
      have hmore : (names ++ rest).isEmpty = false := by simp [hne]
      simp only [List.cons_append, walk, hmore] at h ⊢
      by_cases hn : (n == "..") = true
      · rw [if_pos hn] at h ⊢
        exact ih h
      · rw [if_neg hn] at h ⊢
        cases hg : fs.get? (dir ++ [n]) with
        | none => simp [hg] at h
        | some e =>
          cases e with
          | file c => simp [hg] at h
          | directory =>
            simp only [hg] at h ⊢
            exact ih h
          | link t =>
            simp only [hg, Bool.false_and, Bool.not_true, Bool.and_false, Bool.false_eq_true, if_false] at h ⊢
            cases links with
            | zero => cases h
            | succ links =>
              rw [← List.append_assoc] at h
              exact ih h

lemma walk_own (h : walk fs true links fuel dir names = .ok q) :
    ∃ p, walk fs false links fuel dir names = .ok p ∧ (p = q ∨ ∃ t, fs.get? p = some (.link t)) := by
  induction fuel generalizing links dir names with
  | zero => cases h
  | succ fuel ih =>
    cases names with
    | nil => exact ⟨q, h, .inl rfl⟩
    | cons n names =>
      simp only [walk] at h ⊢
      by_cases hn : (n == "..") = true
      · rw [if_pos hn] at h ⊢
        exact ih h
      · rw [if_neg hn] at h ⊢
        cases hg : fs.get? (dir ++ [n]) with
        | none =>
          simp only [hg] at h ⊢
          exact ⟨q, h, .inl rfl⟩
        | some e =>
          cases e with
          | file c =>
            simp only [hg] at h ⊢
            exact ⟨q, h, .inl rfl⟩
          | directory =>
            simp only [hg] at h ⊢
            exact ih h
          | link t =>
            simp only [hg, Bool.not_true, Bool.and_false, Bool.false_eq_true, if_false, Bool.not_false,
              Bool.and_true] at h ⊢
            by_cases hend : names.isEmpty = true
            · rw [if_pos hend]
              exact ⟨_, rfl, .inr ⟨t, hg⟩⟩
            · rw [if_neg hend]
              cases links with
              | zero => cases h
              | succ links => exact ih h

lemma ownPlaceOf_of_placeOf (h : fs.placeOf b = .ok q) :
    ∃ p, fs.ownPlaceOf b = .ok p ∧ (p = q ∨ ∃ t, fs.get? p = some (.link t)) := walk_own h

lemma walk_straight (hn : ∀ n ∈ rest, n ≠ "..") (hl : Linkless fs dir rest.dropLast)
    (h : walk fs false links fuel dir rest = .ok q) : q = dir ++ rest := by
  induction rest generalizing dir fuel with
  | nil =>
    cases fuel with
    | zero => cases h
    | succ fuel =>
      cases h
      simp
  | cons n rest ih =>
    cases fuel with
    | zero => cases h
    | succ fuel =>
      simp only [List.forall_mem_cons] at hn
      simp only [walk, beq_iff_eq, hn.1, if_false] at h
      by_cases hend : rest = []
      · subst hend
        cases hg : fs.get? (dir ++ [n]) with
        | none =>
          simp only [hg] at h
          cases h
          rfl
        | some e =>
          cases e with
          | directory =>
            simp only [hg] at h
            exact (ih hn.2 (fun r hr hp => absurd (List.prefix_nil.mp hp) hr) h).trans (by simp)
          | _ =>
            simp only [hg] at h
            cases h
            rfl
      · have hmore : rest.isEmpty = false := by simp [hend]
        have hdrop : (n :: rest).dropLast = n :: rest.dropLast := List.dropLast_cons_of_ne_nil hend
        rw [hdrop] at hl
        cases hg : fs.get? (dir ++ [n]) with
        | none => simp [hg, hmore] at h
        | some e =>
          cases e with
          | file c => simp [hg, hmore] at h
          | directory =>
            simp only [hg] at h
            rw [ih hn.2 hl.tail h]
            simp
          | link t => exact absurd hg (hl [n] (by simp) (by simp) t)

end Parts

structure Leads (fs : Files) (b : Path) (dir : Place) : Prop where
  place : fs.placeOf b = .ok dir
  directory : fs.get? dir = some .directory

lemma leads_root (fs : Files) : Leads fs ⟨.single, []⟩ [] := by
  refine ⟨?_, rfl⟩
  obtain ⟨k, hk⟩ : ∃ k, stepLimit fs [] = k + 1 := ⟨_, by rw [stepLimit, Nat.add_right_comm]⟩
  simp only [placeOf, hk, walk]
  rfl

section Down

variable {b : Path}

def down (b : Path) (rest : List String) : Path := ⟨b.root, b.names ++ rest⟩

@[simp] lemma down_eq_self : down b rest = b ↔ rest = [] := by
  rw [down, Path.mk.injEq]
  simp

lemma down_parent (h : rest ≠ []) : (down b rest).parent = down b rest.dropLast := by
  rw [down, Path.parent, List.dropLast_append_of_ne_nil h, down]

lemma down_down (b : Path) (r s : List String) : down (down b r) s = down b (r ++ s) := by
  rw [down, down, down, List.append_assoc]

lemma stepLimit_append (fs : Files) (names rest : List String) :
    stepLimit fs (names ++ rest) = stepLimit fs names + rest.length := by
  simp only [stepLimit, List.length_append]
  omega

lemma Leads.extends {gs : Files} (h : Leads fs b dir) (hx : Extends fs gs) (hc : gs.current = fs.current) :
    Leads gs b dir :=
  ⟨placeOf_extends hx hc h.place (by rw [h.directory]; rfl), hx.directory h.directory⟩

lemma ownPlaceOf_down {q : Place} (hne : rest ≠ []) (h : fs.ownPlaceOf (down b rest) = .ok q) :
    ∃ p links fuel, fs.placeOf b = .ok p ∧ walk fs false links fuel p rest = .ok q := by
  obtain ⟨p, links, fuel, hp, hq⟩ := walk_append hne h
  exact ⟨p, links, fuel, placeOf_eq_ok_iff.mpr ⟨_, hp⟩, hq⟩

lemma ownPlaceOf_child {n : String} {q : Place} (hn : n ≠ "..") (h : fs.ownPlaceOf (b.child n) = .ok q) :
    ∃ p, fs.placeOf b = .ok p ∧ q = p ++ [n] := by
  obtain ⟨p, links, fuel, hp, hq⟩ := ownPlaceOf_down (List.cons_ne_nil n []) h
  exact ⟨p, hp, walk_straight (by simpa using hn) (fun r hr hpre => absurd (List.prefix_nil.mp hpre) hr) hq⟩

lemma ownPlaceOf_straight {q : Place} (hn : ∀ n ∈ rest, n ≠ "..")
    (hl : ∀ p, fs.ownPlaceOf b = .ok p → ∀ r, r <+: rest.dropLast → ∀ t, fs.get? (p ++ r) ≠ some (.link t))
    (h : fs.ownPlaceOf (down b rest) = .ok q) : ∃ p, fs.ownPlaceOf b = .ok p ∧ q = p ++ rest := by
  by_cases hne : rest = []
  · subst hne
    rw [down, List.append_nil] at h
    exact ⟨q, h, by simp⟩
  · obtain ⟨d, links, fuel, hd, hq⟩ := ownPlaceOf_down hne h
    obtain ⟨p, hp, rfl | ⟨t, ht⟩⟩ := ownPlaceOf_of_placeOf hd
    · exact ⟨p, hp, walk_straight hn (fun r _ hpre => hl p hp r hpre) hq⟩
    · exact absurd (by simpa using ht) (hl p hp [] List.nil_prefix t)

variable (h : Leads fs b dir) (hr : ∀ n ∈ rest, n ≠ "..") (hl : Linkless fs dir rest)

include h hr hl

lemma Leads.placeOf_down (hs : Sound fs)
    (hd : rest ≠ [] → fs.get? (dir ++ rest.dropLast) = some .directory) :
    fs.placeOf (down b rest) = .ok (dir ++ rest) := by
  obtain ⟨links, fuel, hpos, hon, -⟩ := walk_on h.place h.directory
  have := hon rest.length true rest (.inl rfl)
  rw [placeOf, down, stepLimit_append]
  exact this.trans (walk_down hs hr hl hd true links (by omega))

lemma Leads.ownPlaceOf_down (hs : Sound fs) (hne : rest ≠ [])
    (hd : fs.get? (dir ++ rest.dropLast) = some .directory) :
    fs.ownPlaceOf (down b rest) = .ok (dir ++ rest) := by
  obtain ⟨links, fuel, hpos, hon, -⟩ := walk_on h.place h.directory
  have := hon rest.length false rest (.inr hne)
  rw [ownPlaceOf, down, stepLimit_append]
  exact this.trans (walk_down hs hr hl (fun _ => hd) false links (by omega))

lemma Leads.entryAt?_down (hs : Sound fs) : fs.entryAt? (down b rest) = fs.get? (dir ++ rest) := by
  unfold entryAt?
  by_cases hd : rest ≠ [] → fs.get? (dir ++ rest.dropLast) = some .directory
  · rw [h.placeOf_down hr hl hs hd]
  · rw [Classical.not_imp] at hd
    obtain ⟨hne, hd⟩ := hd
    have hnone : fs.get? (dir ++ rest) = none := by
      conv_lhs => rw [← List.dropLast_append_getLast hne, ← List.append_assoc]
      exact hs.get?_below_none (by simp) hd
    rw [hnone]
    cases hp : fs.placeOf (down b rest) with
    | error e => rfl
    | ok q =>
      obtain ⟨links, fuel, hpos, hon, -⟩ := walk_on h.place h.directory
      have := hon rest.length true rest (.inl rfl)
      rw [placeOf, down, stepLimit_append] at hp
      exact walk_none hr hl hnone (this.symm.trans hp)

end Down

end CallSnapshot.Files
