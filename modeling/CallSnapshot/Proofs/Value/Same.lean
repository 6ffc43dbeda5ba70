import CallSnapshot.Proofs.Value.Equivalence
import CallSnapshot.Proofs.Value.Basic

/-!
Two values that are the same at every node: what is read back of a value is the same as the value,
but the items of its sets may stand in another order.
-/

namespace CallSnapshot.Value

inductive Same : Value → Value → Prop
  | refl (v : Value) : Same v v
  | list {xs ys : List Value} (hl : xs.length = ys.length)
      (h : ∀ (i : ℕ) x y, xs[i]? = some x → ys[i]? = some y → Same x y) : Same (.list xs) (.list ys)
  | tuple {xs ys : List Value} (hl : xs.length = ys.length)
      (h : ∀ (i : ℕ) x y, xs[i]? = some x → ys[i]? = some y → Same x y) :
      Same (.tuple xs) (.tuple ys)
  | set {xs ys zs : List Value} (hl : xs.length = ys.length)
      (h : ∀ (i : ℕ) x y, xs[i]? = some x → ys[i]? = some y → Same x y) (hp : ys.Perm zs) :
      Same (.set xs) (.set zs)
  | frozenset {xs ys zs : List Value} (hl : xs.length = ys.length)
      (h : ∀ (i : ℕ) x y, xs[i]? = some x → ys[i]? = some y → Same x y) (hp : ys.Perm zs) :
      Same (.frozenset xs) (.frozenset zs)
  | dict {es fs : List (Value × Value)} (hl : es.length = fs.length)
      (hk : ∀ (i : ℕ) e f, es[i]? = some e → fs[i]? = some f → Same e.1 f.1)
      (hv : ∀ (i : ℕ) e f, es[i]? = some e → fs[i]? = some f → Same e.2 f.2) :
      Same (.dict es) (.dict fs)

lemma forall₂_of_getElem? {α β : Type} {r : α → β → Prop} {xs : List α} {ys : List β}
    (hl : xs.length = ys.length)
    (h : ∀ (i : ℕ) x y, xs[i]? = some x → ys[i]? = some y → r x y) : List.Forall₂ r xs ys := by
  induction xs generalizing ys with
  | nil =>
    obtain rfl := List.length_eq_zero_iff.mp hl.symm
    exact .nil
  | cons x xs ih =>
    cases ys with
    | nil => simp at hl
    | cons y ys => exact .cons (h 0 x y rfl rfl) (ih (by simpa using hl) fun i => h (i + 1))

lemma getElem?_of_forall₂ {α β : Type} {r : α → β → Prop} {xs : List α} {ys : List β}
    (h : List.Forall₂ r xs ys) (i : ℕ) (x : α) (y : β) (hx : xs[i]? = some x) (hy : ys[i]? = some y) :
    r x y := by
  induction h generalizing i with
  | nil => simp at hx
  | cons h _ ih =>
    cases i with
    | zero =>
      simp only [List.getElem?_cons_zero, Option.some.injEq] at hx hy
      subst hx hy
      exact h
    | succ i => exact ih i hx hy

lemma Same.of_list {xs ys : List Value} (h : List.Forall₂ Same xs ys) : Same (.list xs) (.list ys) :=
  .list h.length_eq (getElem?_of_forall₂ h)

lemma Same.of_tuple {xs ys : List Value} (h : List.Forall₂ Same xs ys) :
    Same (.tuple xs) (.tuple ys) :=
  .tuple h.length_eq (getElem?_of_forall₂ h)

lemma Same.of_set {xs ys zs : List Value} (h : List.Forall₂ Same xs ys) (hp : ys.Perm zs) :
    Same (.set xs) (.set zs) :=
  .set h.length_eq (getElem?_of_forall₂ h) hp

lemma Same.of_frozenset {xs ys zs : List Value} (h : List.Forall₂ Same xs ys) (hp : ys.Perm zs) :
    Same (.frozenset xs) (.frozenset zs) :=
  .frozenset h.length_eq (getElem?_of_forall₂ h) hp

lemma Same.of_dict {es fs : List (Value × Value)}
    (h : List.Forall₂ (fun e f => Same e.1 f.1 ∧ Same e.2 f.2) es fs) :
    Same (.dict es) (.dict fs) :=
  .dict h.length_eq (fun i e f he hf => (getElem?_of_forall₂ h i e f he hf).1)
    fun i e f he hf => (getElem?_of_forall₂ h i e f he hf).2

lemma distinct_cons {x : Value} {xs : List Value} :
    Distinct (x :: xs) ↔ (∀ y ∈ xs, x.eq y = false) ∧ Distinct xs := List.pairwise_cons

lemma forall₂_getElem {α β : Type} {r : α → β → Prop} {xs : List α} {ys : List β} (h : List.Forall₂ r xs ys)
    {i : ℕ} (hi : i < xs.length) (hi' : i < ys.length) : r xs[i] ys[i] :=
  getElem?_of_forall₂ h i _ _ (List.getElem?_eq_getElem hi) (List.getElem?_eq_getElem hi')

lemma forall_right {α β : Type} {r : α → β → Prop} {P : β → Prop} {xs : List α} {ys : List β}
    (h : List.Forall₂ r xs ys) (hr : ∀ x ∈ xs, ∀ y, r x y → P y) : ∀ y ∈ ys, P y := by
  induction h with
  | nil => exact nofun
  | cons hxy _ ih =>
    simp only [List.forall_mem_cons] at hr ⊢
    exact ⟨hr.1 _ hxy, ih hr.2⟩

lemma Same.atom {v w : Value} (hv : Atom v) (h : Same v w) : v = w := by
  cases h with
  | refl => rfl
  | _ => cases hv

lemma Same.duration {d : Duration} {w : Value} (h : Same (.duration d) w) : w = .duration d := by
  cases h
  rfl

lemma Same.exists_tuple {xs : List Value} {w : Value} (h : Same (.tuple xs) w) :
    ∃ ys, w = .tuple ys ∧ List.Forall₂ Same xs ys := by
  cases h with
  | refl => exact ⟨xs, rfl, List.forall₂_same.mpr fun x _ => .refl x⟩
  | tuple hl h => exact ⟨_, rfl, forall₂_of_getElem? hl h⟩

lemma Same.exists_frozenset {xs : List Value} {w : Value} (h : Same (.frozenset xs) w) :
    ∃ ys zs, w = .frozenset zs ∧ List.Forall₂ Same xs ys ∧ ys.Perm zs := by
  cases h with
  | refl => exact ⟨xs, xs, rfl, List.forall₂_same.mpr fun x _ => .refl x, .refl _⟩
  | frozenset hl h hp => exact ⟨_, _, rfl, forall₂_of_getElem? hl h, hp⟩

lemma Hashed.eq_congr {a : Value} (ha : Hashed a) : ∀ {a' b b'}, Hashed b → Same a a' → Same b b' →
    a.eq b = true → a'.eq b' = true := by
  induction ha with
  | @atom a ha =>
    intro a' b b' hb hs ht h
    obtain rfl := hs.atom ha
    obtain rfl := ht.atom (ha.of_eq hb h)
    exact h
  | duration d =>
    intro a' b b' _ hs ht h
    rw [duration_eq_iff.mp h] at ht
    rw [hs.duration, ht.duration]
    exact duration_eq_iff.mpr rfl
  | @tuple xs hx ih =>
    intro a' b b' hb hs ht h
    obtain ⟨ys, rfl⟩ := (Hashed.tuple hx).exists_tuple hb h
    obtain ⟨xs', rfl, hxs⟩ := hs.exists_tuple
    obtain ⟨ys', rfl, hys⟩ := ht.exists_tuple
    rw [hashed_tuple] at hb
    rw [eq_tuple, List.forall₂_iff_get] at h ⊢
    obtain ⟨hl, h⟩ := h
    have hlx := hxs.length_eq
    have hly := hys.length_eq
    refine ⟨by omega, fun i hi hi' => ?_⟩
    exact ih _ (List.get_mem xs ⟨i, by omega⟩) (hb _ (List.get_mem ys ⟨i, by omega⟩))
      (forall₂_getElem hxs (by omega) hi) (forall₂_getElem hys (by omega) hi') (h i (by omega) (by omega))
  | @frozenset xs hx hd ih =>
    intro a' b b' hb hs ht h
    obtain ⟨ys, rfl⟩ := (Hashed.frozenset hx hd).exists_frozenset hb h
    obtain ⟨xs', us, rfl, hxs, hus⟩ := hs.exists_frozenset
    obtain ⟨ys', vs, rfl, hys, hvs⟩ := ht.exists_frozenset
    rw [hashed_frozenset] at hb
    rw [eq_frozenset] at h ⊢
    have hlx := hxs.length_eq
    have hly := hys.length_eq
    refine ⟨?_, fun u hu => ?_⟩
    · have := hus.length_eq
      have := hvs.length_eq
      omega
    · obtain ⟨i, hi, rfl⟩ := List.getElem_of_mem (hus.mem_iff.mpr hu)
      obtain ⟨y, hy, hxy⟩ := h.2 xs[i] (List.getElem_mem _)
      obtain ⟨j, hj, rfl⟩ := List.getElem_of_mem hy
      refine ⟨ys'[j], hvs.mem_iff.mp (List.getElem_mem _), ?_⟩
      exact ih _ (List.getElem_mem _) (hb.1 _ hy) (forall₂_getElem hxs _ _) (forall₂_getElem hys hj _) hxy

lemma Distinct.perm {xs ys : List Value} (hx : ∀ x ∈ xs, Hashed x) (hp : xs.Perm ys)
    (hd : Distinct xs) : Distinct ys := by
  induction hp with
  | nil => exact hd
  | cons x hp ih =>
    simp only [List.forall_mem_cons] at hx
    obtain ⟨hne, hd⟩ := distinct_cons.mp hd
    exact distinct_cons.mpr ⟨fun y hy => hne y (hp.mem_iff.mpr hy), ih hx.2 hd⟩
  | swap x y xs =>
    simp only [List.forall_mem_cons] at hx
    obtain ⟨hy, hd⟩ := distinct_cons.mp hd
    obtain ⟨hx', hd⟩ := distinct_cons.mp hd
    simp only [List.forall_mem_cons] at hy
    refine distinct_cons.mpr ⟨?_, distinct_cons.mpr ⟨hy.2, hd⟩⟩
    simp only [List.forall_mem_cons]
    exact ⟨hx.2.1.eq_comm hx.1 ▸ hy.1, hx'⟩
  | trans hp _ ih ih' => exact ih' (fun x h => hx x (hp.mem_iff.mpr h)) (ih hx hd)

lemma same_flip {xs ys : List Value} (h : List.Forall₂ Same xs ys)
    (ih : ∀ x ∈ xs, ∀ {y}, Same x y → Same y x) : List.Forall₂ Same ys xs := by
  induction h with
  | nil => exact .nil
  | cons hxy _ rest =>
    rw [List.forall_mem_cons] at ih
    exact .cons (ih.1 hxy) (rest ih.2)

lemma Same.symm {v w : Value} (hv : Hashed v) (h : Same v w) : Same w v := by
  induction hv generalizing w with
  | atom hv => rw [h.atom hv]; exact .refl _
  | duration d => rw [h.duration]; exact .refl _
  | tuple _ ih =>
    obtain ⟨ys, rfl, hys⟩ := h.exists_tuple
    exact .of_tuple (same_flip hys ih)
  | frozenset _ _ ih =>
    obtain ⟨ys, zs, rfl, hys, hp⟩ := h.exists_frozenset
    obtain ⟨us, hus, hperm⟩ := List.perm_comp_forall₂ hp.symm (same_flip hys ih)
    exact .of_frozenset hus hperm

lemma Distinct.of_hashed {xs ws : List Value} (hx : ∀ x ∈ xs, Hashed x) (hw : ∀ w ∈ ws, Hashed w)
    (hd : Distinct xs) (h : List.Forall₂ Same xs ws) : Distinct ws := by
  rw [Distinct, List.pairwise_iff_getElem] at hd ⊢
  intro i j hi hj hij
  have hl := h.length_eq
  rw [Bool.eq_false_iff]
  intro heq
  have hback : ∀ k (hk : k < ws.length), Same ws[k] (xs.get ⟨k, by omega⟩) := fun k hk =>
    (forall₂_getElem h _ hk).symm (hx _ (List.getElem_mem _))
  have := (hw _ (List.getElem_mem _)).eq_congr (hw _ (List.getElem_mem _)) (hback i hi) (hback j hj) heq
  exact Bool.eq_false_iff.mp (hd i j (by omega) (by omega) hij) this

lemma Same.hashed {v w : Value} (hv : Hashed v) (h : Same v w) : Hashed w := by
  induction hv generalizing w with
  | atom hv => exact h.atom hv ▸ .atom hv
  | duration d => exact h.duration ▸ .duration d
  | tuple _ ih =>
    obtain ⟨ys, rfl, hys⟩ := h.exists_tuple
    exact .tuple (forall_right hys fun x hx y => ih x hx)
  | frozenset hx hd ih =>
    obtain ⟨ys, zs, rfl, hys, hp⟩ := h.exists_frozenset
    have hall := forall_right hys fun x hx y => ih x hx
    have hdist := (hd.of_hashed hx hall hys).perm hall hp
    exact .frozenset (fun z hz => hall z (hp.mem_iff.mpr hz)) hdist

lemma hashed_of_same {xs ws : List Value} (hx : ∀ x ∈ xs, Hashed x) (h : List.Forall₂ Same xs ws) :
    ∀ w ∈ ws, Hashed w := forall_right h fun x hm _ hw => hw.hashed (hx x hm)

lemma Distinct.of_same {xs ws : List Value} (hx : ∀ x ∈ xs, Hashed x) (hd : Distinct xs)
    (h : List.Forall₂ Same xs ws) : Distinct ws := hd.of_hashed hx (hashed_of_same hx h) h

end CallSnapshot.Value
