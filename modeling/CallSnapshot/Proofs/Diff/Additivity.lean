import CallSnapshot.Proofs.Diff.Carrying

/-!
The changes between two values, carried out on the first, give the second: but for leaves that
count as equal and for the spelling of keys that both have.
-/

namespace CallSnapshot.Diff

/-- A value that shares no parts and whose leaves are of one kind; what may stand for a key is an
element, and no sequence is longer than indices reach. -/
inductive Tree (Leaf : Value → Prop) : Value → Prop
  | leaf {v : Value} (hc : container? v = none) (h : Leaf v) : Tree Leaf v
  | list {xs : List Value} (hn : (xs.length : ℤ) < sizeLimit) (h : ∀ x ∈ xs, Tree Leaf x) :
      Tree Leaf (.list xs)
  | tuple {xs : List Value} (hn : (xs.length : ℤ) < sizeLimit) (h : ∀ x ∈ xs, Tree Leaf x) :
      Tree Leaf (.tuple xs)
  | dict {es : List (Value × Value)} (hk : ∀ e ∈ es, e.1.Element)
      (hd : Value.Distinct (es.map Prod.fst)) (hv : ∀ e ∈ es, Tree Leaf e.2) : Tree Leaf (.dict es)

lemma Tree.mono {Leaf Leaf' : Value → Prop} {v : Value} (h : Tree Leaf v) (hl : ∀ v, Leaf v → Leaf' v) :
    Tree Leaf' v := by
  induction h with
  | leaf hc h => exact .leaf hc (hl _ h)
  | list hn _ ih => exact .list hn ih
  | tuple hn _ ih => exact .tuple hn ih
  | dict hk hd _ ih => exact .dict hk hd ih

lemma Tree.leaf_of_none {Leaf : Value → Prop} {v : Value} (h : Tree Leaf v) (hc : container? v = none) : Leaf v := by
  cases h with
  | leaf _ h => exact h
  | _ => cases hc

def Copyable (v : Value) : Prop := copyable v = .ok ()

/-- What two values make together: a leaf of the first that counts as equal to the one of the
second stays, and so do the keys of the first that the second has; all else is of the second. -/
inductive Blend (t : Tolerance) : Value → Value → Value → Prop
  | kept {a b : Value} (ha : container? a = none) (hb : container? b = none)
      (h : valuesEqual t a b = .ok true) : Blend t a b a
  | taken {a b : Value} (hc : container? a = none ∨ container? a ≠ container? b)
      (h : valuesEqual t a b = .ok false) : Blend t a b b
  | list {xs ys rs : List Value} (hl : rs.length = ys.length)
      (hc : ∀ (i : ℕ) x y r, xs[i]? = some x → ys[i]? = some y → rs[i]? = some r → Blend t x y r)
      (hn : ∀ i : ℕ, xs.length ≤ i → rs[i]? = ys[i]?) : Blend t (.list xs) (.list ys) (.list rs)
  | tuple {xs ys rs : List Value} (hl : rs.length = ys.length)
      (hc : ∀ (i : ℕ) x y r, xs[i]? = some x → ys[i]? = some y → rs[i]? = some r → Blend t x y r)
      (hn : ∀ i : ℕ, xs.length ≤ i → rs[i]? = ys[i]?) : Blend t (.tuple xs) (.tuple ys) (.tuple rs)
  | dict {es fs rs : List (Value × Value)}
      (hk : rs.map Prod.fst = (es.filter fun e => (lookup? e.1 fs).isSome).map Prod.fst ++
        (fs.filter fun f => (lookup? f.1 es).isNone).map Prod.fst)
      (hc : ∀ e ∈ es, ∀ r ∈ rs, r.1 = e.1 → ∀ w, lookup? e.1 fs = some w → Blend t e.2 w r.2)
      (hn : ∀ f ∈ fs, ∀ r ∈ rs, r.1 = f.1 → lookup? f.1 es = none → r.2 = f.2) :
      Blend t (.dict es) (.dict fs) (.dict rs)

lemma Sequence.blend {seq : List Value → Value} (h : Sequence seq) {t : Tolerance}
    {xs ys rs : List Value} (hl : rs.length = ys.length)
    (hc : ∀ (i : ℕ) x y r, xs[i]? = some x → ys[i]? = some y → rs[i]? = some r → Blend t x y r)
    (hn : ∀ i : ℕ, xs.length ≤ i → rs[i]? = ys[i]?) : Blend t (seq xs) (seq ys) (seq rs) := by
  cases h with
  | list => exact .list hl hc hn
  | tuple => exact .tuple hl hc hn

lemma copyableIn_eq_ok {xs : List Value} (h : ∀ x ∈ xs, Copyable x) : copyableIn xs = .ok () := by
  induction xs with
  | nil => rfl
  | cons x xs ih =>
    simp only [List.forall_mem_cons] at h
    rw [copyableIn, h.1]
    exact ih h.2

lemma copyableEntries_eq_ok {es : List (Value × Value)} (hk : ∀ e ∈ es, Copyable e.1)
    (hv : ∀ e ∈ es, Copyable e.2) : copyableEntries es = .ok () := by
  induction es with
  | nil => rfl
  | cons e es ih =>
    simp only [List.forall_mem_cons] at hk hv
    rw [copyableEntries, hk.1, show copyable e.2 = .ok () from hv.1]
    exact ih hk.2 hv.2

lemma element_copyable {v : Value} (h : v.Element) : Copyable v := by
  induction h with
  | atom h _ => cases h <;> rfl
  | tuple _ ih => exact copyableIn_eq_ok ih
  | frozenset _ _ ih => exact copyableIn_eq_ok ih

lemma Tree.copyable {v : Value} (h : Tree Copyable v) : Copyable v := by
  induction h with
  | leaf _ h => exact h
  | list _ _ ih => exact copyableIn_eq_ok ih
  | tuple _ _ ih => exact copyableIn_eq_ok ih
  | dict hk _ _ ih => exact copyableEntries_eq_ok (fun e he => element_copyable (hk e he)) ih

def additions (cs : List Change) : List Change := cs.filter fun c => !isRemoval c

def removals (cs : List Change) : List Change := (cs.filter isRemoval).reverse

lemma mem_of_additions {c : Change} {cs : List Change} (h : c ∈ additions cs) : c ∈ cs :=
  List.mem_of_mem_filter h

lemma mem_of_removals {c : Change} {cs : List Change} (h : c ∈ removals cs) : c ∈ cs :=
  List.mem_of_mem_filter (List.mem_reverse.mp h)

lemma additions_append (cs ds : List Change) : additions (cs ++ ds) = additions cs ++ additions ds :=
  List.filter_append ..

lemma removals_append (cs ds : List Change) : removals (cs ++ ds) = removals ds ++ removals cs := by
  simp [removals]

lemma additions_below (p : List Value) (cs : List Change) :
    additions (cs.map (Change.below p)) = (additions cs).map (Change.below p) := by
  simp only [additions, List.filter_map]
  rfl

lemma removals_below (p : List Value) (cs : List Change) :
    removals (cs.map (Change.below p)) = (removals cs).map (Change.below p) := by
  simp only [removals, List.filter_map, List.map_reverse]
  rfl

lemma additions_flatMap {α : Type} (xs : List α) (f : α → List Change) :
    additions (xs.flatMap f) = xs.flatMap fun x => additions (f x) := List.filter_flatMap ..

lemma removals_flatMap {α : Type} (xs : List α) (f : α → List Change) :
    removals (xs.flatMap f) = xs.reverse.flatMap fun x => removals (f x) := by
  induction xs with
  | nil => rfl
  | cons x xs ih =>
    rw [List.flatMap_cons, removals_append, ih, List.reverse_cons, List.flatMap_append, List.flatMap_singleton]

/-- Changes lead from a value to another: all but the removals first, then these. -/
def Leads (cs : List Change) (a r : Value) : Prop :=
  ∃ m, applyAll (additions cs) a = .ok m ∧ applyAll (removals cs) m = .ok r

/-- What is to be shown of two values: their changes lead to a blend of them. -/
def Additive (t : Tolerance) (a b : Value) : Prop :=
  ∀ cs, changesAt t [] a b = .ok cs → (∀ c ∈ cs, Proper c) ∧ ∃ r, Leads cs a r ∧ Blend t a b r

lemma changesAt_leaf {t : Tolerance} {a b : Value} (p : List Value)
    (h : container? a = none ∨ container? a ≠ container? b) : changesAt t p a b = leaf t p a b := by
  have differ : ∀ {c}, container? a = some c → container? b ≠ some c := by
    intro c ha hb
    rcases h with h | h
    · exact absurd (h.symm.trans ha) nofun
    · exact h (ha.trans hb.symm)
  cases a with
  | dict => rw [changesAt, if_neg (by simpa using differ rfl)]
  | list => rw [changesAt, if_neg (by simpa using differ rfl)]
  | tuple => rw [changesAt, if_neg (by simpa using differ rfl)]
  | extended kind v =>
    rw [changesAt, if_neg]
    rw [Bool.and_eq_true, beq_iff_eq]
    rintro ⟨hsome, hkinds⟩
    obtain ⟨c, hc⟩ := Option.isSome_iff_exists.mp hsome
    exact differ hc (hkinds ▸ hc)
  | _ => simp [changesAt]

lemma containers_none {t : Tolerance} {a b : Value} (ha : Tree Copyable a) (hb : Tree Copyable b)
    (hc : container? a = none ∨ container? a ≠ container? b) (h : valuesEqual t a b = .ok true) :
    container? a = none ∧ container? b = none := by
  cases ha with
  | leaf ha _ =>
    refine ⟨ha, ?_⟩
    cases hb with
    | leaf hb _ => exact hb
    | _ => simp [valuesEqual, isBool, number?, container?, ha] at h
  | _ =>
    simp only [valuesEqual, isBool, number?, Bool.false_or] at h
    simp only [container?] at hc h
    split at h <;> simp_all

lemma leaf_additive {t : Tolerance} {a b : Value} (ha : Tree Copyable a) (hb : Tree Copyable b)
    (hc : container? a = none ∨ container? a ≠ container? b) : Additive t a b := by
  intro cs h
  rw [changesAt_leaf [] hc, leaf] at h
  cases hv : valuesEqual t a b with
  | error f => simp [hv, bind, Except.bind] at h
  | ok same =>
    rw [hv] at h
    cases same with
    | true =>
      obtain rfl : [] = cs := by simpa [bind, Except.bind] using h
      obtain ⟨h₁, h₂⟩ := containers_none ha hb hc hv
      exact ⟨by simp, a, ⟨a, rfl, rfl⟩, .kept h₁ h₂ hv⟩
    | false =>
      obtain rfl : [⟨[], .change, b, a⟩] = cs := by simpa [bind, Except.bind] using h
      refine ⟨by simp [Proper], b, ⟨b, ?_, rfl⟩, .taken hc hv⟩
      simp only [additions, isRemoval, List.filter_cons, List.filter_nil]
      simp [applyAll, applyAt, show copyable b = .ok () from hb.copyable, bind, Except.bind]

section Items

variable {seq : List Value → Value}

lemma additions_createFrom (p : List Value) (i : ℕ) (ys : List Value) :
    additions (createFrom p i ys) = createFrom p i ys ∧ removals (createFrom p i ys) = [] := by
  induction ys generalizing i with
  | nil => exact ⟨rfl, rfl⟩
  | cons y ys ih =>
    obtain ⟨h₁, h₂⟩ := ih (i + 1)
    simp_all [additions, removals, createFrom, isRemoval]

lemma removals_removeFrom (p : List Value) (i : ℕ) (xs : List Value) :
    additions (removeFrom p i xs) = [] ∧
      removals (removeFrom p i xs) = (removeFrom p i xs).reverse := by
  induction xs generalizing i with
  | nil => exact ⟨rfl, rfl⟩
  | cons x xs ih =>
    obtain ⟨h₁, h₂⟩ := ih (i + 1)
    simp_all [additions, removals, removeFrom, isRemoval]

lemma createFrom_path {p : List Value} {i : ℕ} {ys : List Value} :
    ∀ c ∈ createFrom p i ys, c.path ≠ [] := by
  induction ys generalizing i with
  | nil => simp [createFrom]
  | cons y ys ih => simpa [createFrom] using ih

lemma removeFrom_path {p : List Value} {i : ℕ} {xs : List Value} :
    ∀ c ∈ removeFrom p i xs, c.path ≠ [] := by
  induction xs generalizing i with
  | nil => simp [removeFrom]
  | cons x xs ih => simpa [removeFrom] using ih

lemma applyAll_createFrom (hs : Sequence seq) {pre ys : List Value} (hy : ∀ y ∈ ys, Copyable y)
    (hn : ((pre.length + ys.length : ℕ) : ℤ) < sizeLimit) :
    applyAll (createFrom [] pre.length ys) (seq pre) = .ok (seq (pre ++ ys)) := by
  induction ys generalizing pre with
  | nil => simp [createFrom, applyAll]
  | cons y ys ih =>
    simp only [List.forall_mem_cons] at hy
    have hfirst : applyAt ⟨[.int pre.length], .create, y, .null⟩ [.int pre.length] (seq pre) =
        .ok (seq (pre ++ [y])) := by
      simp only [applyAt]
      rw [show copyable y = .ok () from hy.1]
      exact hs.create pre (by simp at hn; omega) y
    have hrest := @ih (pre ++ [y]) hy.2 (by simp at hn ⊢; omega)
    simp only [createFrom, applyAll, List.nil_append, hfirst]
    simpa [List.length_append, bind, Except.bind] using hrest

lemma applyAll_removeFrom (hs : Sequence seq) {pre xs : List Value}
    (hn : ((pre.length + xs.length : ℕ) : ℤ) < sizeLimit) :
    applyAll (removeFrom [] pre.length xs).reverse (seq (pre ++ xs)) = .ok (seq pre) := by
  induction xs generalizing pre with
  | nil => simp [removeFrom, applyAll]
  | cons x xs ih =>
    have hrest := @ih (pre ++ [x]) (by simp at hn ⊢; omega)
    rw [List.length_append, List.length_singleton, List.append_assoc, List.singleton_append] at hrest
    rw [removeFrom, List.reverse_cons, applyAll_append, hrest]
    have hlast := hs.remove pre (by simp at hn; omega) x
    simp [Except.bind, applyAll, applyAt, hlast, bind]

/-- Changes that go through the items of a sequence from an index on, and what they make of these items. -/
inductive Sweep : ℕ → List Value → List Change → List Value → Prop
  | create {i : ℕ} {ys : List Value} (h : ∀ y ∈ ys, Copyable y) : Sweep i [] (createFrom [] i ys) ys
  | remove (i : ℕ) (xs : List Value) : Sweep i xs (removeFrom [] i xs) []
  | item {i : ℕ} {x r : Value} {xs rs : List Value} {here rest : List Change} (hp : ∀ c ∈ here, Proper c)
      (h : Leads here x r) (hrest : Sweep (i + 1) xs rest rs) :
      Sweep i (x :: xs) (here.map (Change.below [.int i]) ++ rest) (r :: rs)

variable {t : Tolerance} {xs ys rs : List Value} {i : ℕ} {cs : List Change}

lemma Sweep.leads (hs : Sequence seq) (h : Sweep i xs cs rs) (hxn : ((i + xs.length : ℕ) : ℤ) < sizeLimit)
    (hrn : ((i + rs.length : ℕ) : ℤ) < sizeLimit) : ∃ ms : List Value, ∀ pre : List Value, pre.length = i →
      applyAll (additions cs) (seq (pre ++ xs)) = .ok (seq (pre ++ ms)) ∧
      applyAll (removals cs) (seq (pre ++ ms)) = .ok (seq (pre ++ rs)) := by
  induction h with
  | @create i ys hy =>
    obtain ⟨hadd, hrem⟩ := additions_createFrom [] i ys
    refine ⟨ys, ?_⟩
    rintro pre rfl
    rw [hadd, hrem, List.append_nil]
    exact ⟨applyAll_createFrom hs hy hrn, rfl⟩
  | remove i xs =>
    obtain ⟨hadd, hrem⟩ := removals_removeFrom [] i xs
    refine ⟨xs, ?_⟩
    rintro pre rfl
    rw [hadd, hrem, List.append_nil]
    exact ⟨rfl, applyAll_removeFrom hs hxn⟩
  | @item i x r xs rs here rest hp h _ ih =>
    obtain ⟨m, hadd, hrem⟩ := h
    simp only [List.length_cons] at hxn hrn
    obtain ⟨ms, hleads⟩ := ih (by omega) (by omega)
    refine ⟨m :: ms, ?_⟩
    rintro pre rfl
    have properAdd : ∀ c ∈ additions here, Proper c := fun c hc => hp c (mem_of_additions hc)
    have properRem : ∀ c ∈ removals here, Proper c := fun c hc => hp c (mem_of_removals hc)
    obtain ⟨hrestAdd, hrestRem⟩ := hleads (pre ++ [m]) (by simp)
    simp only [List.append_assoc, List.singleton_append] at hrestAdd hrestRem
    constructor
    · have hplace := hs.place pre xs (by omega)
      rw [additions_append, additions_below, applyAll_append, applyAll_below hplace properAdd, hadd]
      exact hrestAdd
    · have hplace := hs.place pre rs (by omega)
      rw [removals_append, removals_below, applyAll_append, hrestRem]
      simp only [Except.bind]
      rw [applyAll_below hplace properRem, hrem]
      rfl

lemma Sweep.path_ne_nil (h : Sweep i xs cs rs) : ∀ c ∈ cs, c.path ≠ [] := by
  induction h with
  | create => exact createFrom_path
  | remove => exact removeFrom_path
  | item _ _ _ ih =>
    refine List.forall_mem_append.mpr ⟨fun c hc => ?_, ih⟩
    obtain ⟨d, -, rfl⟩ := List.mem_map.mp hc
    exact List.cons_ne_nil _ _

lemma changesItems_cons {x y : Value} (h : changesItems t [] i (x :: xs) (y :: ys) = .ok cs) :
    ∃ inner rest, changesAt t [] x y = .ok inner ∧ changesItems t [] (i + 1) xs ys = .ok rest ∧
      cs = inner.map (Change.below [.int i]) ++ rest := by
  simp only [changesItems, List.nil_append] at h
  rw [← List.append_nil [Value.int i], changesAt_below t [.int i] []] at h
  obtain ⟨here, hhere, h⟩ := bind_eq_ok.mp h
  obtain ⟨rest, hrest, h⟩ := bind_eq_ok.mp h
  obtain rfl := Except.ok.inj h
  cases hinner : changesAt t [] x y with
  | error f => simp [hinner, Except.map] at hhere
  | ok inner =>
    rw [hinner] at hhere
    obtain rfl := Except.ok.inj hhere
    exact ⟨inner, rest, rfl, hrest, rfl⟩

/-- The changes between two sequences are a sweep that makes a blend with the items of the other. -/
lemma changesItems_sweep (ih : ∀ x ∈ xs, ∀ y ∈ ys, Additive t x y) (hy : ∀ y ∈ ys, Copyable y)
    (h : changesItems t [] i xs ys = .ok cs) : ∃ rs, Sweep i xs cs rs ∧ rs.length = ys.length ∧
      (∀ (j : ℕ) x y r, xs[j]? = some x → ys[j]? = some y → rs[j]? = some r → Blend t x y r) ∧
      ∀ j : ℕ, xs.length ≤ j → rs[j]? = ys[j]? := by
  induction xs generalizing ys i cs with
  | nil =>
    obtain rfl : createFrom [] i ys = cs := by simpa [changesItems] using h
    exact ⟨ys, .create hy, rfl, by simp, fun _ _ => rfl⟩
  | cons x xs ihxs =>
    cases ys with
    | nil =>
      obtain rfl : removeFrom [] i (x :: xs) = cs := by simpa [changesItems] using h
      exact ⟨[], .remove i (x :: xs), rfl, by simp, by simp⟩
    | cons y ys =>
      simp only [List.forall_mem_cons] at ih hy
      obtain ⟨inner, rest, hinner, hrest, rfl⟩ := changesItems_cons h
      obtain ⟨hproper, r, hleads, hblend⟩ := ih.1.1 inner hinner
      obtain ⟨rs, hsweep, hlen, hcommon, hnew⟩ :=
        ihxs (fun x' hx' y' hy' => (ih.2 x' hx').2 y' hy') hy.2 hrest
      refine ⟨r :: rs, .item hproper hleads hsweep, by simp [hlen], ?_, ?_⟩
      · intro j x' y' r' hx' hy' hr'
        cases j with
        | zero =>
          simp only [List.getElem?_cons_zero, Option.some.injEq] at hx' hy' hr'
          subst hx' hy' hr'
          exact hblend
        | succ j => exact hcommon j x' y' r' hx' hy' hr'
      · intro j hj
        cases j with
        | zero => simp at hj
        | succ j => simpa using hnew j (by simpa using hj)

end Items

section Entries

variable {t : Tolerance}

lemma lookup?_mem {k w : Value} {fs : List (Value × Value)} (h : lookup? k fs = some w) :
    ∃ f ∈ fs, f.1.eq k = true ∧ f.2 = w := by
  simp only [lookup?, Option.map_eq_some_iff] at h
  obtain ⟨f, hf, rfl⟩ := h
  exact ⟨f, List.mem_of_find?_eq_some hf, by simpa using List.find?_some hf, rfl⟩

lemma entry_eq {es : List (Value × Value)} (hk : ∀ e ∈ es, e.1.Element)
    (hd : Value.Distinct (es.map Prod.fst)) {e f : Value × Value} (he : e ∈ es) (hf : f ∈ es)
    (h : e.1 = f.1) : e = f := by
  induction es with
  | nil => simp at he
  | cons g es ih =>
    simp only [List.forall_mem_cons] at hk
    obtain ⟨hg, hd⟩ := List.pairwise_cons.mp hd
    have apart : ∀ e ∈ es, g.1 ≠ e.1 := by
      intro e he heq
      have := hg _ (List.mem_map_of_mem he)
      rw [← heq, hk.1.eq_refl] at this
      cases this
    rcases List.mem_cons.mp he with heg | he
    · rcases List.mem_cons.mp hf with hfg | hf
      · rw [heg, hfg]
      · exact absurd (heg ▸ h) (apart f hf)
    · rcases List.mem_cons.mp hf with hfg | hf
      · exact absurd (hfg ▸ h.symm) (apart e he)
      · exact ih hk.2 hd he hf

lemma additions_createEntries (p : List Value) (es fs : List (Value × Value)) :
    additions (createEntries p es fs) = createEntries p es fs ∧
      removals (createEntries p es fs) = [] := by
  have hkind : ∀ c ∈ createEntries p es fs, isRemoval c = false := by
    intro c hc
    obtain ⟨f, -, rfl⟩ := List.mem_map.mp hc
    rfl
  constructor
  · exact List.filter_eq_self.mpr fun c hc => by simp [hkind c hc]
  · rw [removals, List.filter_eq_nil_iff.mpr fun c hc => by simp [hkind c hc]]
    rfl

lemma applyAll_create {pre gs : List (Value × Value)} (hk : ∀ g ∈ gs, g.1.Element)
    (hv : ∀ g ∈ gs, Copyable g.2) (hd : Value.Distinct (gs.map Prod.fst))
    (hpre : ∀ p ∈ pre, ∀ g ∈ gs, p.1.eq g.1 = false) :
    applyAll (gs.map fun g => ⟨[g.1], .create, g.2, .null⟩) (.dict pre) = .ok (.dict (pre ++ gs)) := by
  induction gs generalizing pre with
  | nil => simp [applyAll]
  | cons g gs ih =>
    simp only [List.forall_mem_cons] at hk hv hpre
    obtain ⟨hg, hd⟩ := List.pairwise_cons.mp hd
    have hfirst : applyAt ⟨[g.1], .create, g.2, .null⟩ [g.1] (.dict pre) =
        .ok (.dict (pre ++ [g])) := by
      simp only [applyAt]
      rw [show copyable g.2 = .ok () from hv.1]
      exact createItem_dict hk.1 (fun p hp => (hpre p hp).1) g.2
    have hrest := @ih (pre ++ [g]) hk.2 hv.2 hd (by
      intro p hp g' hg'
      rcases List.mem_append.mp hp with hp | hp
      · exact (hpre p hp).2 g' hg'
      · rw [List.mem_singleton.mp hp]
        exact hg _ (List.mem_map_of_mem hg'))
    simp only [List.map_cons, applyAll, hfirst]
    simpa [bind, Except.bind] using hrest

lemma changesEntries_cons {k v : Value} {es fs : List (Value × Value)} {cs : List Change}
    (h : changesEntries t [] ((k, v) :: es) fs = .ok cs) :
    ∃ here rest, changesEntries t [] es fs = .ok rest ∧ cs = here ++ rest ∧
      ((lookup? k fs = none ∧ here = [⟨[k], .remove, .null, v⟩]) ∨
        ∃ w inner, lookup? k fs = some w ∧ changesAt t [] v w = .ok inner ∧
          here = inner.map (Change.below [k])) := by
  simp only [changesEntries, List.nil_append] at h
  cases hw : lookup? k fs with
  | none =>
    simp only [hw, ok_bind] at h
    obtain ⟨rest, hrest, h⟩ := bind_eq_ok.mp h
    exact ⟨_, rest, hrest, (Except.ok.inj h).symm, .inl ⟨rfl, rfl⟩⟩
  | some w =>
    simp only [hw] at h
    rw [show [k] = [k] ++ [] from rfl, changesAt_below t [k] []] at h
    obtain ⟨here, hhere, h⟩ := bind_eq_ok.mp h
    obtain ⟨rest, hrest, h⟩ := bind_eq_ok.mp h
    refine ⟨here, rest, hrest, (Except.ok.inj h).symm, .inr ?_⟩
    cases hv : changesAt t [] v w with
    | error f => simp [hv, Except.map] at hhere
    | ok inner =>
      rw [hv] at hhere
      exact ⟨w, inner, rfl, hv, (Except.ok.inj hhere).symm⟩

/-- What the changes of the entries of one dictionary make of them, whatever stands before and behind: `ms`
when all but the removals are carried out, and `rs` in the end. -/
structure EntryRun (t : Tolerance) (fs es : List (Value × Value)) (cs : List Change)
    (ms rs : List (Value × Value)) : Prop where
  proper : ∀ c ∈ cs, c.path ≠ []
  keys : ms.map Prod.fst = es.map Prod.fst
  shared : rs.map Prod.fst = (es.filter fun e => (lookup? e.1 fs).isSome).map Prod.fst
  blend : ∀ e ∈ es, ∀ r ∈ rs, r.1 = e.1 → ∀ w, lookup? e.1 fs = some w → Blend t e.2 w r.2
  leads : ∀ pre post : List (Value × Value), (∀ p ∈ pre, ∀ e ∈ es, p.1.eq e.1 = false) →
    applyAll (additions cs) (.dict (pre ++ es ++ post)) = .ok (.dict (pre ++ ms ++ post)) ∧
    applyAll (removals cs) (.dict (pre ++ ms ++ post)) = .ok (.dict (pre ++ rs ++ post))

lemma EntryRun.nil (t : Tolerance) (fs : List (Value × Value)) : EntryRun t fs [] [] [] [] :=
  ⟨by simp, rfl, rfl, by simp, fun _ _ _ => ⟨rfl, rfl⟩⟩

lemma differ_append_entry {k v m : Value} {pre es : List (Value × Value)} (hk : ∀ e ∈ es, k.eq e.1 = false)
    (hpre : ∀ p ∈ pre, ∀ e ∈ (k, v) :: es, p.1.eq e.1 = false) :
    ∀ p ∈ pre ++ [(k, m)], ∀ e ∈ es, p.1.eq e.1 = false := by
  intro p hp e he
  rcases List.mem_append.mp hp with hp | hp
  · exact hpre p hp e (List.mem_cons_of_mem _ he)
  · rw [List.mem_singleton.mp hp]
    exact hk e he

namespace EntryRun

variable {k v w m r : Value} {fs es ms rs : List (Value × Value)} {cs inner : List Change}

lemma key_ne (h : EntryRun t fs es cs ms rs) (hne : ∀ e ∈ es, k ≠ e.1) : ∀ r ∈ rs, r.1 ≠ k := by
  intro r hr
  have hkey : r.1 ∈ rs.map Prod.fst := List.mem_map_of_mem hr
  rw [h.shared] at hkey
  obtain ⟨e, he, heq⟩ := List.mem_map.mp hkey
  rw [← heq]
  exact (hne e (List.mem_of_mem_filter he)).symm

lemma remove (h : EntryRun t fs es cs ms rs) (hk : k.Element) (hother : ∀ e ∈ es, k.eq e.1 = false)
    (hne : ∀ e ∈ es, k ≠ e.1) (hw : lookup? k fs = none) :
    EntryRun t fs ((k, v) :: es) ([⟨[k], .remove, .null, v⟩] ++ cs) ((k, v) :: ms) rs where
  proper := by simpa using h.proper
  keys := by simp [h.keys]
  shared := by simp [hw, h.shared]
  blend := by
    intro e he r hr hre
    rcases List.mem_cons.mp he with rfl | he
    · exact absurd hre (h.key_ne hne r hr)
    · exact h.blend e he r hr hre
  leads := by
    intro pre post hpre
    obtain ⟨hadd, hrem⟩ := h.leads (pre ++ [(k, v)]) post (differ_append_entry hother hpre)
    simp only [List.append_assoc, List.cons_append, List.nil_append] at hadd hrem
    rw [additions_append, removals_append, applyAll_append, applyAll_append]
    simp only [List.append_assoc, List.cons_append]
    rw [hrem]
    refine ⟨hadd, ?_⟩
    have hremove : removeItem (.dict (pre ++ (k, v) :: (rs ++ post))) k = .ok (.dict (pre ++ (rs ++ post))) :=
      removeItem_dict hk hk.eq_refl (fun p hp => hpre p hp (k, v) List.mem_cons_self) v
    simp [Except.bind, removals, isRemoval, applyAll, applyAt, hremove, bind]

lemma enter (h : EntryRun t fs es cs ms rs) (hk : k.Element) (hother : ∀ e ∈ es, k.eq e.1 = false)
    (hne : ∀ e ∈ es, k ≠ e.1) (hw : lookup? k fs = some w) (hproper : ∀ c ∈ inner, Proper c)
    (hadd : applyAll (additions inner) v = .ok m) (hrem : applyAll (removals inner) m = .ok r)
    (hr : Blend t v w r) :
    EntryRun t fs ((k, v) :: es) (inner.map (Change.below [k]) ++ cs) ((k, m) :: ms) ((k, r) :: rs) where
  proper := by
    intro c hc
    rcases List.mem_append.mp hc with hc | hc
    · obtain ⟨d, _, rfl⟩ := List.mem_map.mp hc
      simp [Change.below]
    · exact h.proper c hc
  keys := by simp [h.keys]
  shared := by simp [hw, h.shared]
  blend := by
    intro e he r' hr' hre w' hw'
    rcases List.mem_cons.mp he with rfl | he
    · rcases List.mem_cons.mp hr' with rfl | hr'
      · obtain rfl := Option.some.inj (hw.symm.trans hw')
        exact hr
      · exact absurd hre (h.key_ne hne r' hr')
    · rcases List.mem_cons.mp hr' with rfl | hr'
      · exact absurd hre (hne e he)
      · exact h.blend e he r' hr' hre w' hw'
  leads := by
    intro pre post hpre
    have properAdd : ∀ c ∈ additions inner, Proper c := fun c hc => hproper c (mem_of_additions hc)
    have properRem : ∀ c ∈ removals inner, Proper c := fun c hc => hproper c (mem_of_removals hc)
    obtain ⟨hrestAdd, hrestRem⟩ := h.leads (pre ++ [(k, m)]) post (differ_append_entry hother hpre)
    simp only [List.append_assoc, List.cons_append, List.nil_append] at hrestAdd hrestRem
    have place : ∀ qs, Place k fun y => .dict (pre ++ (k, y) :: qs) := fun qs =>
      place_entry hk hk.eq_refl fun p hp => hpre p hp (k, v) List.mem_cons_self
    simp only [List.append_assoc, List.cons_append]
    rw [additions_append, removals_append, applyAll_append, applyAll_append, additions_below,
      removals_below, applyAll_below (place _) properAdd, hadd, hrestRem]
    refine ⟨hrestAdd, ?_⟩
    simp only [Except.bind]
    rw [applyAll_below (place _) properRem, hrem]
    rfl

end EntryRun

lemma changesEntries_run {es fs : List (Value × Value)} {cs : List Change}
    (ih : ∀ e ∈ es, ∀ f ∈ fs, Additive t e.2 f.2) (hk : ∀ e ∈ es, e.1.Element)
    (hd : Value.Distinct (es.map Prod.fst)) (h : changesEntries t [] es fs = .ok cs) :
    ∃ ms rs, EntryRun t fs es cs ms rs := by
  induction es generalizing cs with
  | nil =>
    obtain rfl : [] = cs := by simpa [changesEntries] using h
    exact ⟨[], [], .nil t fs⟩
  | cons e es ihes =>
    obtain ⟨k, v⟩ := e
    simp only [List.forall_mem_cons] at ih hk
    obtain ⟨hfirst, hd⟩ := List.pairwise_cons.mp hd
    have hother : ∀ e ∈ es, k.eq e.1 = false := fun e he => hfirst _ (List.mem_map_of_mem he)
    have hne : ∀ e ∈ es, k ≠ e.1 := by
      rintro e he rfl
      simpa [hk.1.eq_refl] using hother e he
    obtain ⟨here, rest, hrest, rfl, hhere⟩ := changesEntries_cons h
    obtain ⟨ms, rs, hrun⟩ := ihes ih.2 hk.2 hd hrest
    rcases hhere with ⟨hw, rfl⟩ | ⟨w, inner, hw, hinner, rfl⟩
    · exact ⟨_, _, hrun.remove hk.1 hother hne hw⟩
    · obtain ⟨f, hf, -, rfl⟩ := lookup?_mem hw
      obtain ⟨hproper, r, ⟨m, hadd, hrem⟩, hr⟩ := ih.1 f hf inner hinner
      exact ⟨_, _, hrun.enter hk.1 hother hne hw hproper hadd hrem hr⟩

end Entries

lemma sequence_additive {seq : List Value → Value} (hs : Sequence seq) {t : Tolerance}
    {xs ys : List Value} (hxn : (xs.length : ℤ) < sizeLimit) (hyn : (ys.length : ℤ) < sizeLimit)
    (ih : ∀ x ∈ xs, ∀ y ∈ ys, Additive t x y) (hy : ∀ y ∈ ys, Copyable y) :
    Additive t (seq xs) (seq ys) := by
  intro cs h
  have h : changesItems t [] 0 xs ys = .ok cs := by
    cases hs <;> simpa [changesAt, container?, itemsOf] using h
  obtain ⟨rs, hsweep, hl, hc, hn⟩ := changesItems_sweep ih hy h
  obtain ⟨ms, hleads⟩ := hsweep.leads hs (by simpa using hxn) (by simpa [hl] using hyn)
  exact ⟨fun c hc h => absurd h (hsweep.path_ne_nil c hc), seq rs, ⟨seq ms, hleads [] rfl⟩, hs.blend hl hc hn⟩

lemma applyAll_createEntries {es fs ms : List (Value × Value)} (hfk : ∀ f ∈ fs, f.1.Element)
    (hfd : Value.Distinct (fs.map Prod.fst)) (hfv : ∀ f ∈ fs, Copyable f.2)
    (hms : ms.map Prod.fst = es.map Prod.fst) :
    applyAll (createEntries [] es fs) (.dict ms) =
      .ok (.dict (ms ++ fs.filter fun f => (lookup? f.1 es).isNone)) := by
  refine applyAll_create (fun g hg => hfk g (List.mem_of_mem_filter hg))
    (fun g hg => hfv g (List.mem_of_mem_filter hg))
    (hfd.sublist (List.filter_sublist.map Prod.fst)) fun p hp g hg => ?_
  have hnone : lookup? g.1 es = none := by simpa using (List.mem_filter.mp hg).2
  have hkey : p.1 ∈ es.map Prod.fst := hms ▸ List.mem_map_of_mem hp
  obtain ⟨e, he, heq⟩ := List.mem_map.mp hkey
  rw [← heq]
  exact lookup?_eq_none_iff.mp hnone e he

lemma dict_additive {t : Tolerance} {es fs : List (Value × Value)}
    (ih : ∀ e ∈ es, ∀ f ∈ fs, Additive t e.2 f.2) (hek : ∀ e ∈ es, e.1.Element)
    (hed : Value.Distinct (es.map Prod.fst)) (hfk : ∀ f ∈ fs, f.1.Element)
    (hfd : Value.Distinct (fs.map Prod.fst)) (hfv : ∀ f ∈ fs, Copyable f.2) :
    Additive t (.dict es) (.dict fs) := by
  intro cs h
  simp only [changesAt, container?, beq_self_eq_true, if_true, entriesOf] at h
  obtain ⟨shared, hshared, h⟩ := bind_eq_ok.mp h
  obtain rfl := Except.ok.inj h
  obtain ⟨ms, rs, hpath, hms, hrs, hblend, hleads⟩ := changesEntries_run ih hek hed hshared
  obtain ⟨hnewAdd, hnewRem⟩ := additions_createEntries [] es fs
  set new := fs.filter fun f => (lookup? f.1 es).isNone with hnew
  refine ⟨?_, .dict (rs ++ new), ⟨.dict (ms ++ new), ?_, ?_⟩, .dict ?_ ?_ ?_⟩
  · intro c hc hnil
    rcases List.mem_append.mp hc with hc | hc
    · exact absurd hnil (hpath c hc)
    · obtain ⟨f, -, rfl⟩ := List.mem_map.mp hc
      simp at hnil
  · obtain ⟨hadd, -⟩ := hleads [] [] (by simp)
    rw [additions_append, hnewAdd, applyAll_append]
    simp only [List.nil_append, List.append_nil] at hadd
    rw [hadd]
    exact applyAll_createEntries hfk hfd hfv hms
  · obtain ⟨-, hrem⟩ := hleads [] new (by simp)
    rw [removals_append, hnewRem]
    simpa using hrem
  · rw [List.map_append, hrs]
  · intro e he r hr hre w hw
    rcases List.mem_append.mp hr with hr | hr
    · exact hblend e he r hr hre w hw
    · have hnone : lookup? r.1 es = none := by simpa using (List.mem_filter.mp hr).2
      have := lookup?_eq_none_iff.mp hnone e he
      rw [hre, (hek e he).eq_refl] at this
      cases this
  · intro f hf r hr hrf hnone
    rcases List.mem_append.mp hr with hr | hr
    · have hkey : r.1 ∈ rs.map Prod.fst := List.mem_map_of_mem hr
      rw [hrs] at hkey
      obtain ⟨e, he, heq⟩ := List.mem_map.mp hkey
      have := lookup?_eq_none_iff.mp hnone e (List.mem_of_mem_filter he)
      rw [heq, hrf, (hfk f hf).eq_refl] at this
      cases this
    · rw [entry_eq hfk hfd (List.mem_of_mem_filter hr) hf hrf]

lemma tree_additive {t : Tolerance} {a b : Value} (ha : Tree Copyable a) (hb : Tree Copyable b) :
    Additive t a b := by
  -- On the first value; a second one of another kind is compared whole.
  induction ha generalizing b with
  | leaf hc h => exact leaf_additive (.leaf hc h) hb (.inl hc)
  | @list xs hn h ih =>
    cases hb with
    | @list ys hn' h' =>
      exact sequence_additive .list hn hn' (fun x hx y hy => ih x hx (h' y hy))
        fun y hy => (h' y hy).copyable
    | leaf hc h' => exact leaf_additive (.list hn h) (.leaf hc h') (.inr (by simp [container?, hc]))
    | tuple hn' h' => exact leaf_additive (.list hn h) (.tuple hn' h') (.inr (by simp [container?]))
    | dict hk hd hv => exact leaf_additive (.list hn h) (.dict hk hd hv) (.inr (by simp [container?]))
  | @tuple xs hn h ih =>
    cases hb with
    | @tuple ys hn' h' =>
      exact sequence_additive .tuple hn hn' (fun x hx y hy => ih x hx (h' y hy))
        fun y hy => (h' y hy).copyable
    | leaf hc h' => exact leaf_additive (.tuple hn h) (.leaf hc h') (.inr (by simp [container?, hc]))
    | list hn' h' => exact leaf_additive (.tuple hn h) (.list hn' h') (.inr (by simp [container?]))
    | dict hk hd hv => exact leaf_additive (.tuple hn h) (.dict hk hd hv) (.inr (by simp [container?]))
  | @dict es hk hd hv ih =>
    cases hb with
    | dict hk' hd' hv' =>
      exact dict_additive (fun e he f hf => ih e he (hv' f hf)) hk hd hk' hd'
        fun f hf => (hv' f hf).copyable
    | leaf hc h' => exact leaf_additive (.dict hk hd hv) (.leaf hc h') (.inr (by simp [container?, hc]))
    | list hn' h' => exact leaf_additive (.dict hk hd hv) (.list hn' h') (.inr (by simp [container?]))
    | tuple hn' h' => exact leaf_additive (.dict hk hd hv) (.tuple hn' h') (.inr (by simp [container?]))

/-- A leaf that the exact comparison finds equal to itself. -/
def SelfEqual (v : Value) : Prop := valuesEqual exact v v = .ok true

lemma changesAt_of_equal {t : Tolerance} {a b : Value} (p : List Value) (hc : container? a = none)
    (h : valuesEqual t a b = .ok true) : changesAt t p a b = .ok [] := by
  rw [changesAt_leaf p (.inl hc), leaf, h]
  rfl

lemma changesItems_eq_nil {t : Tolerance} {p : List Value} {xs ys : List Value} {i : ℕ}
    (hl : xs.length = ys.length)
    (h : ∀ (j : ℕ) x y, xs[j]? = some x → ys[j]? = some y → ∀ p, changesAt t p x y = .ok []) :
    changesItems t p i xs ys = .ok [] := by
  induction xs generalizing ys i with
  | nil =>
    obtain rfl := List.length_eq_zero_iff.mp hl.symm
    simp [changesItems, createFrom]
  | cons x xs ih =>
    cases ys with
    | nil => simp at hl
    | cons y ys =>
      have hrest := ih (i := i + 1) (by simpa using hl) fun j x' y' hx hy => h (j + 1) x' y' hx hy
      rw [changesItems, h 0 x y rfl rfl, hrest]
      rfl

lemma changesEntries_eq_nil {t : Tolerance} {p : List Value} {es fs : List (Value × Value)}
    (h : ∀ e ∈ es, ∃ w, lookup? e.1 fs = some w ∧ ∀ p, changesAt t p e.2 w = .ok []) :
    changesEntries t p es fs = .ok [] := by
  induction es with
  | nil => simp [changesEntries]
  | cons e es ih =>
    simp only [List.forall_mem_cons] at h
    obtain ⟨⟨w, hw, hc⟩, hrest⟩ := h
    obtain ⟨k, v⟩ := e
    rw [changesEntries, hw, ih hrest]
    simp only [hc]
    rfl

lemma createEntries_eq_nil {p : List Value} {es fs : List (Value × Value)}
    (h : ∀ f ∈ fs, (lookup? f.1 es).isSome) : createEntries p es fs = [] := by
  rw [createEntries, List.filter_eq_nil_iff.mpr]
  · rfl
  · intro f hf
    simpa [Option.isNone_iff_eq_none, Option.isSome_iff_ne_none] using h f hf

lemma lookup?_isSome {k : Value} {es : List (Value × Value)} {e : Value × Value} (he : e ∈ es)
    (h : e.1.eq k = true) : (lookup? k es).isSome := by
  rw [Option.isSome_iff_ne_none]
  intro hnone
  rw [lookup?_eq_none_iff.mp hnone e he] at h
  cases h

lemma lookup?_entry {es : List (Value × Value)} (hd : Value.Distinct (es.map Prod.fst)) {e : Value × Value}
    (he : e ∈ es) (hself : e.1.eq e.1 = true) : lookup? e.1 es = some e.2 := by
  obtain ⟨left, right, rfl⟩ := List.append_of_mem he
  rw [List.map_append, List.map_cons] at hd
  have hpre : left.find? (fun f => f.1.eq e.1) = none := by
    rw [List.find?_eq_none]
    intro f hf
    rw [(List.pairwise_append.mp hd).2.2 _ (List.mem_map_of_mem hf) _ List.mem_cons_self]
    simp
  simp [lookup?, List.find?_append, hpre, hself]

lemma changesAt_self {v : Value} (h : Tree SelfEqual v) (p : List Value) :
    changesAt exact p v v = .ok [] := by
  induction h generalizing p with
  | leaf hc h => exact changesAt_of_equal p hc h
  | @list xs _ _ ih =>
    simp only [changesAt, container?, beq_self_eq_true, if_true, itemsOf]
    refine changesItems_eq_nil rfl fun j x y hx hy p => ?_
    obtain rfl := Option.some.inj (hx.symm.trans hy)
    exact ih x (List.mem_of_getElem? hx) p
  | @tuple xs _ _ ih =>
    simp only [changesAt, container?, beq_self_eq_true, if_true, itemsOf]
    refine changesItems_eq_nil rfl fun j x y hx hy p => ?_
    obtain rfl := Option.some.inj (hx.symm.trans hy)
    exact ih x (List.mem_of_getElem? hx) p
  | @dict es hk hd _ ih =>
    simp only [changesAt, container?, beq_self_eq_true, if_true, entriesOf]
    rw [changesEntries_eq_nil fun e he => ⟨e.2, lookup?_entry hd he (hk e he).eq_refl, ih e he⟩,
      createEntries_eq_nil fun f hf => lookup?_isSome hf (hk f hf).eq_refl]
    rfl

lemma tree_list {Leaf : Value → Prop} {xs : List Value} (h : Tree Leaf (.list xs)) :
    ∀ x ∈ xs, Tree Leaf x := by
  cases h with
  | leaf hc _ => simp [container?] at hc
  | list _ h => exact h

lemma tree_tuple {Leaf : Value → Prop} {xs : List Value} (h : Tree Leaf (.tuple xs)) :
    ∀ x ∈ xs, Tree Leaf x := by
  cases h with
  | leaf hc _ => simp [container?] at hc
  | tuple _ h => exact h

lemma tree_dict {Leaf : Value → Prop} {es : List (Value × Value)} (h : Tree Leaf (.dict es)) :
    (∀ e ∈ es, e.1.Element) ∧ Value.Distinct (es.map Prod.fst) ∧ ∀ e ∈ es, Tree Leaf e.2 := by
  cases h with
  | leaf hc _ => simp [container?] at hc
  | dict hk hd hv => exact ⟨hk, hd, hv⟩

lemma blend_items {xs ys rs : List Value} (hl : rs.length = ys.length)
    (ih : ∀ (i : ℕ) x y r, xs[i]? = some x → ys[i]? = some y → rs[i]? = some r →
      Tree Copyable x → Tree SelfEqual y → ∀ p, changesAt exact p r y = .ok [])
    (hn : ∀ i : ℕ, xs.length ≤ i → rs[i]? = ys[i]?) (hx : ∀ x ∈ xs, Tree Copyable x)
    (hy : ∀ y ∈ ys, Tree SelfEqual y) (p : List Value) :
    changesItems exact p 0 rs ys = .ok [] := by
  refine changesItems_eq_nil hl fun i r y hr hyi p => ?_
  have hyt := hy y (List.mem_of_getElem? hyi)
  rcases lt_or_ge i xs.length with hi | hi
  · exact ih i xs[i] y r (List.getElem?_eq_getElem hi) hyi hr (hx _ (List.getElem_mem hi)) hyt p
  · obtain rfl := Option.some.inj ((hr.symm.trans (hn i hi)).trans hyi)
    exact changesAt_self hyt p

lemma blend_covers {es fs rs : List (Value × Value)}
    (hkeys : rs.map Prod.fst = (es.filter fun e => (lookup? e.1 fs).isSome).map Prod.fst ++
      (fs.filter fun f => (lookup? f.1 es).isNone).map Prod.fst)
    (hek : ∀ e ∈ es, e.1.Element) (hfk : ∀ f ∈ fs, f.1.Element) : ∀ f ∈ fs, (lookup? f.1 rs).isSome := by
  intro f hf
  have found : ∀ k, k ∈ rs.map Prod.fst → k.eq f.1 = true → (lookup? f.1 rs).isSome := by
    intro k hk heq
    obtain ⟨r, hr, rfl⟩ := List.mem_map.mp hk
    exact lookup?_isSome hr heq
  cases he : lookup? f.1 es with
  | none =>
    refine found f.1 ?_ (hfk f hf).eq_refl
    rw [hkeys]
    exact List.mem_append_right _ (List.mem_map_of_mem (List.mem_filter.mpr ⟨hf, by simp [he]⟩))
  | some w =>
    obtain ⟨e, hem, heq, -⟩ := lookup?_mem he
    refine found e.1 ?_ heq
    have hsome := lookup?_isSome hf ((hek e hem).hashed.eq_symm (hfk f hf).hashed heq)
    rw [hkeys]
    exact List.mem_append_left _ (List.mem_map_of_mem (List.mem_filter.mpr ⟨hem, hsome⟩))

/-- Where leaves equal themselves, nothing is left to change in a blend by exact comparison. -/
lemma blend_changes {a b r : Value} (h : Blend exact a b r) (ha : Tree Copyable a)
    (hb : Tree SelfEqual b) (p : List Value) : changesAt exact p r b = .ok [] := by
  induction h generalizing p with
  | kept hc _ h => exact changesAt_of_equal p hc h
  | taken _ _ => exact changesAt_self hb p
  | list hl _ hn ih =>
    simp only [changesAt, container?, beq_self_eq_true, if_true, itemsOf]
    exact blend_items hl (fun i x y r hx hy hr ha hb p => ih i x y r hx hy hr ha hb p) hn
      (tree_list ha) (tree_list hb) p
  | tuple hl _ hn ih =>
    simp only [changesAt, container?, beq_self_eq_true, if_true, itemsOf]
    exact blend_items hl (fun i x y r hx hy hr ha hb p => ih i x y r hx hy hr ha hb p) hn
      (tree_tuple ha) (tree_tuple hb) p
  | @dict es fs rs hkeys _ hn ih =>
    obtain ⟨hek, -, hev⟩ := tree_dict ha
    obtain ⟨hfk, hfd, hfv⟩ := tree_dict hb
    simp only [changesAt, container?, beq_self_eq_true, if_true, entriesOf]
    have entry : ∀ r ∈ rs, ∃ w, lookup? r.1 fs = some w ∧ ∀ p, changesAt exact p r.2 w = .ok [] := by
      intro r hr
      have hkey : r.1 ∈ rs.map Prod.fst := List.mem_map_of_mem hr
      rw [hkeys] at hkey
      rcases List.mem_append.mp hkey with hkey | hkey
      · obtain ⟨e, he, heq⟩ := List.mem_map.mp hkey
        obtain ⟨he, hsome⟩ := List.mem_filter.mp he
        obtain ⟨w, hw⟩ := Option.isSome_iff_exists.mp hsome
        obtain ⟨f, hf, -, rfl⟩ := lookup?_mem hw
        rw [heq] at hw
        exact ⟨f.2, hw, ih e he r hr heq.symm f.2 (heq ▸ hw) (hev e he) (hfv f hf)⟩
      · obtain ⟨f, hf, heq⟩ := List.mem_map.mp hkey
        obtain ⟨hf, hnone⟩ := List.mem_filter.mp hf
        have hself := lookup?_entry hfd hf (hfk f hf).eq_refl
        rw [heq] at hself
        rw [← hn f hf r hr heq.symm (by simpa using hnone)] at hself
        refine ⟨r.2, hself, ?_⟩
        rw [hn f hf r hr heq.symm (by simpa using hnone)]
        exact changesAt_self (hfv f hf)
    rw [changesEntries_eq_nil entry, createEntries_eq_nil (blend_covers hkeys hek hfk)]
    rfl

theorem apply_changes {t : Tolerance} {a b : Value} {cs : List Change} (ha : Tree Copyable a)
    (hb : Tree Copyable b) (h : changes t a b = .ok cs) :
    ∃ r, apply a cs = .ok r ∧ Blend t a b r ∧
      (t = exact → Tree SelfEqual b → changes exact r b = .ok []) := by
  obtain ⟨-, r, ⟨m, hadd, hrem⟩, hblend⟩ := tree_additive ha hb cs h
  refine ⟨r, ?_, hblend, ?_⟩
  · rw [apply, show copyable a = .ok () from ha.copyable, ok_bind]
    change applyAll (additions cs ++ removals cs) a = .ok r
    rw [applyAll_append, hadd]
    exact hrem
  · rintro rfl hself
    exact blend_changes hblend ha hself []

theorem apply_changes_dict :
    ∃ r, apply (.dict [(.int 1, .list [.int 1, .int 2])])
        [⟨[.int 1, .int 0], .change, .int 4, .int 1⟩, ⟨[.int 1, .int 1], .remove, .null, .int 2⟩,
          ⟨[.str "y"], .create, .tuple [.int 2], .null⟩] = .ok r ∧
      Blend exact (.dict [(.int 1, .list [.int 1, .int 2])])
        (.dict [(.bool true, .list [.int 4]), (.str "y", .tuple [.int 2])]) r ∧
      (exact = exact → Tree SelfEqual (.dict [(.bool true, .list [.int 4]), (.str "y", .tuple [.int 2])]) →
        changes exact r (.dict [(.bool true, .list [.int 4]), (.str "y", .tuple [.int 2])]) = .ok []) := by
  have number : ∀ n, Tree Copyable (.int n) := fun n => .leaf rfl rfl
  refine apply_changes (.dict ?_ ?_ ?_) (.dict ?_ ?_ ?_) ?_
  · simpa using Value.Element.atom (.int 1) trivial
  · simp [Value.Distinct]
  · simpa using Tree.list (by norm_num [sizeLimit]) (by simp [number])
  · simpa using ⟨Value.Element.atom (.bool true) trivial, Value.Element.atom (.str "y") trivial⟩
  · simp [Value.Distinct, Value.eq, Value.quantityEq, Value.complexParts?, Value.quantity?]
  · simpa using ⟨Tree.list (by norm_num [sizeLimit]) (by simp [number]),
      Tree.tuple (by norm_num [sizeLimit]) (by simp [number])⟩
  · simp [changes, changesAt, changesEntries, changesItems, removeFrom, createEntries, leaf,
      container?, entriesOf, itemsOf, lookup?, valuesEqual, isBool, number?, numbersEqual, Value.eq,
      Value.quantityEq, Value.complexParts?, Value.quantity?, Quantity.eq, bind,
      Except.bind]

end CallSnapshot.Diff
