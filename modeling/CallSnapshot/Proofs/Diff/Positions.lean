import CallSnapshot.Proofs.Diff.Additivity

/-!
Where the parts of a value lie: under the keys of dictionaries and at the indices of lists and tuples. The
changes between two containers of one kind come in blocks, one for each key or index that one of them has.
-/

namespace CallSnapshot.Diff

open Value (Distinct)

def child? (key : Value) : Value → Option Value
  | .dict es => lookup? key es
  | .list xs | .tuple xs =>
    match key with
    | .int i => if 0 ≤ i then xs[i.toNat]? else none
    | _ => none
  | _ => none

def part? : (path : List Value) → Value → Option Value
  | [], v => some v
  | key :: path, v => (child? key v).bind (part? path)

inductive Holds : Value → Value → Value → Prop
  | list {xs : List Value} {i : ℕ} {x : Value} (h : xs[i]? = some x) : Holds (.list xs) (.int i) x
  | tuple {xs : List Value} {i : ℕ} {x : Value} (h : xs[i]? = some x) : Holds (.tuple xs) (.int i) x
  | dict {es : List (Value × Value)} {k v : Value} (h : (k, v) ∈ es) : Holds (.dict es) k v

/-- What may be a key: it is told apart by equality, and equals itself. -/
structure Key (k : Value) : Prop where
  hashed : k.Hashed
  self : k.eq k = true

/-- A value that shares no parts, with any leaves. -/
inductive Keyed : Value → Prop
  | leaf {v : Value} (hc : container? v = none) : Keyed v
  | list {xs : List Value} (h : ∀ x ∈ xs, Keyed x) : Keyed (.list xs)
  | tuple {xs : List Value} (h : ∀ x ∈ xs, Keyed x) : Keyed (.tuple xs)
  | dict {es : List (Value × Value)} (hk : ∀ e ∈ es, Key e.1) (hd : Distinct (es.map Prod.fst))
      (hv : ∀ e ∈ es, Keyed e.2) : Keyed (.dict es)

/-- Whether a path ends above the end of another or there, equal keys being the same. -/
def leadsTo : List Value → List Value → Bool
  | [], _ => true
  | k :: p, l :: q => k.eq l && leadsTo p q
  | _ :: _, [] => false

def Apart (p q : List Value) : Prop := leadsTo p q = false ∧ leadsTo q p = false

def Different (k l : Value) : Prop := k.eq l = false ∧ l.eq k = false

variable {t : Tolerance} {a b k l v w : Value} {cs : List Change}

lemma Different.symm (h : Different k l) : Different l k := ⟨h.2, h.1⟩

lemma Different.apart (h : Different k l) (p q : List Value) : Apart (k :: p) (l :: q) := by
  simp [Apart, leadsTo, h.1, h.2]

lemma Apart.cons {p q : List Value} (h : Apart p q) (k : Value) : Apart (k :: p) (k :: q) := by
  simp [Apart, leadsTo, h.1, h.2]

lemma Key.of_element (h : k.Element) : Key k := ⟨h.hashed, h.eq_refl⟩

lemma Key.different (hk : Key k) (hl : Key l) (h : k.eq l = false) : Different k l :=
  ⟨h, hk.hashed.eq_comm hl.hashed ▸ h⟩

lemma different_int {i j : ℤ} (h : i ≠ j) : Different (.int i) (.int j) := by
  constructor
  · simpa [Value.eq, Value.quantityEq, Value.complexParts?, Value.quantity?, Quantity.eq] using h
  · simpa [Value.eq, Value.quantityEq, Value.complexParts?, Value.quantity?, Quantity.eq] using h.symm

section Sequence

variable {seq : List Value → Value} {xs ys : List Value}

lemma Sequence.child?_int (hs : Sequence seq) (i : ℕ) : child? (.int i) (seq xs) = xs[i]? := by
  cases hs <;> simp [child?]

lemma Sequence.holds_iff (hs : Sequence seq) : Holds (seq xs) k v ↔ ∃ i : ℕ, k = .int i ∧ xs[i]? = some v := by
  constructor
  · intro h
    cases hs
    all_goals
      cases h with
      | _ h => exact ⟨_, rfl, h⟩
  · rintro ⟨i, rfl, h⟩
    cases hs with
    | list => exact .list h
    | tuple => exact .tuple h

lemma Sequence.items (hs : Sequence seq) : itemsOf (seq xs) = xs := by
  cases hs <;> rfl

lemma Sequence.holds_of_child? (hs : Sequence seq) (h : child? k (seq xs) = some v) : Holds (seq xs) k v := by
  rw [hs.holds_iff]
  cases hs
  all_goals
    cases k with
    | int j =>
      rw [child?, Option.ite_none_right_eq_some] at h
      exact ⟨j.toNat, by rw [Int.toNat_of_nonneg h.1], h.2⟩
    | _ => cases h

end Sequence

lemma holds_dict {es : List (Value × Value)} : Holds (.dict es) k v ↔ (k, v) ∈ es := by
  constructor
  · intro h
    cases h with
    | dict h => exact h
  · exact .dict

namespace Keyed

lemma items {seq : List Value → Value} (hs : Sequence seq) {xs : List Value} (h : Keyed (seq xs)) :
    ∀ x ∈ xs, Keyed x := by
  cases hs
  all_goals
    cases h with
    | leaf hc => cases hc
    | _ h => exact h

lemma entries {es : List (Value × Value)} (h : Keyed (.dict es)) :
    (∀ e ∈ es, Key e.1) ∧ Distinct (es.map Prod.fst) ∧ ∀ e ∈ es, Keyed e.2 := by
  cases h with
  | leaf hc => cases hc
  | dict hk hd hv => exact ⟨hk, hd, hv⟩

lemma cases_container {c : Container} (h : Keyed a) (hc : container? a = some c) :
    (∃ seq xs, Sequence seq ∧ a = seq xs ∧ ∀ ys, container? (seq ys) = some c) ∨
      ∃ es, a = .dict es ∧ c = .mapping := by
  cases h with
  | leaf hn => cases hn.symm.trans hc
  | list => exact .inl ⟨_, _, .list, rfl, fun _ => hc⟩
  | tuple => exact .inl ⟨_, _, .tuple, rfl, fun _ => hc⟩
  | dict => exact .inr ⟨_, rfl, (Option.some.inj hc).symm⟩

lemma mapping (h : Keyed a) (hc : container? a = some .mapping) : ∃ es, a = .dict es := by
  rcases h.cases_container hc with ⟨seq, xs, hs, rfl, -⟩ | ⟨es, rfl, -⟩
  · cases hs <;> cases hc
  · exact ⟨es, rfl⟩

lemma sequence {c : Container} (h : Keyed a) (hc : container? a = some c) (hne : c ≠ .mapping) :
    ∃ seq xs, Sequence seq ∧ a = seq xs := by
  rcases h.cases_container hc with ⟨seq, xs, hs, rfl, -⟩ | ⟨es, -, rfl⟩
  · exact ⟨seq, xs, hs, rfl⟩
  · exact absurd rfl hne

lemma child (h : Keyed a) (hv : Holds a k v) : Keyed v := by
  cases hv with
  | list hx => exact h.items .list v (List.mem_of_getElem? hx)
  | tuple hx => exact h.items .tuple v (List.mem_of_getElem? hx)
  | dict he => exact h.entries.2.2 _ he

lemma child?_of_holds (h : Keyed a) (hv : Holds a k v) : child? k a = some v := by
  cases hv with
  | list hx => exact (Sequence.list.child?_int _).trans hx
  | tuple hx => exact (Sequence.tuple.child?_int _).trans hx
  | dict he => exact lookup?_entry h.entries.2.1 he (h.entries.1 _ he).self

lemma key (h : Keyed a) (hv : Holds a k v) : Key k := by
  cases hv with
  | dict he => exact h.entries.1 _ he
  | _ => exact .of_element (.atom (.int _) trivial)

lemma holds_unique (h : Keyed a) (hv : Holds a k v) (hw : Holds a k w) : v = w :=
  Option.some.inj ((h.child?_of_holds hv).symm.trans (h.child?_of_holds hw))

lemma of_child? (h : Keyed a) (hv : child? k a = some v) : Keyed v := by
  cases h with
  | leaf hc => cases a <;> first | cases hv | cases hc
  | list hx => exact (Keyed.list hx).child (Sequence.list.holds_of_child? hv)
  | tuple hx => exact (Keyed.tuple hx).child (Sequence.tuple.holds_of_child? hv)
  | dict _ _ hes =>
    obtain ⟨e, he, -, rfl⟩ := lookup?_mem hv
    exact hes e he

lemma induct {P : (a : Value) → Keyed a → Prop}
    (step : ∀ a (h : Keyed a), (∀ k v (hv : Holds a k v), P v (h.child hv)) → P a h) {a : Value} (h : Keyed a) :
    P a h := by
  induction h with
  | leaf hc => exact step _ (.leaf hc) fun k v hv => by cases hv <;> cases hc
  | list h ih =>
    refine step _ (.list h) fun k v hv => ?_
    cases hv with
    | list hx => exact ih v (List.mem_of_getElem? hx)
  | tuple h ih =>
    refine step _ (.tuple h) fun k v hv => ?_
    cases hv with
    | tuple hx => exact ih v (List.mem_of_getElem? hx)
  | dict hk hd hv ih =>
    refine step _ (.dict hk hd hv) fun k v he => ?_
    cases he with
    | dict he => exact ih _ he

end Keyed

lemma Tree.keyed {Leaf : Value → Prop} (h : Tree Leaf a) : Keyed a := by
  induction h with
  | leaf hc _ => exact .leaf hc
  | list _ _ ih => exact .list ih
  | tuple _ _ ih => exact .tuple ih
  | dict hk hd _ ih => exact .dict (fun e he => .of_element (hk e he)) hd ih

lemma Tree.of_holds {Leaf : Value → Prop} (h : Tree Leaf a) (hv : Holds a k v) : Tree Leaf v := by
  cases hv with
  | list hx => exact tree_list h v (List.mem_of_getElem? hx)
  | tuple hx => exact tree_tuple h v (List.mem_of_getElem? hx)
  | dict he => exact (tree_dict h).2.2 _ he

/-- The changes between two containers that lie under one key. -/
inductive Block (t : Tolerance) (a b : Value) (k : Value) : List Change → Prop
  | common {v w : Value} {ds : List Change} (hv : Holds a k v) (hw : child? k b = some w)
      (h : changesAt t [] v w = .ok ds) : Block t a b k (ds.map (Change.below [k]))
  | lost {v : Value} (hv : Holds a k v) (hw : child? k b = none) : Block t a b k [⟨[k], .remove, .null, v⟩]
  | gained {w : Value} (hv : child? k a = none) (hw : Holds b k w) : Block t a b k [⟨[k], .create, w, .null⟩]

/-- Changes in blocks, with their keys. -/
structure Blocks (t : Tolerance) (a b : Value) (keys : List Value) (cs : List Change)
    (blocks : List (Value × List Change)) : Prop where
  keys : blocks.map Prod.fst = keys
  all : cs = blocks.flatMap Prod.snd
  each : ∀ p ∈ blocks, Block t a b p.1 p.2

lemma blocks_nil : Blocks t a b [] [] [] := ⟨rfl, rfl, nofun⟩

lemma Blocks.cons {ks : List Value} {here rest : List Change} {blocks : List (Value × List Change)}
    (h : Block t a b k here) (hb : Blocks t a b ks rest blocks) :
    Blocks t a b (k :: ks) (here ++ rest) ((k, here) :: blocks) where
  keys := by rw [List.map_cons, hb.keys]
  all := by rw [List.flatMap_cons, ← hb.all]
  each := List.forall_mem_cons.mpr ⟨h, hb.each⟩

lemma Blocks.append {ks ls : List Value} {here rest : List Change} {blocks others : List (Value × List Change)}
    (h : Blocks t a b ks here blocks) (h' : Blocks t a b ls rest others) :
    Blocks t a b (ks ++ ls) (here ++ rest) (blocks ++ others) where
  keys := by rw [List.map_append, h.keys, h'.keys]
  all := by rw [List.flatMap_append, ← h.all, ← h'.all]
  each := List.forall_mem_append.mpr ⟨h.each, h'.each⟩

section Items

variable {seq : List Value → Value} {as bs xs ys : List Value} {i : ℕ}

def indices (i n : ℕ) : List Value := (List.range' i n).map fun j => .int (j : ℕ)

lemma indices_succ (i n : ℕ) : indices i (n + 1) = .int (i : ℕ) :: indices (i + 1) n := by
  rw [indices, List.range'_succ, List.map_cons, indices]

lemma mem_indices {n : ℕ} : k ∈ indices 0 n ↔ ∃ i : ℕ, k = .int i ∧ i < n := by
  simp [indices, eq_comm, and_comm]

lemma createFrom_blocks (hs : Sequence seq) (hx : ∀ j, as[i + j]? = none) (hy : ∀ j, bs[i + j]? = ys[j]?) :
    ∃ blocks, Blocks t (seq as) (seq bs) (indices i ys.length) (createFrom [] i ys) blocks := by
  induction ys generalizing i with
  | nil => exact ⟨[], blocks_nil⟩
  | cons y ys ih =>
    obtain ⟨blocks, hb⟩ := @ih (i + 1) (fun j => by rw [add_right_comm, add_assoc]; exact hx (j + 1))
      (fun j => by rw [add_right_comm, add_assoc]; exact hy (j + 1))
    have here : Block t (seq as) (seq bs) (.int i) [⟨[.int i], .create, y, .null⟩] :=
      .gained ((hs.child?_int i).trans (hx 0)) (hs.holds_iff.mpr ⟨i, rfl, hy 0⟩)
    rw [List.length_cons, indices_succ]
    exact ⟨_, hb.cons here⟩

lemma removeFrom_blocks (hs : Sequence seq) (hx : ∀ j, as[i + j]? = xs[j]?) (hy : ∀ j, bs[i + j]? = none) :
    ∃ blocks, Blocks t (seq as) (seq bs) (indices i xs.length) (removeFrom [] i xs) blocks := by
  induction xs generalizing i with
  | nil => exact ⟨[], blocks_nil⟩
  | cons x xs ih =>
    obtain ⟨blocks, hb⟩ := @ih (i + 1) (fun j => by rw [add_right_comm, add_assoc]; exact hx (j + 1))
      (fun j => by rw [add_right_comm, add_assoc]; exact hy (j + 1))
    have here : Block t (seq as) (seq bs) (.int i) [⟨[.int i], .remove, .null, x⟩] :=
      .lost (hs.holds_iff.mpr ⟨i, rfl, hx 0⟩) ((hs.child?_int i).trans (hy 0))
    rw [List.length_cons, indices_succ]
    exact ⟨_, hb.cons here⟩

lemma changesItems_blocks (hs : Sequence seq) (hx : ∀ j, as[i + j]? = xs[j]?) (hy : ∀ j, bs[i + j]? = ys[j]?)
    (h : changesItems t [] i xs ys = .ok cs) :
    ∃ blocks, Blocks t (seq as) (seq bs) (indices i (max xs.length ys.length)) cs blocks := by
  induction xs generalizing ys i cs with
  | nil =>
    obtain rfl : createFrom [] i ys = cs := by simpa [changesItems] using h
    rw [List.length_nil, Nat.zero_max]
    exact createFrom_blocks hs hx hy
  | cons x xs ih =>
    cases ys with
    | nil =>
      obtain rfl : removeFrom [] i (x :: xs) = cs := by simpa [changesItems] using h
      rw [List.length_nil, Nat.max_zero]
      exact removeFrom_blocks hs hx hy
    | cons y ys =>
      obtain ⟨inner, rest, hinner, hrest, rfl⟩ := changesItems_cons h
      obtain ⟨blocks, hb⟩ := @ih rest ys (i + 1) (fun j => by rw [add_right_comm, add_assoc]; exact hx (j + 1))
        (fun j => by rw [add_right_comm, add_assoc]; exact hy (j + 1)) hrest
      have here : Block t (seq as) (seq bs) (.int i) (inner.map (Change.below [.int i])) :=
        .common (hs.holds_iff.mpr ⟨i, rfl, hx 0⟩) ((hs.child?_int i).trans (hy 0)) hinner
      rw [List.length_cons, List.length_cons, Nat.succ_max_succ, indices_succ]
      exact ⟨_, hb.cons here⟩

end Items

section Entries

variable {es fs : List (Value × Value)}

lemma changesEntries_blocks {shared : List (Value × Value)} (hsub : ∀ e ∈ shared, e ∈ es)
    (h : changesEntries t [] shared fs = .ok cs) :
    ∃ blocks, Blocks t (.dict es) (.dict fs) (shared.map Prod.fst) cs blocks := by
  induction shared generalizing cs with
  | nil =>
    obtain rfl : [] = cs := by simpa [changesEntries] using h
    exact ⟨[], blocks_nil⟩
  | cons e shared ih =>
    obtain ⟨k, v⟩ := e
    rw [List.forall_mem_cons] at hsub
    obtain ⟨here, rest, hrest, rfl, hhere⟩ := changesEntries_cons h
    obtain ⟨blocks, hb⟩ := ih hsub.2 hrest
    have block : Block t (.dict es) (.dict fs) k here := by
      rcases hhere with ⟨hw, rfl⟩ | ⟨w, inner, hw, hinner, rfl⟩
      · exact .lost (.dict hsub.1) hw
      · exact .common (.dict hsub.1) hw hinner
    exact ⟨_, hb.cons block⟩

def gained (es fs : List (Value × Value)) : List (Value × Value) := fs.filter fun f => (lookup? f.1 es).isNone

lemma createEntries_blocks : ∃ blocks,
    Blocks t (.dict es) (.dict fs) ((gained es fs).map Prod.fst) (createEntries [] es fs) blocks := by
  refine ⟨(gained es fs).map fun f => (f.1, [⟨[f.1], .create, f.2, .null⟩]), ?_, ?_, ?_⟩
  · rw [List.map_map]
    rfl
  · rw [List.flatMap_map, ← List.map_eq_flatMap]
    rfl
  · intro p hp
    obtain ⟨f, hf, rfl⟩ := List.mem_map.mp hp
    obtain ⟨hf, hnone⟩ := List.mem_filter.mp hf
    exact .gained (Option.isNone_iff_eq_none.mp hnone) (.dict hf)

end Entries

/-- Changes that come in blocks, one for each key that one of two containers has. -/
def InBlocks (t : Tolerance) (a b : Value) (cs : List Change) : Prop :=
  ∃ keys blocks, Blocks t a b keys cs blocks ∧ keys.Pairwise Different ∧ (∀ k v, Holds a k v → k ∈ keys) ∧
    ∀ k w, Holds b k w → child? k a = none → k ∈ keys

lemma sequence_inBlocks {seq : List Value → Value} (hs : Sequence seq) {xs ys : List Value}
    (h : changesItems t [] 0 xs ys = .ok cs) : InBlocks t (seq xs) (seq ys) cs := by
  obtain ⟨blocks, hblocks⟩ : ∃ blocks,
      Blocks t (seq xs) (seq ys) (indices 0 (max xs.length ys.length)) cs blocks :=
    changesItems_blocks hs (by simp) (by simp) h
  refine ⟨_, blocks, hblocks, ?_, fun k v hv => ?_, fun k w hw _ => ?_⟩
  · rw [indices, List.pairwise_map]
    exact (List.pairwise_lt_range' 1).imp fun hlt => different_int (by omega)
  · obtain ⟨i, rfl, hi⟩ := hs.holds_iff.mp hv
    exact mem_indices.mpr ⟨i, rfl, lt_max_of_lt_left (List.getElem?_eq_some_iff.mp hi).1⟩
  · obtain ⟨i, rfl, hi⟩ := hs.holds_iff.mp hw
    exact mem_indices.mpr ⟨i, rfl, lt_max_of_lt_right (List.getElem?_eq_some_iff.mp hi).1⟩

lemma keys_different {es : List (Value × Value)} (hk : ∀ e ∈ es, Key e.1) (hd : Distinct (es.map Prod.fst)) :
    (es.map Prod.fst).Pairwise Different := by
  refine List.Pairwise.imp_of_mem (fun hk' hl' => ?_) hd
  obtain ⟨e, he, rfl⟩ := List.mem_map.mp hk'
  obtain ⟨f, hf, rfl⟩ := List.mem_map.mp hl'
  exact (hk e he).different (hk f hf)

lemma dict_inBlocks {es fs : List (Value × Value)} (ha : Keyed (.dict es)) (hb : Keyed (.dict fs))
    {shared : List Change} (h : changesEntries t [] es fs = .ok shared) :
    InBlocks t (.dict es) (.dict fs) (shared ++ createEntries [] es fs) := by
  obtain ⟨hek, hed, -⟩ := ha.entries
  obtain ⟨hfk, hfd, -⟩ := hb.entries
  obtain ⟨blocks, hblocks⟩ := changesEntries_blocks (fun e he => he) h
  obtain ⟨news, hnews⟩ := @createEntries_blocks t es fs
  refine ⟨_, _, hblocks.append hnews, ?_, fun k v hv => ?_, fun k w hw hnone => ?_⟩
  · rw [List.pairwise_append]
    refine ⟨keys_different hek hed, (keys_different hfk hfd).sublist (List.filter_sublist.map Prod.fst), ?_⟩
    intro k hk l hl
    obtain ⟨e, he, rfl⟩ := List.mem_map.mp hk
    obtain ⟨f, hf, rfl⟩ := List.mem_map.mp hl
    obtain ⟨hf, hnone⟩ := List.mem_filter.mp hf
    exact (hek e he).different (hfk f hf) (lookup?_eq_none_iff.mp (by simpa using hnone) e he)
  · exact List.mem_append_left _ (List.mem_map_of_mem (holds_dict.mp hv))
  · refine List.mem_append_right _ (List.mem_map.mpr ⟨(k, w), ?_, rfl⟩)
    exact List.mem_filter.mpr ⟨holds_dict.mp hw, by simpa [child?] using hnone⟩

/-- The changes between two containers of one kind. -/
theorem changesAt_blocks {c : Container} (ha : Keyed a) (hb : Keyed b) (hac : container? a = some c)
    (hbc : container? b = some c) (h : changesAt t [] a b = .ok cs) : InBlocks t a b cs := by
  rcases ha.cases_container hac with ⟨seq, xs, hs, rfl, hseq⟩ | ⟨es, rfl, rfl⟩
  · obtain ⟨ys, rfl⟩ : ∃ ys, b = seq ys := by
      cases hb with
      | leaf hn => cases hn.symm.trans hbc
      | list => cases hs <;> cases (hseq []).trans hbc.symm; exact ⟨_, rfl⟩
      | tuple => cases hs <;> cases (hseq []).trans hbc.symm; exact ⟨_, rfl⟩
      | dict => cases hs <;> cases (hseq []).trans hbc.symm
    refine sequence_inBlocks hs ?_
    cases hs <;> simpa [changesAt, container?, itemsOf] using h
  · obtain ⟨fs, rfl⟩ := hb.mapping hbc
    simp only [changesAt, container?, beq_self_eq_true, if_true, entriesOf] at h
    obtain ⟨shared, hshared, h⟩ := bind_eq_ok.mp h
    obtain rfl := Except.ok.inj h
    exact dict_inBlocks ha hb hshared

end CallSnapshot.Diff
