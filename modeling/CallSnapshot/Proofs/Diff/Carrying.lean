import CallSnapshot.Diff.Apply
import CallSnapshot.Proofs.Codec.Gather

/-!
How changes act: one below a step acts on what lies there, and the changes between two values are
the same wherever the values lie.
-/

namespace CallSnapshot

def Change.below (path : List Value) (c : Change) : Change := { c with path := path ++ c.path }

namespace Diff

lemma createFrom_below (p q : List Value) (i : ℕ) (ys : List Value) :
    createFrom (p ++ q) i ys = (createFrom q i ys).map (Change.below p) := by
  induction ys generalizing i with
  | nil => rfl
  | cons y ys ih => simp [createFrom, ih, Change.below]

lemma removeFrom_below (p q : List Value) (i : ℕ) (xs : List Value) :
    removeFrom (p ++ q) i xs = (removeFrom q i xs).map (Change.below p) := by
  induction xs generalizing i with
  | nil => rfl
  | cons x xs ih => simp [removeFrom, ih, Change.below]

lemma createEntries_below (p q : List Value) (es fs : List (Value × Value)) :
    createEntries (p ++ q) es fs = (createEntries q es fs).map (Change.below p) := by
  simp [createEntries, Change.below]

lemma leaf_below (t : Tolerance) (p q : List Value) (a b : Value) :
    leaf t (p ++ q) a b = (leaf t q a b).map (List.map (Change.below p)) := by
  unfold leaf
  cases valuesEqual t a b with
  | error f => rfl
  | ok same => cases same <;> rfl

mutual

lemma changesAt_below (t : Tolerance) (p q : List Value) (a b : Value) :
    changesAt t (p ++ q) a b = (changesAt t q a b).map (List.map (Change.below p)) := by
  cases a with
  | dict es =>
    simp only [changesAt]
    split
    · rw [changesEntries_below t p q es, createEntries_below]
      cases changesEntries t q es (entriesOf b) with
      | error f => rfl
      | ok cs => simp [Except.map, bind, Except.bind]
    · exact leaf_below t p q _ b
  | list xs =>
    simp only [changesAt]
    split
    · exact changesItems_below t p q 0 xs (itemsOf b)
    · exact leaf_below t p q _ b
  | tuple xs =>
    simp only [changesAt]
    split
    · exact changesItems_below t p q 0 xs (itemsOf b)
    · exact leaf_below t p q _ b
  | extended kind v =>
    simp only [changesAt]
    split
    · exact changesAt_below t p q v b
    · exact leaf_below t p q _ b
  | _ => simpa only [changesAt] using leaf_below t p q _ b

lemma changesEntries_below (t : Tolerance) (p q : List Value) (es fs : List (Value × Value)) :
    changesEntries t (p ++ q) es fs =
      (changesEntries t q es fs).map (List.map (Change.below p)) := by
  cases es with
  | nil => simp [changesEntries, Except.map]
  | cons e es =>
    obtain ⟨k, v⟩ := e
    simp only [changesEntries]
    rw [changesEntries_below t p q es fs]
    cases lookup? k fs with
    | none =>
      cases changesEntries t q es fs <;> simp [Except.map, bind, Except.bind, Change.below]
    | some w =>
      simp only [List.append_assoc]
      rw [changesAt_below t p (q ++ [k]) v w]
      cases changesAt t (q ++ [k]) v w <;> cases changesEntries t q es fs <;>
        simp [Except.map, bind, Except.bind]

lemma changesItems_below (t : Tolerance) (p q : List Value) (i : ℕ) (xs ys : List Value) :
    changesItems t (p ++ q) i xs ys =
      (changesItems t q i xs ys).map (List.map (Change.below p)) := by
  cases xs with
  | nil => simp [changesItems, createFrom_below, Except.map]
  | cons x xs =>
    cases ys with
    | nil => simp [changesItems, removeFrom_below, Except.map]
    | cons y ys =>
      simp only [changesItems, List.append_assoc]
      rw [changesAt_below t p (q ++ [Value.int i]) x y, changesItems_below t p q (i + 1) xs ys]
      cases changesAt t (q ++ [Value.int i]) x y <;> cases changesItems t q (i + 1) xs ys <;>
        simp [Except.map, bind, Except.bind]

end

lemma applyAll_append (cs ds : List Change) (v : Value) :
    applyAll (cs ++ ds) v = (applyAll cs v).bind (applyAll ds) := by
  induction cs generalizing v with
  | nil => rfl
  | cons c cs ih =>
    simp only [List.cons_append, applyAll]
    cases applyAt c c.path v with
    | error f => rfl
    | ok w => exact ih w

/-- A place in a container: what is put there is read there, and replaced. -/
structure Place (key : Value) (put : Value → Value) : Prop where
  item (y : Value) : item (put y) key = .ok y
  replace (y z : Value) : replaceItem (put y) key z = .ok (put z)

/-- A value is replaced as a whole, but neither created nor removed in its own place. -/
def Proper (c : Change) : Prop := c.path = [] → c.kind = .change

lemma applyAt_congr {c d : Change} (hk : c.kind = d.kind) (hv : c.value = d.value)
    (path : List Value) (v : Value) : applyAt c path v = applyAt d path v := by
  induction path generalizing v with
  | nil => simp only [applyAt, hv]
  | cons key path ih =>
    cases path with
    | nil => simp only [applyAt, hk, hv]
    | cons k path => simp only [applyAt, ih]

lemma applyAt_below {key : Value} {put : Value → Value} (hp : Place key put) {c : Change}
    (hc : Proper c) (x : Value) :
    applyAt (c.below [key]) (c.below [key]).path (put x) = (applyAt c c.path x).map put := by
  obtain ⟨path, kind, value, old⟩ := c
  cases path with
  | nil =>
    obtain rfl : kind = .change := hc rfl
    simp only [Change.below, List.append_nil, applyAt]
    cases copyable value with
    | error f => rfl
    | ok _ => exact hp.replace x value
  | cons k path =>
    simp only [Change.below, List.singleton_append]
    rw [applyAt, hp.item]
    simp only [bind, Except.bind]
    rw [applyAt_congr (c := ⟨key :: k :: path, kind, value, old⟩)
      (d := ⟨k :: path, kind, value, old⟩) rfl rfl]
    cases applyAt ⟨k :: path, kind, value, old⟩ (k :: path) x with
    | error f => rfl
    | ok y => exact hp.replace x y

lemma applyAll_below {key : Value} {put : Value → Value} (hp : Place key put) {cs : List Change}
    (hc : ∀ c ∈ cs, Proper c) (x : Value) :
    applyAll (cs.map (Change.below [key])) (put x) = (applyAll cs x).map put := by
  induction cs generalizing x with
  | nil => rfl
  | cons c cs ih =>
    simp only [List.map_cons, applyAll, applyAt_below hp (hc c List.mem_cons_self)]
    cases applyAt c c.path x with
    | error f => rfl
    | ok y => exact ih (fun c h => hc c (List.mem_cons_of_mem _ h)) y

inductive Sequence : (List Value → Value) → Prop
  | list : Sequence .list
  | tuple : Sequence .tuple

lemma fits_natCast {n : ℕ} (hn : (n : ℤ) < sizeLimit) : fits n = true := by
  have hlow : -sizeLimit ≤ (n : ℤ) := le_trans (by norm_num [sizeLimit]) (Int.natCast_nonneg n)
  rw [fits, Bool.and_eq_true]
  exact ⟨decide_eq_true hlow, decide_eq_true hn⟩

lemma position_eq_ok (kind complaint : String) {i n : ℕ} (hi : i < n) (hn : (n : ℤ) ≤ sizeLimit) :
    position kind complaint n (.int i) = .ok i := by
  have hneg : ¬ (i : ℤ) < 0 := not_lt.mpr (Int.natCast_nonneg i)
  have hfits : fits i = true := fits_natCast (by omega)
  simp [position, int?, hfits, hneg, hi]

lemma take_natCast (n : ℕ) (xs : List Value) : take n xs = xs.take n := by
  simp only [take, cut, Int.toNat_natCast, if_neg (not_lt.mpr (Int.natCast_nonneg n))]
  exact (List.take_eq_take_min ..).symm

lemma drop_natCast (n : ℕ) (xs : List Value) : drop n xs = xs.drop n := by
  simp only [drop, cut, Int.toNat_natCast, if_neg (not_lt.mpr (Int.natCast_nonneg n))]
  rcases le_total n xs.length with h | h
  · rw [min_eq_left h]
  · rw [min_eq_right h, List.drop_length, List.drop_eq_nil_of_le h]

lemma splice_append (pre mid post part : List Value) :
    splice (pre ++ mid ++ post) (.int pre.length) mid.length part =
      .ok (.tuple (pre ++ part ++ post)) := by
  simp only [splice, int?]
  rw [← Nat.cast_add, take_natCast, drop_natCast, ← List.length_append, List.drop_left,
    List.append_assoc pre mid, List.take_left]

namespace Sequence

variable {seq : List Value → Value}

lemma place (h : Sequence seq) (pre post : List Value)
    (hn : ((pre.length + post.length : ℕ) : ℤ) < sizeLimit) :
    Place (.int pre.length) fun y => seq (pre ++ y :: post) := by
  have hpos : ∀ kind complaint y,
      position kind complaint (pre ++ y :: post).length (.int pre.length) = .ok pre.length := by
    intro kind complaint y
    refine position_eq_ok kind complaint (by simp) ?_
    rw [List.length_append, List.length_cons]
    omega
  cases h with
  | list =>
    constructor
    · intro y
      rw [item, hpos]
      simp [bind, Except.bind]
    · intro y z
      rw [replaceItem, hpos]
      simp [bind, Except.bind]
  | tuple =>
    constructor
    · intro y
      rw [item, hpos]
      simp [bind, Except.bind]
    · intro y z
      simpa [replaceItem] using splice_append pre [y] post [z]

lemma create (h : Sequence seq) (pre : List Value) (hn : (pre.length : ℤ) < sizeLimit) (y : Value) :
    createItem (seq pre) (.int pre.length) y = .ok (seq (pre ++ [y])) := by
  cases h with
  | list =>
    have hcut : cut pre.length pre.length = pre.length := by
      simp [cut]
    have hins : insertItem pre (.int pre.length) y = .ok (pre ++ [y]) := by
      simp only [insertItem, int?]
      rw [if_pos (fits_natCast hn), hcut]
      simp
    rw [createItem, hins]
    rfl
  | tuple => simpa [createItem] using splice_append pre [] [] [y]

lemma remove (h : Sequence seq) (pre : List Value) (hn : (pre.length : ℤ) < sizeLimit) (y : Value) :
    removeItem (seq (pre ++ [y])) (.int pre.length) = .ok (seq pre) := by
  cases h with
  | list =>
    have hpos := position_eq_ok "list" "list assignment index out of range"
      (i := pre.length) (n := (pre ++ [y]).length) (by simp)
      (by rw [List.length_append, List.length_singleton]; omega)
    rw [removeItem, hpos]
    simp [bind, Except.bind, List.eraseIdx_append_of_length_le]
  | tuple => simpa [removeItem] using splice_append pre [y] [] []

end Sequence

lemma keyable_eq_ok {k : Value} (h : k.Element) : keyable k = .ok () := by
  simp [keyable, h.hashFault?_eq_none]

lemma sameKey_eq {k : Value} (h : k.Element) (l : Value) : sameKey l k = l.eq k := by
  have : k ≠ .float .nan := by
    rintro rfl
    cases h with
    | atom _ hn => simp [Value.IsNumber, Binary64.isNan] at hn
  cases l <;> simp only [sameKey, Bool.or_false]
  split <;> simp_all

section Entries

variable {k l : Value} {es pre post : List (Value × Value)}

lemma lookup?_eq_none_iff : lookup? k es = none ↔ ∀ e ∈ es, e.1.eq k = false := by
  simp [lookup?]

lemma exists_entry {y : Value} (h : lookup? k es = some y) :
    ∃ pre l post, es = pre ++ (l, y) :: post ∧ l.eq k = true ∧ ∀ e ∈ pre, e.1.eq k = false := by
  rw [lookup?, Option.map_eq_some_iff] at h
  obtain ⟨⟨l, y⟩, hfind, rfl⟩ := h
  obtain ⟨hl, pre, post, rfl, hpre⟩ := List.find?_eq_some_iff_append.mp hfind
  exact ⟨pre, l, post, rfl, hl, by simpa using hpre⟩

lemma lookup?_append (hl : l.eq k = true) (hpre : ∀ e ∈ pre, e.1.eq k = false) (y : Value) :
    lookup? k (pre ++ (l, y) :: post) = some y := by
  have : pre.find? (fun e => e.1.eq k) = none := by simpa using hpre
  simp [lookup?, List.find?_append, this, hl]

lemma lookup?_skip (hl : l.eq k = false) (y : Value) :
    lookup? k (pre ++ (l, y) :: post) = lookup? k (pre ++ post) := by
  simp [lookup?, List.find?_append, hl]

lemma removeKey?_append (hk : k.Element) (hl : l.eq k = true) (hpre : ∀ e ∈ pre, e.1.eq k = false) (y : Value) :
    removeKey? k (pre ++ (l, y) :: post) = some (pre ++ post) := by
  induction pre with
  | nil => simp [removeKey?, sameKey_eq hk, hl]
  | cons e pre ih =>
    simp only [List.forall_mem_cons] at hpre
    simp [removeKey?, sameKey_eq hk, hpre.1, ih hpre.2]

/-- An entry is come to by every key that equals its own, and keeps that one. -/
lemma place_entry (hk : k.Element) (hl : l.eq k = true) (hpre : ∀ e ∈ pre, e.1.eq k = false) :
    Place k fun y => .dict (pre ++ (l, y) :: post) := by
  constructor
  · intro y
    simp [item, keyable_eq_ok hk, lookup?_append hl hpre, bind, Except.bind]
  · intro y z
    simp [replaceItem, keyable_eq_ok hk, setItem, Codec.putEntry_append hl hpre, bind, Except.bind]

lemma createItem_dict (hk : k.Element) (hpre : ∀ e ∈ pre, e.1.eq k = false) (y : Value) :
    createItem (.dict pre) k y = .ok (.dict (pre ++ [(k, y)])) := by
  simp [createItem, replaceItem, keyable_eq_ok hk, setItem, Codec.putEntry_new hpre, bind, Except.bind]

lemma removeItem_dict (hk : k.Element) (hl : l.eq k = true) (hpre : ∀ e ∈ pre, e.1.eq k = false) (y : Value) :
    removeItem (.dict (pre ++ (l, y) :: post)) k = .ok (.dict (pre ++ post)) := by
  simp [removeItem, keyable_eq_ok hk, removeKey?_append hk hl hpre, bind, Except.bind]

end Entries

end Diff

end CallSnapshot
