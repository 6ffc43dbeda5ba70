import CallSnapshot.Diff.Compare
import CallSnapshot.Proofs.Number.Limit
import CallSnapshot.Proofs.Steps

/-!
Which values cannot be compared: those that have, at the same place, an integer on one side and a
fraction on the other, where no fraction is near enough to the integer to stand for it.
-/

namespace CallSnapshot.Diff

open Binary64 (intLimit)

variable {t : Tolerance} {a b : Value}

/-- Two numbers that cannot be compared. Where a bound is no number, no finite fraction can be. -/
def NumberClash (t : Tolerance) : Number → Number → Prop
  | .int _, .int _ => False
  | .int n, .binary x | .binary x, .int n =>
    intLimit ≤ n.natAbs ∨ (t.fault.isSome = true ∧ x.isFinite = true)
  | .binary x, .binary y => t.fault.isSome = true ∧ x.isFinite = true ∧ y.isFinite = true

/-- Two values with such numbers at the same place. -/
inductive Clash (t : Tolerance) : Value → Value → Prop
  | numbers {a b : Value} {m n : Number} (hm : number? a = some m) (hn : number? b = some n)
      (h : NumberClash t m n) : Clash t a b
  | entry {a b k v w : Value} (ha : container? a = some .mapping) (hb : container? b = some .mapping)
      (hv : (k, v) ∈ entriesOf a) (hw : lookup? k (entriesOf b) = some w) (h : Clash t v w) : Clash t a b
  | item {a b x y : Value} {c : Container} {i : ℕ} (hc : c ≠ .mapping) (ha : container? a = some c)
      (hb : container? b = some c) (hx : (itemsOf a)[i]? = some x) (hy : (itemsOf b)[i]? = some y)
      (h : Clash t x y) : Clash t a b

lemma fractionsEqual_ok_iff {x y : Binary64} : (∃ same, fractionsEqual t x y = .ok same) ↔
    ¬ (t.fault.isSome = true ∧ x.isFinite = true ∧ y.isFinite = true) := by
  unfold fractionsEqual
  cases t.fault with
  | none => simp
  | some f => cases x.isFinite <;> cases y.isFinite <;> simp

lemma toBinary_int {n : ℤ} : (intLimit ≤ n.natAbs ∧ (Number.int n).toBinary = .error Grid.tooLarge) ∨
    (¬ intLimit ≤ n.natAbs ∧ ∃ x : Binary64, (Number.int n).toBinary = .ok x ∧ x.isFinite = true) := by
  rw [← Binary64.ofInt?_eq_none_iff]
  cases hn : Binary64.ofInt? n with
  | none => exact .inl ⟨rfl, by simp [Number.toBinary, hn]⟩
  | some x =>
    exact .inr ⟨nofun, x, by simp [Number.toBinary, hn], Binary64.ofInt?_isFinite hn⟩

lemma numbersEqual_ok_iff {m n : Number} :
    (∃ same, numbersEqual t m n = .ok same) ↔ ¬ NumberClash t m n := by
  cases m with
  | int m =>
    cases n with
    | int n => exact iff_of_true ⟨_, rfl⟩ id
    | binary y =>
      simp only [numbersEqual, NumberClash]
      rcases toBinary_int (n := m) with ⟨hm, hx⟩ | ⟨hm, x, hx, hfinite⟩
      · rw [hx]
        exact iff_of_false (by simp [bind, Except.bind]) (by simp [hm])
      · rw [hx, ok_bind]
        refine fractionsEqual_ok_iff.trans ?_
        simp [hm, hfinite]
  | binary x =>
    cases n with
    | int n =>
      simp only [numbersEqual, NumberClash]
      rcases toBinary_int (n := n) with ⟨hn, hy⟩ | ⟨hn, y, hy, hfinite⟩
      · rw [hy]
        exact iff_of_false (by simp [bind, Except.bind, Number.toBinary]) (by simp [hn])
      · rw [hy]
        refine fractionsEqual_ok_iff.trans ?_
        simp [hn, hfinite]
    | binary y => exact fractionsEqual_ok_iff

lemma isBool_of_number? {n : Number} (h : number? a = some n) : isBool a = false := by
  cases a <;> first | rfl | cases h

lemma container?_of_number? {n : Number} (h : number? a = some n) : container? a = none := by
  induction a using number?.induct <;> simp_all [number?, container?]

lemma leaf_ok_iff {p : List Value} : (∃ cs, leaf t p a b = .ok cs) ↔
    ∀ m, number? a = some m → ∀ n, number? b = some n → ¬ NumberClash t m n := by
  have hleaf : (∃ cs, leaf t p a b = .ok cs) ↔ ∃ same, valuesEqual t a b = .ok same := by
    unfold leaf
    cases valuesEqual t a b <;> simp [bind, Except.bind]
  rw [hleaf, valuesEqual]
  cases hm : number? a with
  | none => exact iff_of_true (by split <;> exact ⟨_, rfl⟩) nofun
  | some m =>
    cases hn : number? b with
    | none => exact iff_of_true (by split <;> exact ⟨_, rfl⟩) nofun
    | some n =>
      rw [isBool_of_number? hm, isBool_of_number? hn, Bool.or_self, if_neg Bool.false_ne_true]
      exact numbersEqual_ok_iff.trans (by simp)

/-! Where two values clash, by what they hold. -/

lemma clash_leaf (h : container? a = none ∨ container? a ≠ container? b) : Clash t a b ↔
    ∃ m n, number? a = some m ∧ number? b = some n ∧ NumberClash t m n := by
  constructor
  · intro hc
    cases hc with
    | numbers hm hn hc => exact ⟨_, _, hm, hn, hc⟩
    | entry ha hb => simp [ha, hb] at h
    | item _ ha hb => simp [ha, hb] at h
  · rintro ⟨m, n, hm, hn, hc⟩
    exact .numbers hm hn hc

lemma clash_mapping (ha : container? a = some .mapping) (hb : container? b = some .mapping) : Clash t a b ↔
    ∃ e ∈ entriesOf a, ∃ w, lookup? e.1 (entriesOf b) = some w ∧ Clash t e.2 w := by
  constructor
  · intro hc
    cases hc with
    | numbers hm => simp [container?_of_number? hm] at ha
    | entry _ _ hv hw hc => exact ⟨_, hv, _, hw, hc⟩
    | item hc ha' => exact absurd (Option.some.inj (ha'.symm.trans ha)) hc
  · rintro ⟨e, he, w, hw, hc⟩
    exact .entry ha hb he hw hc

lemma clash_sequence {c : Container} (hc : c ≠ .mapping) (ha : container? a = some c)
    (hb : container? b = some c) : Clash t a b ↔
      ∃ (i : ℕ) (x y : Value), (itemsOf a)[i]? = some x ∧ (itemsOf b)[i]? = some y ∧ Clash t x y := by
  constructor
  · intro h
    cases h with
    | numbers hm => simp [container?_of_number? hm] at ha
    | entry ha' => exact absurd (Option.some.inj (ha.symm.trans ha')) hc
    | item _ _ _ hx hy h => exact ⟨_, _, _, hx, hy, h⟩
  · rintro ⟨i, x, y, hx, hy, h⟩
    exact .item hc ha hb hx hy h

lemma clash_extended {kind : Extension} {c : Container} (ha : container? a = some c) (hb : container? b = some c) :
    Clash t (.extended kind a) b ↔ Clash t a b := by
  have ha' : container? (.extended kind a) = some c := ha
  by_cases hc : c = .mapping
  · subst hc
    rw [clash_mapping ha' hb, clash_mapping ha hb, entriesOf]
  · rw [clash_sequence hc ha' hb, clash_sequence hc ha hb, itemsOf]

lemma exists_bind_ok_iff {x : Except Fault (List Change)} {f : List Change → List Change} :
    (∃ cs, (x >>= fun ds => .ok (f ds)) = .ok cs) ↔ ∃ ds, x = .ok ds := by
  cases x <;> simp [bind, Except.bind]

lemma exists_append_ok_iff {x y : Except Fault (List Change)} :
    (∃ cs, (x >>= fun here => y >>= fun rest => .ok (here ++ rest)) = .ok cs) ↔
      (∃ cs, x = .ok cs) ∧ ∃ cs, y = .ok cs := by
  cases x <;> cases y <;> simp [bind, Except.bind]

lemma leaf_ok_iff_not_clash {p : List Value} (h : container? a = none ∨ container? a ≠ container? b) :
    (∃ cs, leaf t p a b = .ok cs) ↔ ¬ Clash t a b := by
  rw [leaf_ok_iff, clash_leaf h]
  simp

mutual

/-- The changes between two values are found exactly where the values do not clash. -/
theorem changesAt_ok_iff (t : Tolerance) (p : List Value) (a b : Value) :
    (∃ cs, changesAt t p a b = .ok cs) ↔ ¬ Clash t a b := by
  cases a with
  | dict es =>
    rw [changesAt]
    split
    · rename_i hb
      rw [clash_mapping rfl (eq_of_beq hb), exists_bind_ok_iff, changesEntries_ok_iff t p es (entriesOf b)]
      simp [entriesOf]
    · rename_i hb
      exact leaf_ok_iff_not_clash (.inr fun h => hb (by rw [← h]; rfl))
  | list xs =>
    rw [changesAt]
    split
    · rename_i hb
      rw [clash_sequence (by decide) rfl (eq_of_beq hb), changesItems_ok_iff t p 0 xs (itemsOf b)]
      simp [itemsOf]
    · rename_i hb
      exact leaf_ok_iff_not_clash (.inr fun h => hb (by rw [← h]; rfl))
  | tuple xs =>
    rw [changesAt]
    split
    · rename_i hb
      rw [clash_sequence (by decide) rfl (eq_of_beq hb), changesItems_ok_iff t p 0 xs (itemsOf b)]
      simp [itemsOf]
    · rename_i hb
      exact leaf_ok_iff_not_clash (.inr fun h => hb (by rw [← h]; rfl))
  | extended kind v =>
    rw [changesAt]
    split
    · rename_i hb
      obtain ⟨hsome, hb⟩ := Bool.and_eq_true_iff.mp hb
      obtain ⟨c, hc⟩ := Option.isSome_iff_exists.mp hsome
      rw [clash_extended hc ((eq_of_beq hb).symm.trans hc)]
      exact changesAt_ok_iff t p v b
    · rename_i hb
      refine leaf_ok_iff_not_clash ?_
      cases hc : container? v with
      | none => exact .inl hc
      | some c =>
        refine .inr fun h => hb ?_
        have h : container? v = container? b := h
        simp [← h, hc]
  | _ =>
    rw [changesAt]
    · exact leaf_ok_iff_not_clash (.inl rfl)
    all_goals nofun

lemma changesEntries_ok_iff (t : Tolerance) (p : List Value) (es fs : List (Value × Value)) :
    (∃ cs, changesEntries t p es fs = .ok cs) ↔
      ∀ e ∈ es, ∀ w, lookup? e.1 fs = some w → ¬ Clash t e.2 w := by
  cases es with
  | nil => exact iff_of_true ⟨[], by rw [changesEntries]⟩ (by simp)
  | cons e es =>
    obtain ⟨k, v⟩ := e
    rw [changesEntries, List.forall_mem_cons, ← changesEntries_ok_iff t p es fs]
    cases lookup? k fs with
    | none =>
      dsimp only
      rw [ok_bind, exists_bind_ok_iff]
      simp
    | some w =>
      dsimp only
      rw [exists_append_ok_iff, changesAt_ok_iff t (p ++ [k]) v w]
      simp

lemma changesItems_ok_iff (t : Tolerance) (p : List Value) (i : ℕ) (xs ys : List Value) :
    (∃ cs, changesItems t p i xs ys = .ok cs) ↔
      ∀ (j : ℕ) x, xs[j]? = some x → ∀ y, ys[j]? = some y → ¬ Clash t x y := by
  cases xs with
  | nil => exact iff_of_true ⟨_, by rw [changesItems]⟩ nofun
  | cons x xs =>
    cases ys with
    | nil => exact iff_of_true ⟨_, by rw [changesItems]⟩ nofun
    | cons y ys =>
      have hsplit : (∀ (j : ℕ) x', (x :: xs)[j]? = some x' → ∀ y', (y :: ys)[j]? = some y' → ¬ Clash t x' y') ↔
          ¬ Clash t x y ∧ ∀ (j : ℕ) x', xs[j]? = some x' → ∀ y', ys[j]? = some y' → ¬ Clash t x' y' := by
        constructor
        · exact fun h => ⟨h 0 x rfl y rfl, fun j => h (j + 1)⟩
        · rintro ⟨hhere, hrest⟩ j x' hx y' hy
          cases j with
          | zero =>
            cases hx
            cases hy
            exact hhere
          | succ j => exact hrest j x' hx y' hy
      rw [changesItems, hsplit, ← changesItems_ok_iff t p (i + 1) xs ys, ← changesAt_ok_iff t (p ++ [.int i]) x y]
      exact exists_append_ok_iff

end

end CallSnapshot.Diff
