import CallSnapshot.Proofs.Value.Plain

/-! Equality on the values that may be elements or keys is an equivalence. -/

namespace CallSnapshot

namespace Value

/-- What decides the equality of plain values without parts. -/
inductive Key where
  | null
  | number (re im : Magnitude)
  | text (s : String)
  | bytes (bs : List UInt8)
  | date (d : Date)
  | clock (instant : Bool × ℤ)
  | instant (instant : Bool × ℤ)
  | uuid (u : Uuid)
  | path (p : Path)

def Key.real (m : Magnitude) : Key := .number m (.exact 0)

/-- Nothing for the marks of what is no number, and for containers. -/
def key? : Value → Option Key
  | .null => some .null
  | .bool b => some (.real (.exact (if b then 1 else 0 : ℤ)))
  | .int n => some (.real (.exact n))
  | .float x => x.magnitude?.map .real
  | .decimal d => d.magnitude?.map .real
  | .complex re im => re.magnitude?.bind fun r => im.magnitude?.map (.number r)
  | .str s => some (.text s)
  | .bytes bs => some (.bytes bs)
  | .date d => some (.date d)
  | .time t => some (.clock (clockInstant t))
  | .datetime m => some (.instant (instant m))
  | .uuid u => some (.uuid u)
  | .path p => some (.path p)
  | _ => none

lemma isZero_iff {x : Binary64} : x.isZero = true ↔ x.magnitude? = some (.exact 0) := by
  cases x with
  | finite s m e =>
    have h2 : (2 : ℚ) ^ e ≠ 0 := zpow_ne_zero _ (by norm_num)
    cases m with
    | zero => simp [Binary64.isZero, Binary64.magnitude?, signedRat]
    | succ m =>
      simp [Binary64.isZero, Binary64.magnitude?, signedRat_eq_zero, h2]
      norm_cast
  | _ => simp [Binary64.isZero, Binary64.magnitude?]

lemma real_eq_iff {p q : Quantity} (hp : p.Valid) (hq : q.Valid) :
    p.eq q = true ↔ ∃ k, p.magnitude?.map Key.real = some k ∧ q.magnitude?.map Key.real = some k := by
  rw [Quantity.eq_iff hp hq]
  cases p.magnitude? <;> cases q.magnitude? <;> simp [Key.real]

lemma quantityEq_complex {q : Quantity} {re im : Binary64} (hq : q.Valid) (hre : re.Valid) :
    (im.isZero && q.eq (.binary re)) = true ↔
      ∃ k, q.magnitude?.map Key.real = some k ∧ (Value.complex re im).key? = some k := by
  rw [Bool.and_eq_true, isZero_iff, Quantity.eq_iff hq (q := .binary re) hre,
    show (Quantity.binary re).magnitude? = re.magnitude? from rfl]
  simp only [key?]
  generalize q.magnitude? = m
  cases m <;> cases re.magnitude? <;> cases im.magnitude? <;> simp [Key.real, and_comm]

lemma quantityEq_iff {q : Quantity} {b : Value} (hq : q.Valid) (hb : Atom b) :
    quantityEq q b = true ↔ ∃ k, q.magnitude?.map Key.real = some k ∧ b.key? = some k := by
  cases hb with
  | bool b => exact real_eq_iff hq (q := .int (if b then 1 else 0)) trivial
  | int n => exact real_eq_iff hq (q := .int n) trivial
  | float h => exact real_eq_iff hq (q := .binary _) h
  | decimal h => exact real_eq_iff hq (q := .decimal _) trivial
  | complex hr hi => exact quantityEq_complex hq hr
  | _ => simp [quantityEq, complexParts?, quantity?, key?, Key.real]

lemma complexEq_iff {re im : Binary64} {b : Value} (hre : re.Valid) (him : im.Valid)
    (hb : Atom b) :
    complexEq re im b = true ↔ ∃ k, (Value.complex re im).key? = some k ∧ b.key? = some k := by
  have number : ∀ {q : Quantity}, q.Valid → ((im.isZero && (Quantity.binary re).eq q) = true ↔
      ∃ k, (Value.complex re im).key? = some k ∧ q.magnitude?.map Key.real = some k) := by
    intro q hq
    have : (im.isZero && q.eq (.binary re)) = true ↔ _ := quantityEq_complex hq hre
    rw [show (Quantity.binary re).eq q = q.eq (.binary re) by
      rw [Bool.eq_iff_iff, Quantity.eq_iff (p := .binary re) hre hq,
        Quantity.eq_iff (q := .binary re) hq hre]
      simp only [and_comm], this]
    simp only [and_comm]
  cases hb with
  | bool b => exact number (q := .int (if b then 1 else 0)) trivial
  | int n => exact number (q := .int n) trivial
  | float h => exact number (q := .binary _) h
  | decimal h => exact number (q := .decimal _) trivial
  | complex hr hi =>
    simp only [complexEq, complexParts?, Bool.and_eq_true, Binary64.eq_iff hre hr,
      Binary64.eq_iff him hi, key?]
    generalize re.magnitude? = a, im.magnitude? = b
    cases a <;> cases b <;> cases Binary64.magnitude? _ <;> cases Binary64.magnitude? _ <;>
      simp [eq_comm]
  | _ =>
    simp only [complexEq, complexParts?, quantity?, key?]
    cases re.magnitude? <;> cases im.magnitude? <;> simp

lemma eq_iff_key {a b : Value} (ha : Atom a) (hb : Atom b) :
    a.eq b = true ↔ ∃ k, a.key? = some k ∧ b.key? = some k := by
  cases ha with
  | bool x =>
    rw [eq]
    exact quantityEq_iff (q := .int (if x then 1 else 0)) trivial hb
  | int n =>
    rw [eq]
    exact quantityEq_iff (q := .int n) trivial hb
  | float h =>
    rw [eq]
    exact quantityEq_iff (q := .binary _) h hb
  | decimal h =>
    rw [eq]
    exact quantityEq_iff (q := .decimal _) trivial hb
  | complex hr hi =>
    rw [eq]
    exact complexEq_iff hr hi hb
  | _ =>
    cases hb <;> simp [eq, base, textOf?, key?, Key.real, Option.bind_eq_some_iff]
    all_goals exact eq_comm

/-- Of as many values as others that none of two share, each of the others is met. -/
lemma exists_mem_of_forall {α β : Type} {r : α → β → Prop} {xs : List α} {ys : List β}
    (hlen : xs.length = ys.length) (hr : ∀ x ∈ xs, ∃ y ∈ ys, r x y)
    (hd : xs.Pairwise fun x x' => ∀ y ∈ ys, r x y → ¬ r x' y) : ∀ y ∈ ys, ∃ x ∈ xs, r x y := by
  induction xs generalizing ys with
  | nil =>
    rw [List.length_eq_zero_iff.mp hlen.symm]
    simp
  | cons x xs ih =>
    obtain ⟨z, hz, hxz⟩ := hr x List.mem_cons_self
    obtain ⟨left, right, rfl⟩ := List.append_of_mem hz
    obtain ⟨hx, hd⟩ := List.pairwise_cons.mp hd
    have hsub : ∀ {y}, y ∈ left ++ right → y ∈ left ++ z :: right := by
      intro y hy
      rcases List.mem_append.mp hy with hy | hy <;> simp [hy]
    have rest : ∀ y ∈ left ++ right, ∃ x ∈ xs, r x y := by
      refine ih (by simp at hlen ⊢; omega) (fun x' hx' => ?_)
        (hd.imp fun h y hy => h y (hsub hy))
      obtain ⟨y, hy, hxy⟩ := hr x' (List.mem_cons_of_mem _ hx')
      rcases List.mem_append.mp hy with hy | hy
      · exact ⟨y, List.mem_append_left _ hy, hxy⟩
      · rcases List.mem_cons.mp hy with rfl | hy
        · exact absurd hxy (hx x' hx' y hz hxz)
        · exact ⟨y, List.mem_append_right _ hy, hxy⟩
    intro y hy
    rcases List.mem_append.mp hy with hy | hy
    · obtain ⟨x', hx', h⟩ := rest y (List.mem_append_left _ hy)
      exact ⟨x', List.mem_cons_of_mem _ hx', h⟩
    · rcases List.mem_cons.mp hy with rfl | hy
      · exact ⟨x, List.mem_cons_self, hxz⟩
      · obtain ⟨x', hx', h⟩ := rest y (List.mem_append_right _ hy)
        exact ⟨x', List.mem_cons_of_mem _ hx', h⟩

lemma eqItems_iff {xs ys : List Value} :
    eqItems xs ys = true ↔ List.Forall₂ (fun x y => x.eq y = true) xs ys := by
  induction xs generalizing ys with
  | nil => cases ys <;> simp [eqItems]
  | cons x xs ih => cases ys <;> simp [eqItems, ih]

lemma eqMembers_iff {xs ys : List Value} :
    eqMembers xs ys = true ↔ ∀ x ∈ xs, ∃ y ∈ ys, x.eq y = true := by
  induction xs with
  | nil => simp [eqMembers]
  | cons x xs ih => simp [eqMembers, ih]

lemma eq_tuple {xs ys : List Value} :
    (tuple xs).eq (tuple ys) = true ↔ List.Forall₂ (fun x y => x.eq y = true) xs ys := by
  rw [eq, ← eqItems_iff]
  rfl

lemma eq_frozenset {xs ys : List Value} :
    (frozenset xs).eq (frozenset ys) = true ↔
      xs.length = ys.length ∧ ∀ x ∈ xs, ∃ y ∈ ys, x.eq y = true := by
  rw [eq, eqSet, Bool.and_eq_true, beq_iff_eq, eqMembers_iff]

lemma duration_eq_iff {d : Duration} {b : Value} : (duration d).eq b = true ↔ b = .duration d := by
  cases b with
  | duration e =>
    rw [eq, beq_iff_eq, duration.injEq]
    exact ⟨Eq.symm, Eq.symm⟩
  | _ => simp [eq]

lemma Hashed.eq_cases {a b : Value} (ha : Hashed a) (hb : Hashed b) (h : a.eq b = true) :
    (Atom a ∧ Atom b) ∨ (∃ d, a = .duration d ∧ b = .duration d) ∨
      (∃ xs ys, a = .tuple xs ∧ b = .tuple ys) ∨ ∃ xs ys, a = .frozenset xs ∧ b = .frozenset ys := by
  cases ha with
  | atom ha =>
    cases hb with
    | atom hb => exact .inl ⟨ha, hb⟩
    | _ => cases ha <;> simp [eq, quantityEq, complexEq, base, textOf?, complexParts?, quantity?] at h
  | duration d => exact .inr (.inl ⟨d, rfl, duration_eq_iff.mp h⟩)
  | tuple ha =>
    cases hb with
    | atom hb => cases hb <;> simp [eq, base] at h
    | duration d => simp [eq, base] at h
    | tuple hb => exact .inr (.inr (.inl ⟨_, _, rfl, rfl⟩))
    | frozenset hb hd => simp [eq, base] at h
  | frozenset ha hd =>
    cases hb with
    | atom hb => cases hb <;> simp [eq, eqSet] at h
    | duration d => simp [eq, eqSet] at h
    | tuple hb => simp [eq, eqSet] at h
    | frozenset hb hd => exact .inr (.inr (.inr ⟨_, _, rfl, rfl⟩))

lemma Atom.exists_key {v : Value} (h : Atom v) (hn : v.IsNumber) : ∃ k, v.key? = some k := by
  have binary : ∀ {x : Binary64}, x.isNan = false → ∃ m, x.magnitude? = some m := by
    intro x hx
    cases x <;> simp_all [Binary64.isNan, Binary64.magnitude?]
  cases h with
  | float h =>
    obtain ⟨m, hm⟩ := binary hn
    exact ⟨.real m, by simp [key?, hm]⟩
  | @decimal d h =>
    cases d <;> simp_all [IsNumber, Decimal.isNan, key?, Decimal.magnitude?]
  | complex hr hi =>
    obtain ⟨r, hr⟩ := binary hn.1
    obtain ⟨i, hi⟩ := binary hn.2
    exact ⟨.number r i, by simp [key?, hr, hi]⟩
  | _ => simp [key?]

theorem Element.eq_refl {v : Value} (h : Element v) : v.eq v = true := by
  induction h with
  | atom h hn =>
    obtain ⟨k, hk⟩ := h.exists_key hn
    exact (eq_iff_key h h).mpr ⟨k, hk, hk⟩
  | tuple _ ih => exact eq_tuple.mpr (List.forall₂_same.mpr ih)
  | frozenset _ _ ih => exact eq_frozenset.mpr ⟨rfl, fun x hx => ⟨x, hx, ih x hx⟩⟩

lemma hashed_tuple {xs : List Value} : Hashed (.tuple xs) ↔ ∀ x ∈ xs, Hashed x := by
  refine ⟨fun h => ?_, .tuple⟩
  cases h with
  | atom h => cases h
  | tuple h => exact h

lemma hashed_frozenset {xs : List Value} : Hashed (.frozenset xs) ↔ (∀ x ∈ xs, Hashed x) ∧ Distinct xs := by
  refine ⟨fun h => ?_, fun h => .frozenset h.1 h.2⟩
  cases h with
  | atom h => cases h
  | frozenset h hd => exact ⟨h, hd⟩

lemma Atom.eq_symm {a b : Value} (ha : Atom a) (hb : Atom b) (h : a.eq b = true) : b.eq a = true := by
  obtain ⟨k, hk, hk'⟩ := (eq_iff_key ha hb).mp h
  exact (eq_iff_key hb ha).mpr ⟨k, hk', hk⟩

lemma Atom.eq_trans {a b c : Value} (ha : Atom a) (hb : Atom b) (hc : Atom c) (h : a.eq b = true)
    (h' : b.eq c = true) : a.eq c = true := by
  obtain ⟨k, hk, hk'⟩ := (eq_iff_key ha hb).mp h
  obtain ⟨l, hl, hl'⟩ := (eq_iff_key hb hc).mp h'
  obtain rfl := Option.some.inj (hk'.symm.trans hl)
  exact (eq_iff_key ha hc).mpr ⟨k, hk, hl'⟩

lemma Atom.of_eq {a b : Value} (ha : Atom a) (hb : Hashed b) (h : a.eq b = true) : Atom b := by
  rcases (Hashed.atom ha).eq_cases hb h with ⟨-, hb⟩ | ⟨_, rfl, -⟩ | ⟨_, _, rfl, -⟩ | ⟨_, _, rfl, -⟩
  · exact hb
  all_goals cases ha

lemma Hashed.exists_tuple {xs : List Value} {b : Value} (ha : Hashed (.tuple xs)) (hb : Hashed b)
    (h : (Value.tuple xs).eq b = true) : ∃ ys, b = .tuple ys := by
  rcases ha.eq_cases hb h with ⟨ha, -⟩ | ⟨_, hxs, -⟩ | ⟨_, ys, -, rfl⟩ | ⟨_, _, hxs, -⟩
  · cases ha
  · cases hxs
  · exact ⟨ys, rfl⟩
  · cases hxs

lemma Hashed.exists_frozenset {xs : List Value} {b : Value} (ha : Hashed (.frozenset xs)) (hb : Hashed b)
    (h : (Value.frozenset xs).eq b = true) : ∃ ys, b = .frozenset ys := by
  rcases ha.eq_cases hb h with ⟨ha, -⟩ | ⟨_, hxs, -⟩ | ⟨_, _, hxs, -⟩ | ⟨_, ys, -, rfl⟩
  · cases ha
  · cases hxs
  · cases hxs
  · exact ⟨ys, rfl⟩

lemma Hashed.eq_laws {a : Value} (ha : Hashed a) :
    (∀ b, Hashed b → a.eq b = true → b.eq a = true) ∧
      ∀ b c, Hashed b → Hashed c → a.eq b = true → b.eq c = true → a.eq c = true := by
  induction ha with
  | @atom a ha =>
    refine ⟨fun b hb h => ha.eq_symm (ha.of_eq hb h) h, fun b c hb hc h h' => ?_⟩
    have hb := ha.of_eq hb h
    exact ha.eq_trans hb (hb.of_eq hc h') h h'
  | duration d =>
    refine ⟨fun b _ h => ?_, fun b c _ _ h h' => ?_⟩
    · rw [duration_eq_iff.mp h]
      exact duration_eq_iff.mpr rfl
    · rwa [duration_eq_iff.mp h] at h'
  | @tuple xs hx ih =>
    refine ⟨fun b hb h => ?_, fun b c hb hc h h' => ?_⟩
    · obtain ⟨ys, rfl⟩ := (Hashed.tuple hx).exists_tuple hb h
      rw [eq_tuple, List.forall₂_iff_get] at h ⊢
      rw [hashed_tuple] at hb
      refine ⟨h.1.symm, fun i hi hi' => ?_⟩
      exact (ih _ (List.get_mem _ _)).1 _ (hb _ (List.get_mem _ _)) (h.2 i hi' hi)
    · obtain ⟨ys, rfl⟩ := (Hashed.tuple hx).exists_tuple hb h
      obtain ⟨zs, rfl⟩ := hb.exists_tuple hc h'
      rw [eq_tuple, List.forall₂_iff_get] at h h' ⊢
      rw [hashed_tuple] at hb hc
      refine ⟨h.1.trans h'.1, fun i hi hi' => ?_⟩
      exact (ih _ (List.get_mem _ _)).2 _ _ (hb _ (List.get_mem _ _)) (hc _ (List.get_mem _ _))
        (h.2 i hi (h.1 ▸ hi)) (h'.2 i (h.1 ▸ hi) hi')
  | @frozenset xs hx hd ih =>
    refine ⟨fun b hb h => ?_, fun b c hb hc h h' => ?_⟩
    · -- of sets of equal size one covers the other, since no two items of one set are equal
      obtain ⟨ys, rfl⟩ := (Hashed.frozenset hx hd).exists_frozenset hb h
      rw [eq_frozenset] at h ⊢
      rw [hashed_frozenset] at hb
      have apart : xs.Pairwise fun x x' => ∀ y ∈ ys, x.eq y = true → ¬ x'.eq y = true := by
        refine hd.imp_of_mem fun {x x'} hm hm' hne y hy hxy hxy' => ?_
        have hyx' := (ih x' hm').1 y (hb.1 y hy) hxy'
        rw [(ih x hm).2 y x' (hb.1 y hy) (hx x' hm') hxy hyx'] at hne
        cases hne
      refine ⟨h.1.symm, fun y hy => ?_⟩
      obtain ⟨x, hm, hxy⟩ := exists_mem_of_forall h.1 h.2 apart y hy
      exact ⟨x, hm, (ih x hm).1 y (hb.1 y hy) hxy⟩
    · obtain ⟨ys, rfl⟩ := (Hashed.frozenset hx hd).exists_frozenset hb h
      obtain ⟨zs, rfl⟩ := hb.exists_frozenset hc h'
      rw [eq_frozenset] at h h' ⊢
      rw [hashed_frozenset] at hb hc
      refine ⟨h.1.trans h'.1, fun x hm => ?_⟩
      obtain ⟨y, hy, hxy⟩ := h.2 x hm
      obtain ⟨z, hz, hyz⟩ := h'.2 y hy
      exact ⟨z, hz, (ih x hm).2 y z (hb.1 y hy) (hc.1 z hz) hxy hyz⟩

theorem Hashed.eq_symm {a b : Value} (ha : Hashed a) (hb : Hashed b) (h : a.eq b = true) : b.eq a = true :=
  ha.eq_laws.1 b hb h

theorem Hashed.eq_trans {a b c : Value} (ha : Hashed a) (hb : Hashed b) (hc : Hashed c)
    (h : a.eq b = true) (h' : b.eq c = true) : a.eq c = true := ha.eq_laws.2 b c hb hc h h'

lemma Hashed.eq_comm {a b : Value} (ha : Hashed a) (hb : Hashed b) : a.eq b = b.eq a := by
  rw [Bool.eq_iff_iff]
  exact ⟨ha.eq_symm hb, hb.eq_symm ha⟩

end Value

end CallSnapshot
