import CallSnapshot.Proofs.Diff.Disagreement
import CallSnapshot.Proofs.Number.Difference

/-!
Without a relative bound the comparison of plain values does not tell its sides apart. So two values disagree at
the same places whichever of them comes first, and the changes from one to the other are those of the other way,
reversed; only keys are spelled, and ordered, as in the value that comes first.
-/

namespace CallSnapshot

/-- What undoes a change: what was created is removed, what was removed or changed comes back. -/
def ChangeKind.reversed : ChangeKind → ChangeKind
  | .create => .remove
  | .remove => .create
  | .change => .change

def Change.reversed (c : Change) : Change := ⟨c.path, c.kind.reversed, c.old, c.value⟩

namespace Diff

open Value (Hashed Distinct)

/-- What is compared whole of plain values: what may be told apart in a set, and sets of it. -/
inductive PlainLeaf : Value → Prop
  | hashed {v : Value} (h : Hashed v) : PlainLeaf v
  | set {xs : List Value} (h : ∀ x ∈ xs, Hashed x) (hd : Distinct xs) : PlainLeaf (.set xs)

def Alike (p q : List Value) : Prop := List.Forall₂ (fun k l => k.eq l = true) p q

def Respelled (c d : Change) : Prop :=
  Alike c.path d.path ∧ c.kind = d.kind ∧ c.value = d.value ∧ c.old = d.old

variable {t : Tolerance} {a b k l v w : Value} {cs ds : List Change} {c d : Change}

section Comparison

lemma close_comm (ht : t.relative.isZero = true) (x y : Binary64) : close t x y = close t y x := by
  unfold close
  rw [Bool.or_comm x.isNan, Bool.or_comm x.isInfinite, Binary64.eq_comm x y, Binary64.abs_sub_comm x y,
    Bool.and_assoc, Bool.and_comm x.isNan, ← Bool.and_assoc]
  split
  · rfl
  · split
    · rfl
    · rename_i hnan hinf
      rw [Bool.or_eq_true, not_or] at hnan hinf
      have bound : ∀ z : Binary64, z.isNan ≠ true → z.isInfinite ≠ true →
          t.relative.mul z.abs = .finite (t.relative.isNegative != false) 0 0 := by
        intro z hz hz'
        cases z with
        | finite s m e => exact Binary64.mul_of_isZero ht rfl
        | nan => exact absurd rfl hz
        | infinity => exact absurd rfl hz'
      rw [bound x hnan.2 hinf.2, bound y hnan.1 hinf.1]

lemma fractionsEqual_comm (ht : t.relative.isZero = true) (x y : Binary64) :
    fractionsEqual t x y = fractionsEqual t y x := by
  rw [fractionsEqual, fractionsEqual, close_comm ht, Bool.and_comm]

lemma numbersEqual_comm (ht : t.relative.isZero = true) (m n : Number) :
    numbersEqual t m n = numbersEqual t n m := by
  cases m with
  | int i =>
    cases n with
    | int j => exact congrArg Except.ok Bool.beq_comm
    | binary y =>
      simp only [numbersEqual, Number.toBinary]
      cases Binary64.ofInt? i with
      | none => rfl
      | some x => exact fractionsEqual_comm ht x y
  | binary x =>
    cases n with
    | int j =>
      simp only [numbersEqual, Number.toBinary]
      cases Binary64.ofInt? j with
      | none => rfl
      | some y => exact fractionsEqual_comm ht x y
    | binary y => exact fractionsEqual_comm ht x y

/-- A set as what cannot change. -/
def frozen : Value → Value
  | .set xs => .frozenset xs
  | v => v

lemma PlainLeaf.hashed_frozen (h : PlainLeaf v) : Hashed (frozen v) := by
  cases h with
  | hashed h => cases v <;> first | exact h | nomatch h
  | set h hd => exact .frozenset h hd

lemma eq_frozen (h : Hashed v) (w : Value) : v.eq (frozen w) = v.eq w := by
  cases w with
  | set ys =>
    cases h with
    | atom h => cases h <;> simp [frozen, Value.eq, Value.quantityEq, Value.complexEq, Value.complexParts?,
        Value.quantity?, Value.base, Value.textOf?]
    | _ => simp [frozen, Value.eq, Value.eqSet, Value.base]
  | _ => rfl

lemma frozen_eq (ha : PlainLeaf a) (b : Value) : (frozen a).eq (frozen b) = a.eq b := by
  cases ha with
  | hashed h =>
    have same : frozen a = a := by cases a <;> first | rfl | nomatch h
    rw [same, eq_frozen h]
  | set h hd => cases b <;> simp [frozen, Value.eq, Value.eqSet]

lemma PlainLeaf.eq_comm (ha : PlainLeaf a) (hb : PlainLeaf b) : a.eq b = b.eq a := by
  rw [← frozen_eq ha b, ← frozen_eq hb a, ha.hashed_frozen.eq_comm hb.hashed_frozen]

lemma PlainLeaf.valuesEqual_comm (ht : t.relative.isZero = true) (ha : PlainLeaf a) (hb : PlainLeaf b) :
    valuesEqual t a b = valuesEqual t b a := by
  have kinds : (container? a == container? b) = (container? b == container? a) := BEq.comm
  simp only [valuesEqual, Bool.or_comm (isBool a), Bool.and_comm (isBool a), ha.eq_comm hb, kinds]
  split
  · rfl
  · cases number? a with
    | none => cases number? b <;> rfl
    | some m =>
      cases number? b with
      | none => rfl
      | some n => exact numbersEqual_comm ht m n

end Comparison

section Places

variable {kind : Container} {es : List (Value × Value)} {p q r : List Value}

lemma eq_of_equal {m : Value} (hk : Hashed k) (hl : Hashed l) (hm : Hashed m) (h : l.eq k = true) :
    m.eq k = l.eq m := by
  rw [Bool.eq_iff_iff]
  constructor
  · exact fun hmk => hl.eq_trans hk hm h (hm.eq_symm hk hmk)
  · exact fun hlm => hm.eq_trans hl hk (hl.eq_symm hm hlm) h

lemma lookup?_congr (hes : ∀ e ∈ es, Hashed e.1) (hk : Hashed k) (hl : Hashed l) (h : k.eq l = true) :
    lookup? k es = lookup? l es := by
  have same : ∀ e ∈ es, e.1.eq k = e.1.eq l := by
    intro e he
    rw [eq_of_equal hl hk (hes e he) h, (hes e he).eq_comm hk]
  rw [lookup?, lookup?, List.find?_congr same]

lemma exists_spelling (ha : Keyed a) (hb : Keyed b) (hac : container? a = some kind) (hbc : container? b = some kind)
    (hv : Holds a k v) (hw : child? k b = some w) : ∃ l, k.eq l = true ∧ Holds b l w ∧ child? l a = some v := by
  by_cases hc : kind = .mapping
  · subst hc
    obtain ⟨es, rfl⟩ := ha.mapping hac
    obtain ⟨fs, rfl⟩ := hb.mapping hbc
    obtain ⟨f, hf, heq, rfl⟩ := lookup?_mem hw
    have hk := ha.key hv
    have hl := hb.key (.dict hf)
    have hsym := hl.hashed.eq_symm hk.hashed heq
    refine ⟨f.1, hsym, .dict hf, ?_⟩
    rw [child?, ← lookup?_congr (fun e he => (ha.entries.1 e he).hashed) hk.hashed hl.hashed hsym]
    exact ha.child?_of_holds hv
  · obtain ⟨seq, xs, hs, rfl⟩ := hb.sequence hbc hc
    exact ⟨k, (ha.key hv).self, hs.holds_of_child? hw, ha.child?_of_holds hv⟩

lemma Alike.symm (hp : ∀ k ∈ p, Hashed k) (hq : ∀ l ∈ q, Hashed l) (h : Alike p q) : Alike q p := by
  induction h with
  | nil => exact .nil
  | cons hkl _ ih =>
    rw [List.forall_mem_cons] at hp hq
    exact .cons (hp.1.eq_symm hq.1 hkl) (ih hp.2 hq.2)

lemma Alike.trans (hp : ∀ k ∈ p, Hashed k) (hq : ∀ l ∈ q, Hashed l) (hr : ∀ m ∈ r, Hashed m) (h : Alike p q)
    (h' : Alike q r) : Alike p r := by
  induction h generalizing r with
  | nil => exact h'
  | cons hkl _ ih =>
    cases h' with
    | cons hlm h' =>
      rw [List.forall_mem_cons] at hp hq hr
      exact .cons (hp.1.eq_trans hq.1 hr.1 hkl hlm) (ih hp.2 hq.2 hr.2 h')

lemma Alike.not_apart (h : Alike p q) : ¬ Apart p q := by
  have leads : leadsTo p q = true := by
    induction h with
    | nil => rfl
    | cons hkl _ ih => rw [leadsTo, hkl, ih, Bool.and_self]
  simp [Apart, leads]

lemma Disagree.keys (ha : Keyed a) (hb : Keyed b) (h : Disagree t a b p) : ∀ k ∈ p, Key k := by
  induction h with
  | kinds => nofun
  | leaves => nofun
  | lost _ _ hv _ => exact List.forall_mem_singleton.mpr (ha.key hv)
  | gained _ _ _ hw => exact List.forall_mem_singleton.mpr (hb.key hw)
  | inner _ _ hv hw _ ih => exact List.forall_mem_cons.mpr ⟨ha.key hv, ih (ha.child hv) (hb.of_child? hw)⟩

/-- Where two values disagree they do so the other way about, at a place that each of them has or has not as
before. -/
lemma Disagree.mirrored (ht : t.relative.isZero = true) (ha : Tree PlainLeaf a) (hb : Tree PlainLeaf b)
    (h : Disagree t a b p) :
    ∃ q, Alike p q ∧ Disagree t b a q ∧ part? q a = part? p a ∧ part? q b = part? p b := by
  induction h with
  | kinds h => exact ⟨[], .nil, .kinds h.symm, rfl, rfl⟩
  | leaves hac hbc h =>
    rw [(ha.leaf_of_none hac).valuesEqual_comm ht (hb.leaf_of_none hbc)] at h
    exact ⟨[], .nil, .leaves hbc hac h, rfl, rfl⟩
  | lost hac hbc hv hw => exact ⟨_, .cons (ha.keyed.key hv).self .nil, .gained hbc hac hw hv, rfl, rfl⟩
  | gained hac hbc hv hw => exact ⟨_, .cons (hb.keyed.key hw).self .nil, .lost hbc hac hw hv, rfl, rfl⟩
  | inner hac hbc hv hw _ ih =>
    obtain ⟨l, hkl, hl, hchild⟩ := exists_spelling ha.keyed hb.keyed hac hbc hv hw
    obtain ⟨q, hpq, hq, hqa, hqb⟩ := ih (ha.of_holds hv) (hb.of_holds hl)
    refine ⟨l :: q, .cons hkl hpq, .inner hbc hac hl hchild hq, ?_, ?_⟩
    · rw [part?, part?, hchild, ha.keyed.child?_of_holds hv, Option.bind_some, Option.bind_some, hqa]
    · rw [part?, part?, hw, hb.keyed.child?_of_holds hl, Option.bind_some, Option.bind_some, hqb]

end Places

section Reversal

/-- A change has no values but those that its kind speaks of. -/
def Tidy (c : Change) : Prop :=
  match c.kind with
  | .create => c.old = .null
  | .remove => c.value = .null
  | .change => True

lemma changesAt_tidy (ha : Keyed a) (hb : Keyed b) (h : changesAt t [] a b = .ok cs) : ∀ c ∈ cs, Tidy c := by
  induction ha using Keyed.induct generalizing b cs with
  | step a ha ih =>
    by_cases hc : container? a = none ∨ container? a ≠ container? b
    · rw [changesAt_leaf [] hc, leaf] at h
      obtain ⟨same, -, h⟩ := bind_eq_ok.mp h
      obtain rfl := Except.ok.inj h
      cases same <;> simp [Tidy]
    · push Not at hc
      obtain ⟨k, hac⟩ := Option.ne_none_iff_exists'.mp hc.1
      obtain ⟨keys, blocks, hblocks, -⟩ := changesAt_blocks ha hb hac (hc.2 ▸ hac) h
      intro c hc
      rw [hblocks.all, List.mem_flatMap] at hc
      obtain ⟨⟨k, here⟩, hp, hc⟩ := hc
      have hblock : Block t a b k here := hblocks.each _ hp
      cases hblock with
      | common hv hw h =>
        obtain ⟨d, hd, rfl⟩ := List.mem_map.mp hc
        exact ih _ _ hv (hb.of_child? hw) h d hd
      | lost =>
        rw [List.mem_singleton.mp hc]
        rfl
      | gained =>
        rw [List.mem_singleton.mp hc]
        rfl

lemma Truthful.respelled (hc : Truthful t a b c) (hd : Truthful t b a d) (hct : Tidy c) (hdt : Tidy d)
    (hpath : Alike c.path d.path) (ha : part? d.path a = part? c.path a) (hb : part? d.path b = part? c.path b) :
    Respelled c.reversed d := by
  refine ⟨hpath, ?_⟩
  obtain ⟨p, kind, value, old⟩ := c
  obtain ⟨q, kind', value', old'⟩ := d
  cases kind <;> cases kind' <;> simp_all [Truthful, Tidy, Change.reversed, ChangeKind.reversed]

lemma exists_perm_forall₂ {α β : Type} {R : α → β → Prop} {xs : List α} {ys : List β}
    (hx : ∀ x ∈ xs, ∃ y ∈ ys, R x y) (hy : ∀ y ∈ ys, ∃ x ∈ xs, R x y)
    (hxs : xs.Pairwise fun x x' => ∀ y ∈ ys, R x y → ¬ R x' y)
    (hys : ys.Pairwise fun y y' => ∀ x ∈ xs, R x y → ¬ R x y') : ∃ zs, zs.Perm ys ∧ List.Forall₂ R xs zs := by
  induction xs generalizing ys with
  | nil =>
    cases ys with
    | nil => exact ⟨[], .nil, .nil⟩
    | cons y ys =>
      obtain ⟨x, hx, -⟩ := hy y List.mem_cons_self
      cases hx
  | cons x xs ih =>
    obtain ⟨y, hmem, hxy⟩ := hx x List.mem_cons_self
    obtain ⟨left, right, rfl⟩ := List.append_of_mem hmem
    have front : (left ++ y :: right).Perm (y :: (left ++ right)) := List.perm_middle
    have back : ∀ {z}, z ∈ left ++ right → z ∈ left ++ y :: right := fun hz =>
      front.mem_iff.mpr (List.mem_cons_of_mem _ hz)
    obtain ⟨hfirst, hrest⟩ := List.pairwise_cons.mp hxs
    obtain ⟨hother, hys⟩ := List.pairwise_cons.mp
      ((front.pairwise_iff fun h x' hx' hxy' hxy => h x' hx' hxy hxy').mp hys)
    obtain ⟨zs, hperm, hzs⟩ : ∃ zs, zs.Perm (left ++ right) ∧ List.Forall₂ R xs zs := by
      refine ih (fun x' hx' => ?_) (fun z hz => ?_) (hrest.imp fun h z hz => h z (back hz))
        (hys.imp fun h x' hx' => h x' (List.mem_cons_of_mem _ hx'))
      · obtain ⟨z, hz, hxz⟩ := hx x' (List.mem_cons_of_mem _ hx')
        rcases List.mem_cons.mp (front.mem_iff.mp hz) with rfl | hz
        · exact absurd hxz (hfirst x' hx' z hmem hxy)
        · exact ⟨z, hz, hxz⟩
      · obtain ⟨x', hx', hxz⟩ := hy z (back hz)
        rcases List.mem_cons.mp hx' with rfl | hx'
        · exact absurd hxz (hother z hz x' List.mem_cons_self hxy)
        · exact ⟨x', hx', hxz⟩
    exact ⟨y :: zs, (hperm.cons y).trans front.symm, .cons hxy hzs⟩

/-- The changes from the second value to the first are those from the first to the second, reversed. -/
theorem changesAt_mirrored (ht : t.relative.isZero = true) (ha : Tree PlainLeaf a) (hb : Tree PlainLeaf b)
    (h : changesAt t [] a b = .ok cs) (h' : changesAt t [] b a = .ok ds) :
    ∃ es, es.Perm ds ∧ List.Forall₂ Respelled (cs.map Change.reversed) es := by
  have hcs := exact_changesAt ha.keyed hb.keyed h
  have hds := exact_changesAt hb.keyed ha.keyed h'
  have hct := changesAt_tidy ha.keyed hb.keyed h
  have hdt := changesAt_tidy hb.keyed ha.keyed h'
  have ckeys : ∀ c ∈ cs, ∀ k ∈ c.path, Hashed k := fun c hc k hk =>
    (((hcs.complete _).mpr ⟨c, hc, rfl⟩).keys ha.keyed hb.keyed k hk).hashed
  have dkeys : ∀ d ∈ ds, ∀ k ∈ d.path, Hashed k := fun d hd k hk =>
    (((hds.complete _).mpr ⟨d, hd, rfl⟩).keys hb.keyed ha.keyed k hk).hashed
  simp only [List.forall₂_map_left_iff]
  refine exists_perm_forall₂ (fun c hc => ?_) (fun d hd => ?_) ?_ ?_
  · obtain ⟨q, hpath, hq, hqa, hqb⟩ := ((hcs.complete _).mpr ⟨c, hc, rfl⟩).mirrored ht ha hb
    obtain ⟨d, hd, rfl⟩ := (hds.complete q).mp hq
    exact ⟨d, hd, (hcs.truthful c hc).respelled (hds.truthful d hd) (hct c hc) (hdt d hd) hpath hqa hqb⟩
  · obtain ⟨q, hpath, hq, hqb, hqa⟩ := ((hds.complete _).mpr ⟨d, hd, rfl⟩).mirrored ht hb ha
    obtain ⟨c, hc, rfl⟩ := (hcs.complete q).mp hq
    exact ⟨c, hc, (hcs.truthful c hc).respelled (hds.truthful d hd) (hct c hc) (hdt d hd)
      (hpath.symm (dkeys d hd) (ckeys c hc)) hqa.symm hqb.symm⟩
  · refine hcs.apart.imp_of_mem fun hc hc' hapart d hd hcd hcd' => ?_
    have back := hcd'.1.symm (ckeys _ hc') (dkeys d hd)
    exact (hcd.1.trans (ckeys _ hc) (dkeys d hd) (ckeys _ hc') back).not_apart hapart
  · refine hds.apart.imp_of_mem fun hd hd' hapart c hc hcd hcd' => ?_
    have back := hcd.1.symm (ckeys c hc) (dkeys _ hd)
    exact (back.trans (dkeys _ hd) (ckeys c hc) (dkeys _ hd') hcd'.1).not_apart hapart

end Reversal

end Diff

end CallSnapshot
