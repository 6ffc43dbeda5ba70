import CallSnapshot.Proofs.Diff.Symmetry

/-!
The reversed changes undo: carried out on the second of two values, they give the first again, but for leaves
that count as equal, the order of entries and the spelling of keys. Sequences are gone through item by item; of a
dictionary each part of the changes turns what is under its own key and leaves the rest as it is.
-/

namespace CallSnapshot.Diff

open Value (Distinct Hashed)

def EqualsItself (t : Tolerance) (v : Value) : Prop := valuesEqual t v v = .ok true

/-- What is to be shown of two values: their changes, reversed, lead from the second to the first, where leaves
equal themselves. -/
def Reversible (t : Tolerance) (a b : Value) : Prop :=
  ∀ cs, changesAt t [] a b = .ok cs → (∀ c ∈ cs, Proper c) ∧
    ∃ r, Leads (cs.map Change.reversed) b r ∧ (Tree (EqualsItself t) a → Matches t r a)

variable {t : Tolerance} {a b k l v w : Value} {cs ds : List Change}

lemma reversed_createFrom (p : List Value) (i : ℕ) (ys : List Value) :
    (createFrom p i ys).map Change.reversed = removeFrom p i ys := by
  induction ys generalizing i with
  | nil => rfl
  | cons y ys ih => rw [createFrom, removeFrom, List.map_cons, ih, Change.reversed, ChangeKind.reversed]

lemma reversed_removeFrom (p : List Value) (i : ℕ) (xs : List Value) :
    (removeFrom p i xs).map Change.reversed = createFrom p i xs := by
  induction xs generalizing i with
  | nil => rfl
  | cons x xs ih => rw [createFrom, removeFrom, List.map_cons, ih, Change.reversed, ChangeKind.reversed]

lemma reversed_below (p : List Value) (cs : List Change) :
    (cs.map (Change.below p)).map Change.reversed = (cs.map Change.reversed).map (Change.below p) := by
  simp only [List.map_map]
  rfl

lemma proper_reversed (h : ∀ c ∈ cs, Proper c) : ∀ c ∈ cs.map Change.reversed, Proper c := by
  intro c hc hnil
  obtain ⟨d, hd, rfl⟩ := List.mem_map.mp hc
  rw [Change.reversed, h d hd hnil]
  rfl

lemma Tree.matches_self (h : Tree (EqualsItself t) v) : Matches t v v :=
  Diff.matches_self (fun h hv => h.of_holds hv) (fun h hc => h.leaf_of_none hc) h.keyed h

lemma hashed_copyable (h : Hashed v) : Copyable v := by
  induction h with
  | atom h => cases h <;> rfl
  | duration => rfl
  | tuple _ ih => exact copyableIn_eq_ok ih
  | frozenset _ _ ih => exact copyableIn_eq_ok ih

lemma PlainLeaf.copyable (h : PlainLeaf v) : Copyable v := by
  cases h with
  | hashed h => exact hashed_copyable h
  | set h _ => exact copyableIn_eq_ok fun x hx => hashed_copyable (h x hx)

lemma Tree.copies (h : Tree PlainLeaf v) : Tree Copyable v := h.mono fun _ => PlainLeaf.copyable

lemma leaf_reversible (ht : t.relative.isZero = true) (ha : Tree PlainLeaf a) (hb : Tree PlainLeaf b)
    (hc : container? a = none ∨ container? a ≠ container? b) : Reversible t a b := by
  intro cs h
  rw [changesAt_leaf [] hc, leaf] at h
  obtain ⟨same, hsame, h⟩ := bind_eq_ok.mp h
  obtain rfl := Except.ok.inj h
  cases same with
  | true =>
    obtain ⟨hac, hbc⟩ := containers_none ha.copies hb.copies hc hsame
    rw [(ha.leaf_of_none hac).valuesEqual_comm ht (hb.leaf_of_none hbc)] at hsame
    exact ⟨by simp, b, ⟨b, rfl, rfl⟩, fun _ => .leaf hbc hac hsame⟩
  | false =>
    refine ⟨by simp [Proper], a, ⟨a, ?_, rfl⟩, fun hself => hself.matches_self⟩
    have hcopy : copyable a = .ok () := ha.copies.copyable
    simp [Change.reversed, ChangeKind.reversed, additions, isRemoval, applyAll, applyAt, hcopy, bind, Except.bind]

section Items

variable {seq : List Value → Value} {xs ys rs : List Value} {i : ℕ}

lemma changesItems_reversed (ih : ∀ x ∈ xs, ∀ y ∈ ys, Reversible t x y) (hx : ∀ x ∈ xs, Copyable x)
    (h : changesItems t [] i xs ys = .ok cs) : ∃ rs, Sweep i ys (cs.map Change.reversed) rs ∧
      List.Forall₂ (fun r x => Tree (EqualsItself t) x → Matches t r x) rs xs := by
  induction xs generalizing ys i cs with
  | nil =>
    obtain rfl : createFrom [] i ys = cs := by simpa [changesItems] using h
    rw [reversed_createFrom]
    exact ⟨[], .remove i ys, .nil⟩
  | cons x xs ihxs =>
    cases ys with
    | nil =>
      obtain rfl : removeFrom [] i (x :: xs) = cs := by simpa [changesItems] using h
      rw [reversed_removeFrom]
      exact ⟨x :: xs, .create hx, List.forall₂_same.mpr fun x _ hx => hx.matches_self⟩
    | cons y ys =>
      simp only [List.forall_mem_cons] at ih hx
      obtain ⟨inner, rest, hinner, hrest, rfl⟩ := changesItems_cons h
      obtain ⟨hproper, r, hleads, hr⟩ := ih.1.1 inner hinner
      obtain ⟨rs, hsweep, hrs⟩ := ihxs (fun x' hx' y' hy' => (ih.2 x' hx').2 y' hy') hx.2 hrest
      rw [List.map_append, reversed_below]
      exact ⟨r :: rs, .item (proper_reversed hproper) hleads hsweep, .cons hr hrs⟩

lemma Sequence.matches (hs : Sequence seq) (h : List.Forall₂ (Matches t) rs xs) : Matches t (seq rs) (seq xs) := by
  obtain ⟨c, hc⟩ : ∃ c, ∀ zs, container? (seq zs) = some c := by cases hs <;> exact ⟨_, fun _ => rfl⟩
  have found : ∀ {us vs : List Value}, us.length = vs.length → ∀ k v, Holds (seq us) k v →
      (child? k (seq vs)).isSome := by
    intro us vs hlen k v hv
    obtain ⟨j, rfl, hj⟩ := hs.holds_iff.mp hv
    have hlt : j < vs.length := hlen ▸ (List.getElem?_eq_some_iff.mp hj).1
    rw [hs.child?_int, List.getElem?_eq_getElem hlt, Option.isSome_some]
  refine .container (hc rs) (hc xs) (found h.length_eq) (found h.length_eq.symm) fun k r x hr hx => ?_
  obtain ⟨j, rfl, hj⟩ := hs.holds_iff.mp hr
  rw [hs.child?_int] at hx
  obtain ⟨hjr, rfl⟩ := List.getElem?_eq_some_iff.mp hj
  obtain ⟨hjx, rfl⟩ := List.getElem?_eq_some_iff.mp hx
  exact (List.forall₂_iff_get.mp h).2 j hjr hjx

lemma sequence_reversible (hs : Sequence seq) (hxn : (xs.length : ℤ) < sizeLimit)
    (hyn : (ys.length : ℤ) < sizeLimit) (ih : ∀ x ∈ xs, ∀ y ∈ ys, Reversible t x y)
    (hx : ∀ x ∈ xs, Copyable x) : Reversible t (seq xs) (seq ys) := by
  intro cs h
  have h : changesItems t [] 0 xs ys = .ok cs := by
    cases hs <;> simpa [changesAt, container?, itemsOf] using h
  obtain ⟨rs, hsweep, hrs⟩ := changesItems_reversed ih hx h
  obtain ⟨ms, hleads⟩ := hsweep.leads hs (by simpa using hyn) (by simpa [hrs.length_eq] using hxn)
  refine ⟨fun c hc hnil => ?_, seq rs, ⟨seq ms, hleads [] rfl⟩, fun hself => hs.matches ?_⟩
  · exact absurd hnil (hsweep.path_ne_nil c.reversed (List.mem_map_of_mem hc))
  · have hitems : ∀ x ∈ xs, Tree (EqualsItself t) x := by
      cases hs with
      | list => exact tree_list hself
      | tuple => exact tree_tuple hself
    rw [List.forall₂_iff_get] at hrs ⊢
    exact ⟨hrs.1, fun j hj hj' => hrs.2 j hj hj' (hitems _ (List.get_mem ..))⟩

end Items

section Entries

variable {D es fs : List (Value × Value)} {here : List Change} {o o' : Option Value}

structure WellKeyed (D : List (Value × Value)) : Prop where
  keys : ∀ k ∈ D.map Prod.fst, k.Element
  distinct : Distinct (D.map Prod.fst)

/-- Entries that are the same as others but for what is under a key. -/
structure Turned (k : Value) (o : Option Value) (D D' : List (Value × Value)) : Prop where
  wellKeyed : WellKeyed D'
  here : lookup? k D' = o
  elsewhere : ∀ l, l.Element → l.eq k = false → lookup? l D' = lookup? l D

/-- Changes that make of what a dictionary has under a key something else, and leave all else as it is. -/
def Turns (cs : List Change) (k : Value) (o o' : Option Value) : Prop :=
  ∀ D, WellKeyed D → lookup? k D = o → ∃ D', applyAll cs (.dict D) = .ok (.dict D') ∧ Turned k o' D D'

lemma WellKeyed.key (h : WellKeyed D) {e : Value × Value} (he : e ∈ D) : e.1.Element :=
  h.keys _ (List.mem_map_of_mem he)

lemma WellKeyed.of_dict {Leaf : Value → Prop} (h : Tree Leaf (.dict es)) : WellKeyed es := by
  obtain ⟨hk, hd, -⟩ := tree_dict h
  exact ⟨by simpa using fun k v he => hk (k, v) he, hd⟩

lemma turns_nil : Turns [] k o o := fun D hD hk => ⟨D, rfl, hD, hk, fun _ _ _ => rfl⟩

lemma turns_below (hk : k.Element) (hp : ∀ c ∈ cs, Proper c) (h : applyAll cs w = .ok v) :
    Turns (cs.map (Change.below [k])) k (some w) (some v) := by
  intro D hD hw
  obtain ⟨pre, l, post, rfl, hl, hpre⟩ := exists_entry hw
  have hkey : l.Element := hD.key (List.mem_append_right pre List.mem_cons_self)
  refine ⟨pre ++ (l, v) :: post, ?_, ⟨by simpa using hD.keys, by simpa using hD.distinct⟩,
    lookup?_append hl hpre v, fun m hm hne => ?_⟩
  · rw [applyAll_below (place_entry hk hl hpre) hp, h]
    rfl
  · have hlm : l.eq m = false := eq_of_equal hk.hashed hkey.hashed hm.hashed hl ▸ hne
    rw [lookup?_skip hlm, lookup?_skip hlm]

lemma turns_create (hk : k.Element) (hw : Copyable w) : Turns [⟨[k], .create, w, v⟩] k none (some w) := by
  intro D hD hnone
  have hpre := lookup?_eq_none_iff.mp hnone
  refine ⟨D ++ [(k, w)], ?_, ⟨?_, ?_⟩, lookup?_append hk.eq_refl hpre w, fun m hm hne => ?_⟩
  · simp only [applyAll, applyAt]
    rw [show copyable w = .ok () from hw, ok_bind, createItem_dict hk hpre, ok_bind]
  · rw [List.map_append, List.forall_mem_append]
    exact ⟨hD.keys, List.forall_mem_singleton.mpr hk⟩
  · rw [List.map_append, Distinct, List.pairwise_append]
    exact ⟨hD.distinct, List.pairwise_singleton .., by simpa using fun k v he => hpre (k, v) he⟩
  · rw [lookup?_skip (hk.hashed.eq_comm hm.hashed ▸ hne), List.append_nil]

lemma turns_remove (hk : k.Element) : Turns [⟨[k], .remove, v, w⟩] k (some a) none := by
  intro D hD hw
  obtain ⟨pre, l, post, rfl, hl, hpre⟩ := exists_entry hw
  have hkey : l.Element := hD.key (List.mem_append_right pre List.mem_cons_self)
  have hsub : (pre ++ post).Sublist (pre ++ (l, a) :: post) := (List.sublist_cons_self _ _).append_left pre
  refine ⟨pre ++ post, ?_, ⟨fun m hm => hD.keys m ((hsub.map _).subset hm), hD.distinct.sublist (hsub.map _)⟩, ?_,
    fun m hm hne => ?_⟩
  · simp only [applyAll, applyAt]
    rw [removeItem_dict hk hl hpre, ok_bind]
  · have hdistinct := hD.distinct
    rw [List.map_append, List.map_cons, Distinct, List.pairwise_append, List.pairwise_cons] at hdistinct
    rw [lookup?_eq_none_iff, List.forall_mem_append]
    refine ⟨hpre, fun e he => ?_⟩
    have hother : e.1.Element := hD.key (hsub.subset (List.mem_append_right pre he))
    rw [eq_of_equal hk.hashed hkey.hashed hother.hashed hl]
    exact hdistinct.2.1.1 _ (List.mem_map_of_mem he)
  · rw [lookup?_skip (eq_of_equal hk.hashed hkey.hashed hm.hashed hl ▸ hne)]

lemma turns_all {qs : List (Value × List Change)} {part : Value × List Change → List Change}
    {o o' : Value × List Change → Option Value} (hk : ∀ q ∈ qs, q.1.Element)
    (hd : qs.Pairwise fun p q => Different p.1 q.1) (h : ∀ q ∈ qs, Turns (part q) q.1 (o q) (o' q))
    (hD : WellKeyed D) (ho : ∀ q ∈ qs, lookup? q.1 D = o q) :
    ∃ D', applyAll (qs.flatMap part) (.dict D) = .ok (.dict D') ∧ WellKeyed D' ∧
      (∀ q ∈ qs, lookup? q.1 D' = o' q) ∧
      ∀ l, l.Element → (∀ q ∈ qs, l.eq q.1 = false) → lookup? l D' = lookup? l D := by
  induction qs generalizing D with
  | nil => exact ⟨D, rfl, hD, nofun, fun _ _ _ => rfl⟩
  | cons q qs ih =>
    simp only [List.forall_mem_cons] at hk h ho
    obtain ⟨hq, hd⟩ := List.pairwise_cons.mp hd
    obtain ⟨D₁, hfirst, hturned⟩ := h.1 D hD ho.1
    have hrest : ∀ p ∈ qs, lookup? p.1 D₁ = o p := fun p hp =>
      (hturned.elsewhere p.1 (hk.2 p hp) (hq p hp).2).trans (ho.2 p hp)
    obtain ⟨D', happly, hD', hqs, hother⟩ := ih hk.2 hd h.2 hturned.wellKeyed hrest
    refine ⟨D', ?_, hD', List.forall_mem_cons.mpr ⟨?_, hqs⟩, fun l hl hne => ?_⟩
    · rw [List.flatMap_cons, applyAll_append, hfirst]
      exact happly
    · exact (hother q.1 hk.1 fun p hp => (hq p hp).1).trans hturned.here
    · rw [List.forall_mem_cons] at hne
      exact (hother l hl hne.2).trans (hturned.elsewhere l hl hne.1)

/-- What there is under a key again, for what was there. -/
def Restores (t : Tolerance) : Option Value → Option Value → Prop :=
  Option.Rel fun r v => Tree (EqualsItself t) v → Matches t r v

lemma Restores.isSome_eq (h : Restores t o o') : o.isSome = o'.isSome := by
  cases h <;> rfl

lemma Block.turns (ha : Tree PlainLeaf (.dict es)) (hb : Tree PlainLeaf (.dict fs))
    (ih : ∀ e ∈ es, ∀ f ∈ fs, Reversible t e.2 f.2) (h : Block t (.dict es) (.dict fs) k here) :
    k.Element ∧ ∃ m r, Turns (additions (here.map Change.reversed)) k (lookup? k fs) m ∧
      Turns (removals (here.map Change.reversed)) k m r ∧ Restores t r (lookup? k es) := by
  obtain ⟨hek, -, hev⟩ := tree_dict ha
  obtain ⟨hfk, -, hfv⟩ := tree_dict hb
  cases h with
  | @common v w ds hv hw h =>
    have he := holds_dict.mp hv
    have hes : lookup? k es = some v := ha.keyed.child?_of_holds hv
    have hfs : lookup? k fs = some w := hw
    obtain ⟨f, hf, -, rfl⟩ := lookup?_mem hfs
    obtain ⟨hproper, r, ⟨m, hadd, hrem⟩, hr⟩ := ih _ he f hf ds h
    have proper := proper_reversed hproper
    have hk : k.Element := hek _ he
    rw [reversed_below, additions_below, removals_below, hes, hfs]
    exact ⟨hk, some m, some r, turns_below hk (fun c hc => proper c (mem_of_additions hc)) hadd,
      turns_below hk (fun c hc => proper c (mem_of_removals hc)) hrem, .some hr⟩
  | @lost v hv hw =>
    have he := holds_dict.mp hv
    have hes : lookup? k es = some v := ha.keyed.child?_of_holds hv
    have hfs : lookup? k fs = none := hw
    have hk : k.Element := hek _ he
    rw [hes, hfs]
    exact ⟨hk, some v, some v, turns_create hk (hev _ he).copies.copyable, turns_nil,
      .some fun hself => hself.matches_self⟩
  | @gained w hv hw =>
    have hes : lookup? k es = none := hv
    have hfs : lookup? k fs = some w := hb.keyed.child?_of_holds hw
    have hk : k.Element := hfk _ (holds_dict.mp hw)
    rw [hes, hfs]
    exact ⟨hk, some w, none, turns_nil, turns_remove hk, .none⟩

lemma dict_matches {rs : List (Value × Value)} (hrs : WellKeyed rs) (hes : WellKeyed es)
    (hself : ∀ e ∈ es, Tree (EqualsItself t) e.2) (h : ∀ l, l.Element → Restores t (lookup? l rs) (lookup? l es)) :
    Matches t (.dict rs) (.dict es) := by
  have found : ∀ {D k v}, WellKeyed D → Holds (.dict D) k v → k.Element ∧ lookup? k D = some v := by
    intro D k v hD hv
    have he := holds_dict.mp hv
    exact ⟨hD.key he, lookup?_entry hD.distinct he (hD.key he).eq_refl⟩
  refine .container rfl rfl (fun k v hv => ?_) (fun k w hw => ?_) fun k v w hv hw => ?_
  · obtain ⟨hk, hl⟩ := found hrs hv
    rw [child?, ← (h k hk).isSome_eq, hl, Option.isSome_some]
  · obtain ⟨hk, hl⟩ := found hes hw
    rw [child?, (h k hk).isSome_eq, hl, Option.isSome_some]
  · obtain ⟨hk, hl⟩ := found hrs hv
    have hw : lookup? k es = some w := hw
    have hrel := h k hk
    rw [hl, hw] at hrel
    obtain ⟨e, he, -, rfl⟩ := lookup?_mem hw
    cases hrel with
    | some hr => exact hr (hself e he)

lemma lookup?_uncovered {keys : List Value} (hes : WellKeyed es) (hfs : WellKeyed fs) (hekeys : ∀ e ∈ es, e.1 ∈ keys)
    (hfkeys : ∀ f ∈ fs, lookup? f.1 es = none → f.1 ∈ keys) (hl : l.Element) (hother : ∀ k ∈ keys, l.eq k = false) :
    lookup? l es = none ∧ lookup? l fs = none := by
  have hnone : ∀ e ∈ es, e.1.eq l = false := fun e he =>
    (hes.key he).hashed.eq_comm hl.hashed ▸ hother _ (hekeys e he)
  refine ⟨lookup?_eq_none_iff.mpr hnone, lookup?_eq_none_iff.mpr fun f hf => ?_⟩
  rw [(hfs.key hf).hashed.eq_comm hl.hashed]
  cases hfound : lookup? f.1 es with
  | none => exact hother _ (hfkeys f hf hfound)
  | some v =>
    obtain ⟨e, he, heq, -⟩ := lookup?_mem hfound
    rw [eq_of_equal (hfs.key hf).hashed (hes.key he).hashed hl.hashed heq]
    exact hnone e he

/-- Where all is back under some keys, and only they matter, all is back. -/
lemma restores_all {rs : List (Value × Value)} {keys : List Value} (hrs : WellKeyed rs) (hes : WellKeyed es)
    (hfs : WellKeyed fs) (hk : ∀ k ∈ keys, k.Element) (hekeys : ∀ e ∈ es, e.1 ∈ keys)
    (hfkeys : ∀ f ∈ fs, lookup? f.1 es = none → f.1 ∈ keys)
    (here : ∀ k ∈ keys, Restores t (lookup? k rs) (lookup? k es))
    (elsewhere : ∀ l, l.Element → (∀ k ∈ keys, l.eq k = false) → lookup? l rs = lookup? l fs) (hl : l.Element) :
    Restores t (lookup? l rs) (lookup? l es) := by
  by_cases hkey : ∃ k ∈ keys, l.eq k = true
  · obtain ⟨k, hkey, heq⟩ := hkey
    rw [lookup?_congr (fun e he => (hrs.key he).hashed) hl.hashed (hk k hkey).hashed heq,
      lookup?_congr (fun e he => (hes.key he).hashed) hl.hashed (hk k hkey).hashed heq]
    exact here k hkey
  · push Not at hkey
    have hother : ∀ k ∈ keys, l.eq k = false := fun k hk => by simpa using hkey k hk
    obtain ⟨hles, hlfs⟩ := lookup?_uncovered hes hfs hekeys hfkeys hl hother
    rw [elsewhere l hl hother, hles, hlfs]
    exact .none

lemma dict_reversible (ha : Tree PlainLeaf (.dict es)) (hb : Tree PlainLeaf (.dict fs))
    (ih : ∀ e ∈ es, ∀ f ∈ fs, Reversible t e.2 f.2) : Reversible t (.dict es) (.dict fs) := by
  intro cs h
  obtain ⟨keys, blocks, hblocks, hdiff, hakeys, hbkeys⟩ := changesAt_blocks ha.keyed hb.keyed rfl rfl h
  obtain rfl := hblocks.keys
  rw [List.pairwise_map] at hdiff
  have each : ∀ p : Value × List Change, ∃ m r, p ∈ blocks → p.1.Element ∧
      Turns (additions (p.2.map Change.reversed)) p.1 (lookup? p.1 fs) m ∧
      Turns (removals (p.2.map Change.reversed)) p.1 m r ∧ Restores t r (lookup? p.1 es) := by
    intro p
    by_cases hp : p ∈ blocks
    · obtain ⟨hk, m, r, hturns⟩ := (hblocks.each p hp).turns ha hb ih
      exact ⟨m, r, fun _ => ⟨hk, hturns⟩⟩
    · exact ⟨none, none, fun h => absurd h hp⟩
  choose m r hturns using each
  -- Removals come after all else and backwards, so the parts are run through twice.
  obtain ⟨ms, hadd, hms, hmid, hkept⟩ := turns_all (fun p hp => (hturns p hp).1) hdiff
    (fun p hp => (hturns p hp).2.1) (.of_dict hb) fun _ _ => rfl
  obtain ⟨rs, hrem, hrs, hend, hleft⟩ := turns_all (fun p hp => (hturns p (List.mem_reverse.mp hp)).1)
    (List.pairwise_reverse.mpr (hdiff.imp Different.symm))
    (fun p hp => (hturns p (List.mem_reverse.mp hp)).2.2.1) hms fun p hp => hmid p (List.mem_reverse.mp hp)
  have hall : cs.map Change.reversed = blocks.flatMap fun p => p.2.map Change.reversed := by
    rw [hblocks.all, List.map_flatMap]
  refine ⟨fun c hc hnil => ?_, .dict rs, ⟨.dict ms, ?_, ?_⟩, fun hself => ?_⟩
  · rw [hblocks.all, List.mem_flatMap] at hc
    obtain ⟨p, hp, hc⟩ := hc
    obtain ⟨q, hq⟩ := (hblocks.each p hp).starts c hc
    cases hq.symm.trans hnil
  · rw [hall, additions_flatMap]
    exact hadd
  · rw [hall, removals_flatMap]
    exact hrem
  · refine dict_matches hrs (.of_dict ha) (tree_dict hself).2.2 fun l hl => ?_
    refine restores_all hrs (.of_dict ha) (.of_dict hb) ?_ (fun e he => hakeys _ _ (.dict he))
      (fun f hf hchild => hbkeys _ _ (.dict hf) hchild) ?_ (fun l hl hother => ?_) hl
    · exact List.forall_mem_map.mpr fun p hp => (hturns p hp).1
    · refine List.forall_mem_map.mpr fun p hp => ?_
      rw [hend p (List.mem_reverse.mpr hp)]
      exact (hturns p hp).2.2.2
    · rw [List.forall_mem_map] at hother
      rw [hleft l hl fun p hp => hother p (List.mem_reverse.mp hp), hkept l hl hother]

end Entries

lemma tree_reversible (ht : t.relative.isZero = true) (ha : Tree PlainLeaf a) (hb : Tree PlainLeaf b) :
    Reversible t a b := by
  have hb' := hb
  induction ha generalizing b with
  | leaf hc h => exact leaf_reversible ht (.leaf hc h) hb (.inl hc)
  | @list xs hn h ih =>
    cases hb with
    | @list ys hn' h' =>
      exact sequence_reversible .list hn hn' (fun x hx y hy => ih x hx (h' y hy) (h' y hy))
        fun x hx => (h x hx).copies.copyable
    | _ => exact leaf_reversible ht (.list hn h) hb' (.inr (by simp_all [container?]))
  | @tuple xs hn h ih =>
    cases hb with
    | @tuple ys hn' h' =>
      exact sequence_reversible .tuple hn hn' (fun x hx y hy => ih x hx (h' y hy) (h' y hy))
        fun x hx => (h x hx).copies.copyable
    | _ => exact leaf_reversible ht (.tuple hn h) hb' (.inr (by simp_all [container?]))
  | @dict es hk hd hv ih =>
    cases hb with
    | dict hk' hd' hv' =>
      exact dict_reversible (.dict hk hd hv) hb' fun e he f hf => ih e he (hv' f hf) (hv' f hf)
    | _ => exact leaf_reversible ht (.dict hk hd hv) hb' (.inr (by simp_all [container?]))

/-- The changes of one direction are those of the other, reversed: in another order and at paths along equal keys.
Carried out on the second value, the reversed ones give what matches the first, where leaves equal themselves. -/
theorem changes_reversed (ht : t.relative.isZero = true) (ha : Tree PlainLeaf a)
    (hb : Tree PlainLeaf b) (h : changes t a b = .ok cs) (h' : changes t b a = .ok ds) :
    (∃ es, es.Perm ds ∧ List.Forall₂ Respelled (cs.map Change.reversed) es) ∧
      ∃ r, apply b (cs.map Change.reversed) = .ok r ∧ (Tree (EqualsItself t) a → Matches t r a) := by
  refine ⟨changesAt_mirrored ht ha hb h h', ?_⟩
  obtain ⟨-, r, ⟨m, hadd, hrem⟩, hr⟩ := tree_reversible ht ha hb cs h
  refine ⟨r, ?_, hr⟩
  have hcopy : copyable b = .ok () := hb.copies.copyable
  rw [apply, hcopy, ok_bind]
  change applyAll (additions (cs.map Change.reversed) ++ removals (cs.map Change.reversed)) b = .ok r
  rw [applyAll_append, hadd]
  exact hrem

def restored : List Change :=
  [⟨[.bool true, .int 0], .change, .int 1, .str "1"⟩, ⟨[.bool true, .int 1], .create, .null, .null⟩,
    ⟨[.str "y"], .remove, .null, .list []⟩, ⟨[.str "x"], .create, .tuple [], .null⟩]

theorem changes_reversed_between :
    (∃ es, es.Perm restored ∧ List.Forall₂ Respelled (between.map Change.reversed) es) ∧
      ∃ r, apply after (between.map Change.reversed) = .ok r ∧ Matches exact r before := by
  have key : ∀ {v}, Value.Atom v → v.IsNumber → v.Element := .atom
  have tree : ∀ {Leaf : Value → Prop}, Leaf (.int 1) → Leaf .null → Tree Leaf before := by
    intro Leaf hone hnull
    refine .dict ?_ ?_ ?_
    · simpa using ⟨key (.int 1) trivial, key (.str "x") trivial⟩
    · simp [Distinct, Value.eq, Value.quantityEq, Value.complexParts?, Value.quantity?]
    · have items : ∀ x ∈ [Value.int 1, .null], Tree Leaf x := by simpa using ⟨.leaf rfl hone, .leaf rfl hnull⟩
      simpa using ⟨.list (by norm_num [sizeLimit]) items, .tuple (by norm_num [sizeLimit]) (by simp)⟩
  have other : Tree PlainLeaf after := by
    refine .dict ?_ ?_ ?_
    · simpa using ⟨key (.bool true) trivial, key (.str "y") trivial⟩
    · simp [Distinct, Value.eq, Value.quantityEq, Value.complexParts?, Value.quantity?]
    · have items : ∀ x ∈ [Value.str "1"], Tree PlainLeaf x := by simpa using .leaf rfl (.hashed (.atom (.str "1")))
      simpa using ⟨.list (by norm_num [sizeLimit]) items, .list (by norm_num [sizeLimit]) (by simp)⟩
  have there : changes exact before after = .ok between := by cbv
  have back : changes exact after before = .ok restored := by cbv
  obtain ⟨hback, r, happly, hr⟩ :=
    changes_reversed (t := exact) rfl (tree (.hashed (.atom (.int 1))) (.hashed (.atom .null))) other there back
  exact ⟨hback, r, happly, hr (tree (by cbv) (by cbv))⟩

end CallSnapshot.Diff
