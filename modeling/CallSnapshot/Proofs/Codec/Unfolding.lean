import CallSnapshot.Codec.Encode
import CallSnapshot.Proofs.Steps

/-!
The data of a value with links are those of a tree: each link is replaced by what it leads to, save
where it leads back to an object that it lies in.
-/

namespace CallSnapshot

namespace Value

lemma sizeOf_entry {α β : Type} [SizeOf α] [SizeOf β] {e : α × β} {es : List (α × β)} (h : e ∈ es) :
    sizeOf e.1 < sizeOf es ∧ sizeOf e.2 < sizeOf es := by
  have hlt := List.sizeOf_lt_of_mem h
  have heq : sizeOf e = 1 + sizeOf e.1 + sizeOf e.2 := rfl
  omega

/-- A value with trees in the places of its links. -/
def graft (tree : ℕ → Value) : Value → Value
  | .list xs => .list (xs.map fun x => x.graft tree)
  | .tuple xs => .tuple (xs.map fun x => x.graft tree)
  | .set xs => .set (xs.map fun x => x.graft tree)
  | .frozenset xs => .frozenset (xs.map fun x => x.graft tree)
  | .dict es => .dict (es.map fun e => (e.1.graft tree, e.2.graft tree))
  | .extended kind v => .extended kind (v.graft tree)
  | .member cls mixin name v => .member cls mixin name (v.graft tree)
  | .object cls attrs => .object cls (attrs.map fun e => (e.1, e.2.graft tree))
  | .array element shape xs => .array element shape (xs.map fun x => x.graft tree)
  | .scalar element v => .scalar element (v.graft tree)
  | .link a => tree a
  | v => v
decreasing_by
  any_goals decreasing_tactic
  all_goals
    have hlt := sizeOf_entry ‹_›
    simp only [dict.sizeOf_spec, object.sizeOf_spec]
    omega

def links : Value → List ℕ
  | .list xs => xs.flatMap fun x => x.links
  | .tuple xs => xs.flatMap fun x => x.links
  | .set xs => xs.flatMap fun x => x.links
  | .frozenset xs => xs.flatMap fun x => x.links
  | .dict es => es.flatMap fun e => e.1.links ++ e.2.links
  | .extended _ v => v.links
  | .member _ _ _ v => v.links
  | .object _ attrs => attrs.flatMap fun e => e.2.links
  | .array _ _ xs => xs.flatMap fun x => x.links
  | .scalar _ v => v.links
  | .link a => [a]
  | _ => []
decreasing_by
  any_goals decreasing_tactic
  all_goals
    have hlt := sizeOf_entry ‹_›
    simp only [dict.sizeOf_spec, object.sizeOf_spec]
    omega

structure Leaf (v : Value) : Prop where
  graft : ∀ tree, v.graft tree = v
  links : v.links = []
  data : ∀ f g, Codec.encodeWith f v = Codec.encodeWith g v

@[elab_as_elim]
lemma induct {motive : Value → Prop} (list : ∀ xs, (∀ x ∈ xs, motive x) → motive (.list xs))
    (tuple : ∀ xs, (∀ x ∈ xs, motive x) → motive (.tuple xs))
    (set : ∀ xs, (∀ x ∈ xs, motive x) → motive (.set xs))
    (frozenset : ∀ xs, (∀ x ∈ xs, motive x) → motive (.frozenset xs))
    (dict : ∀ es, (∀ e ∈ es, motive e.1) → (∀ e ∈ es, motive e.2) → motive (.dict es))
    (extended : ∀ kind v, motive v → motive (.extended kind v))
    (member : ∀ cls mixin name v, motive v → motive (.member cls mixin name v))
    (object : ∀ cls attrs, (∀ e ∈ attrs, motive e.2) → motive (.object cls attrs))
    (array : ∀ element shape xs, (∀ x ∈ xs, motive x) → motive (.array element shape xs))
    (scalar : ∀ element v, motive v → motive (.scalar element v))
    (link : ∀ a, motive (.link a)) (leaf : ∀ v, Leaf v → motive v) (v : Value) : motive v := by
  induction v using links.induct with
  | case1 xs ih => exact list xs ih
  | case2 xs ih => exact tuple xs ih
  | case3 xs ih => exact set xs ih
  | case4 xs ih => exact frozenset xs ih
  | case5 es ihk ihv => exact dict es ihk ihv
  | case6 kind v ih => exact extended kind v ih
  | case7 cls mixin name v ih => exact member cls mixin name v ih
  | case8 cls attrs ih => exact object cls attrs ih
  | case9 element shape xs ih => exact array element shape xs ih
  | case10 element v ih => exact scalar element v ih
  | case11 a => exact link a
  | case12 v hlist htuple hset hfrozenset hdict hextended hmember hobject harray hscalar hlink =>
    cases v with
    | list xs => exact (hlist xs rfl).elim
    | tuple xs => exact (htuple xs rfl).elim
    | set xs => exact (hset xs rfl).elim
    | frozenset xs => exact (hfrozenset xs rfl).elim
    | dict es => exact (hdict es rfl).elim
    | extended kind v => exact (hextended kind v rfl).elim
    | member cls mixin name v => exact (hmember cls mixin name v rfl).elim
    | object cls attrs => exact (hobject cls attrs rfl).elim
    | array element shape xs => exact (harray element shape xs rfl).elim
    | scalar element v => exact (hscalar element v rfl).elim
    | link a => exact (hlink a rfl).elim
    | _ =>
      refine leaf _ ⟨fun _ => ?_, ?_, fun _ _ => ?_⟩
      · rw [Value.graft] <;> intros <;> contradiction
      · rw [Value.links] <;> intros <;> contradiction
      · rw [Codec.encodeWith, Codec.encodeWith]

variable {s t : ℕ → Value}

lemma graft_congr {v : Value} (h : ∀ a ∈ v.links, s a = t a) : v.graft s = v.graft t := by
  induction v using induct with
  | list xs ih | tuple xs ih | set xs ih | frozenset xs ih | array _ _ xs ih =>
    simp only [links, List.mem_flatMap, forall_exists_index, and_imp] at h
    simp only [graft]
    congr 1
    exact List.map_congr_left fun x hx => ih x hx fun a ha => h a x hx ha
  | dict es ihk ihv =>
    simp only [links, List.mem_flatMap, List.mem_append, forall_exists_index, and_imp] at h
    simp only [graft]
    congr 1
    refine List.map_congr_left fun e he => ?_
    rw [ihk e he fun a ha => h a e he (.inl ha), ihv e he fun a ha => h a e he (.inr ha)]
  | extended _ v ih | member _ _ _ v ih | scalar _ v ih =>
    simp only [links] at h
    simp only [graft, ih h]
  | object _ attrs ih =>
    simp only [links, List.mem_flatMap, forall_exists_index, and_imp] at h
    simp only [graft]
    congr 1
    refine List.map_congr_left fun e he => ?_
    rw [ih e he fun a ha => h a e he ha]
  | link a =>
    simp only [graft]
    exact h a (by simp [links])
  | leaf v hv => rw [hv.graft, hv.graft]

lemma graft_of_links_eq_nil {v : Value} (h : v.links = []) : v.graft t = v := by
  induction v using induct with
  | list xs ih | tuple xs ih | set xs ih | frozenset xs ih | array _ _ xs ih =>
    simp only [links, List.flatMap_eq_nil_iff] at h
    simp only [graft]
    congr 1
    exact (List.map_congr_left fun x hx => ih x hx (h x hx)).trans (List.map_id xs)
  | dict es ihk ihv =>
    simp only [links, List.flatMap_eq_nil_iff, List.append_eq_nil_iff] at h
    simp only [graft]
    congr 1
    refine (List.map_congr_left fun e he => ?_).trans (List.map_id es)
    rw [ihk e he (h e he).1, ihv e he (h e he).2, id]
  | extended _ v ih | member _ _ _ v ih | scalar _ v ih =>
    simp only [links] at h
    simp only [graft, ih h]
  | object _ attrs ih =>
    simp only [links, List.flatMap_eq_nil_iff] at h
    simp only [graft]
    congr 1
    refine (List.map_congr_left fun e he => ?_).trans (List.map_id attrs)
    rw [ih e he (h e he), id]
  | link a => simp [links] at h
  | leaf v hv => exact hv.graft t

lemma links_graft {v : Value} (h : ∀ a ∈ v.links, (t a).links = []) : (v.graft t).links = [] := by
  induction v using induct with
  | list xs ih | tuple xs ih | set xs ih | frozenset xs ih | array _ _ xs ih =>
    simp only [links, List.mem_flatMap, forall_exists_index, and_imp] at h
    simp only [graft, links, List.flatMap_map, List.flatMap_eq_nil_iff]
    exact fun x hx => ih x hx fun a ha => h a x hx ha
  | dict es ihk ihv =>
    simp only [links, List.mem_flatMap, List.mem_append, forall_exists_index, and_imp] at h
    simp only [graft, links, List.flatMap_map, List.flatMap_eq_nil_iff, List.append_eq_nil_iff]
    exact fun e he => ⟨ihk e he fun a ha => h a e he (.inl ha), ihv e he fun a ha => h a e he (.inr ha)⟩
  | extended _ v ih | member _ _ _ v ih | scalar _ v ih =>
    simp only [links] at h
    simp only [graft, links, ih h]
  | object _ attrs ih =>
    simp only [links, List.mem_flatMap, forall_exists_index, and_imp] at h
    simp only [graft, links, List.flatMap_map, List.flatMap_eq_nil_iff]
    exact fun e he => ih e he fun a ha => h a e he ha
  | link a =>
    simp only [graft]
    exact h a (by simp [links])
  | leaf v hv => rw [hv.graft, hv.links]

/-- A value that is neither a text nor a number. -/
def Mute (v : Value) : Prop := v.textOf? = none ∧ ∀ x, v ≠ .float x

lemma textOf?_graft (ht : ∀ a, (t a).Mute) (v : Value) : (v.graft t).textOf? = v.textOf? := by
  induction v using induct with
  | extended _ v ih | scalar _ v ih => simp only [graft, textOf?, ih]
  | member _ mixin _ v ih => cases mixin <;> simp only [graft, textOf?, ih]
  | link a => simpa only [graft, textOf?] using (ht a).1
  | leaf v hv => rw [hv.graft]
  | _ => simp only [graft, textOf?]

lemma graft_ne_float (ht : ∀ a, (t a).Mute) {v : Value} (hv : ∀ x, v ≠ .float x) (x : Binary64) :
    v.graft t ≠ .float x := by
  cases v using induct with
  | link a => simpa only [graft] using (ht a).2 x
  | leaf v hl => simpa only [hl.graft] using hv x
  | _ => simp only [graft, ne_eq, reduceCtorEq, not_false_eq_true]

/-- A container or an instance: what is known again when it is met within itself. -/
inductive Vessel : Value → Prop
  | list (xs : List Value) : Vessel (.list xs)
  | tuple (xs : List Value) : Vessel (.tuple xs)
  | set (xs : List Value) : Vessel (.set xs)
  | frozenset (xs : List Value) : Vessel (.frozenset xs)
  | dict (es : List (Value × Value)) : Vessel (.dict es)
  | array (element : String) (shape : List ℕ) (xs : List Value) : Vessel (.array element shape xs)
  | object (cls : Class) (attrs : List (String × Value)) : Vessel (.object cls attrs)
  | extended (kind : Extension) {v : Value} (h : Vessel v) : Vessel (.extended kind v)

lemma Vessel.graft {v : Value} (h : Vessel v) : Vessel (v.graft t) := by
  induction h with
  | list => rw [Value.graft]; exact .list _
  | tuple => rw [Value.graft]; exact .tuple _
  | set => rw [Value.graft]; exact .set _
  | frozenset => rw [Value.graft]; exact .frozenset _
  | dict => rw [Value.graft]; exact .dict _
  | array => rw [Value.graft]; exact .array _ _ _
  | object => rw [Value.graft]; exact .object _ _
  | extended kind _ ih => rw [Value.graft]; exact .extended kind ih

lemma Vessel.mute {v : Value} (h : Vessel v) : v.Mute := by
  refine ⟨?_, by rintro x rfl; cases h⟩
  induction h with
  | extended _ _ ih => simpa only [textOf?] using ih
  | _ => simp only [textOf?]

lemma Vessel.ne_link {v : Value} (h : Vessel v) (a : ℕ) : v ≠ .link a := by
  rintro rfl
  cases h

end Value

namespace Codec

open Value

/-- What stands for a container that is met again within itself. -/
def circularMark : Json := tagged "circular" []

variable {f g : ℕ → Except Fault Json} {k : Value → Value}

lemma encodeItems_congr {xs ys : List Value} (h : List.Forall₂ (fun x y => encodeWith f x = encodeWith g y) xs ys) :
    encodeItems f xs = encodeItems g ys := by
  induction h with
  | nil => rfl
  | cons hxy _ ih => rw [encodeItems, encodeItems, hxy, ih]

lemma encodeEntries_congr {es fs : List (Value × Value)}
    (h : List.Forall₂ (fun e e' => encodeWith f e.1 = encodeWith g e'.1 ∧ encodeWith f e.2 = encodeWith g e'.2) es fs) :
    encodeValues f es = encodeValues g fs ∧ encodeEntries f es = encodeEntries g fs := by
  induction h with
  | nil => exact ⟨rfl, rfl⟩
  | cons he _ ih =>
    rw [encodeValues, encodeValues, encodeEntries, encodeEntries, he.1, he.2, ih.1, ih.2]
    exact ⟨rfl, rfl⟩

lemma encodeAttrs_congr (c : Class) {as bs : List (String × Value)}
    (h : List.Forall₂ (fun a b => a.1 = b.1 ∧ encodeWith f a.2 = encodeWith g b.2) as bs) :
    encodeAttrs f c as = encodeAttrs g c bs := by
  induction h with
  | nil => rfl
  | cons hab _ ih => rw [encodeAttrs, encodeAttrs, hab.1, hab.2, ih]

lemma plainKeys?_congr {es fs : List (Value × Value)}
    (h : List.Forall₂ (fun e e' => e.1.textOf? = e'.1.textOf?) es fs) : plainKeys? es = plainKeys? fs := by
  have hm : es.mapM (fun e => e.1.textOf?) = fs.mapM fun e => e.1.textOf? := by
    induction h with
    | nil => rfl
    | cons he _ ih => rw [List.mapM_cons, List.mapM_cons, he, ih]
  rw [plainKeys?, plainKeys?, hm]

lemma forall₂_map_self {α β : Type} {r : β → α → Prop} {t : α → β} {xs : List α} (h : ∀ x ∈ xs, r (t x) x) :
    List.Forall₂ r (xs.map t) xs := List.forall₂_map_left_iff.mpr (List.forall₂_same.mpr h)

lemma encodeWith_scalar {element : String} {v : Value} (hv : ∀ x, v ≠ .float x) :
    encodeWith f (.scalar element v) = encodeWith f v := by
  conv_lhs => unfold encodeWith
  split
  · exact (hv _ rfl).elim
  · rfl

lemma encodeWith_graft {tree : ℕ → Value} (ht : ∀ a, (tree a).Mute) (v : Value) :
    encodeWith f (v.graft tree) = encodeWith (fun a => encodeWith f (tree a)) v := by
  induction v using Value.induct with
  | list xs ih | tuple xs ih | set xs ih | frozenset xs ih | array _ _ xs ih =>
    rw [Value.graft, encodeWith, encodeWith, encodeItems_congr (forall₂_map_self ih)]
  | dict es ihk ihv =>
    obtain ⟨hvalues, hentries⟩ := encodeEntries_congr (forall₂_map_self
      (t := fun e : Value × Value => (e.1.graft tree, e.2.graft tree)) fun e he => ⟨ihk e he, ihv e he⟩)
    rw [Value.graft, encodeWith, encodeWith, plainKeys?_congr (forall₂_map_self fun e _ => textOf?_graft ht e.1),
      hvalues, hentries]
  | extended _ v ih => rw [Value.graft, encodeWith, encodeWith, ih]
  | member _ mixin _ v ih => cases mixin <;> simp only [Value.graft, encodeWith, ih]
  | object cls attrs ih =>
    have names : (attrs.map fun e => (e.1, e.2.graft tree)).map Prod.fst = attrs.map Prod.fst := by
      rw [List.map_map]
      rfl
    have hattrs := encodeAttrs_congr cls (forall₂_map_self
      (t := fun e : String × Value => (e.1, e.2.graft tree)) fun e he => ⟨rfl, ih e he⟩)
    rw [Value.graft, encodeWith, encodeWith, names, hattrs]
  | scalar element v ih =>
    rw [Value.graft]
    by_cases hv : ∃ x, v = .float x
    · obtain ⟨x, rfl⟩ := hv
      simp only [Value.graft, encodeWith]
    · rw [not_exists] at hv
      rw [encodeWith_scalar hv, encodeWith_scalar (graft_ne_float ht hv), ih]
  | link a => rw [Value.graft, encodeWith]
  | leaf v hv => rw [hv.graft, hv.data]

lemma encodeWith_eq_of_links {v : Value} (h : v.links = []) : encodeWith f v = encodeWith g v := by
  have hmute : ∀ a : ℕ, Mute ((fun _ => .null) a) := fun _ => ⟨rfl, nofun⟩
  rw [← graft_of_links_eq_nil (t := fun _ => .null) h, encodeWith_graft hmute, encodeWith_graft hmute]
  simp only [encodeWith]

/-- The objects that are not on the way. -/
def beyond (heap : Heap) (trail : List ℕ) : Finset ℕ := Finset.range heap.length \ trail.toFinset

lemma card_beyond_cons {heap : Heap} {trail : List ℕ} {a : ℕ} (ha : a ∉ trail) {v : Value}
    (hv : heap[a]? = some v) :
    (beyond heap (a :: trail)).card < (beyond heap trail).card := by
  have hmem : a ∈ beyond heap trail := by
    simp only [beyond, Finset.mem_sdiff, Finset.mem_range, List.mem_toFinset]
    exact ⟨(List.getElem?_eq_some_iff.mp hv).1, ha⟩
  have heq : beyond heap (a :: trail) = (beyond heap trail).erase a := by
    rw [beyond, beyond, List.toFinset_cons, Finset.sdiff_insert]
  rw [heq]
  exact Finset.card_erase_lt_of_mem hmem

/-- The tree of an object at the end of a way through others: a link again where the object is on the way,
and else what the object is, with trees for the objects in it. -/
def unfoldLink (heap : Heap) (trail : List ℕ) (a : ℕ) : Value :=
  if a ∈ trail then .link a
  else
    match _hv : heap[a]? with
    | some v => v.graft fun b => unfoldLink heap (a :: trail) b
    | none => .null
termination_by (beyond heap trail).card
decreasing_by exact card_beyond_cons ‹_› ‹_›

/-- The tree of a value, in which a link is left only where an object would lie within itself. -/
def unfolding (heap : Heap) (v : Value) : Value := v.graft (unfoldLink heap [])

def Contains (heap : Heap) (a b : ℕ) : Prop := ∃ v, heap[a]? = some v ∧ b ∈ v.links

/-- No object that is reached from an object lies within itself. -/
def Acyclic (heap : Heap) (a : ℕ) : Prop :=
  ∀ b, Relation.ReflTransGen (Contains heap) a b → ¬ Relation.TransGen (Contains heap) b b

lemma Acyclic.contained {heap : Heap} {a b : ℕ} (h : Acyclic heap a) (hb : Contains heap a b) :
    Acyclic heap b :=
  fun c hc => h c (.head hb hc)

section Trees

variable {heap : Heap} {trail : List ℕ} {a : ℕ} {v : Value}

lemma unfoldLink_of_mem (ha : a ∈ trail) : unfoldLink heap trail a = .link a := by
  rw [unfoldLink, if_pos ha]

lemma unfoldLink_of_some (ha : a ∉ trail) (hv : heap[a]? = some v) :
    unfoldLink heap trail a = v.graft (unfoldLink heap (a :: trail)) := by
  rw [unfoldLink, if_neg ha]
  split
  · rename_i w hw
    rw [hv] at hw
    cases hw
    rfl
  · rename_i hw
    rw [hv] at hw
    cases hw

lemma unfoldLink_of_none (ha : a ∉ trail) (hv : heap[a]? = none) : unfoldLink heap trail a = .null := by
  rw [unfoldLink, if_neg ha]
  split
  · rename_i hw
    rw [hv] at hw
    cases hw
  · rfl

lemma unfolding_link : unfolding heap (.link a) = unfoldLink heap [] a := by
  rw [unfolding, graft]

section Vessels

variable (hh : ∀ v ∈ heap, Vessel v)

include hh

lemma mute_unfoldLink (trail : List ℕ) (a : ℕ) : (unfoldLink heap trail a).Mute := by
  by_cases ha : a ∈ trail
  · rw [unfoldLink_of_mem ha]
    exact ⟨rfl, nofun⟩
  · cases hv : heap[a]? with
    | none =>
      rw [unfoldLink_of_none ha hv]
      exact ⟨rfl, nofun⟩
    | some v =>
      rw [unfoldLink_of_some ha hv]
      exact (hh v (List.mem_of_getElem? hv)).graft.mute

lemma unfoldLink_eq_link {b : ℕ} : unfoldLink heap trail a = .link b ↔ a ∈ trail ∧ b = a := by
  by_cases ha : a ∈ trail
  · simp only [unfoldLink_of_mem ha, link.injEq, ha, true_and, eq_comm]
  · refine iff_of_false ?_ fun h => ha h.1
    cases hv : heap[a]? with
    | none =>
      rw [unfoldLink_of_none ha hv]
      intro h
      cases h
    | some v =>
      rw [unfoldLink_of_some ha hv]
      exact (hh v (List.mem_of_getElem? hv)).graft.ne_link b

lemma encodeLink_eq {fuel : ℕ} (hf : (beyond heap trail).card < fuel) (a : ℕ) :
    encodeLink heap fuel trail a = encodeWith (fun _ => .ok circularMark) (unfoldLink heap trail a) := by
  -- Each link that is followed takes one object from those that the fuel is counted by.
  induction fuel generalizing trail a with
  | zero => exact absurd hf (Nat.not_lt_zero _)
  | succ fuel ih =>
    rw [encodeLink]
    by_cases ha : a ∈ trail
    · rw [if_pos (by simpa using ha), unfoldLink_of_mem ha, encodeWith, circularMark]
    · rw [if_neg (by simpa using ha)]
      cases hv : heap[a]? with
      | none => rw [unfoldLink_of_none ha hv, encodeWith]
      | some v =>
        have hlt := card_beyond_cons ha hv
        have hlinks : encodeLink heap fuel (a :: trail) = fun b =>
            encodeWith (fun _ => .ok circularMark) (unfoldLink heap (a :: trail) b) :=
          funext (ih (by omega))
        rw [unfoldLink_of_some ha hv, encodeWith_graft (mute_unfoldLink hh _), hlinks]

lemma encodeWith_encodeLink {fuel : ℕ} (hf : heap.length < fuel) (v : Value) :
    encodeWith (encodeLink heap fuel []) v = encodeWith (fun _ => .ok circularMark) (unfolding heap v) := by
  have hcard : (beyond heap []).card < fuel := by simpa [beyond] using hf
  rw [unfolding, encodeWith_graft (mute_unfoldLink hh _), funext (encodeLink_eq hh hcard)]

end Vessels

/-- The objects on the way to an object all reach it. -/
def Way (heap : Heap) (trail : List ℕ) (a : ℕ) : Prop := ∀ b ∈ trail, Relation.TransGen (Contains heap) b a

lemma Way.not_mem (ht : Way heap trail a) (ha : Acyclic heap a) : a ∉ trail :=
  fun hmem => ha a .refl (ht a hmem)

lemma Way.onward {b : ℕ} (ht : Way heap trail a) (hb : Contains heap a b) : Way heap (a :: trail) b := by
  intro c hc
  rcases List.mem_cons.mp hc with rfl | hc
  · exact .single hb
  · exact (ht c hc).tail hb

lemma unfoldLink_of_acyclic (ha : Acyclic heap a) (ht : Way heap trail a) :
    (unfoldLink heap trail a).links = [] ∧
      ∀ other, Way heap other a → unfoldLink heap trail a = unfoldLink heap other a := by
  -- The way and the absence of cycles are carried down; together they rule out the end at a link.
  induction trail, a using unfoldLink.induct heap with
  | case1 trail a hmem => exact absurd hmem (ht.not_mem ha)
  | case2 trail a hnew v hv ih =>
    have inner : ∀ b ∈ v.links, Contains heap a b := fun b hb => ⟨v, hv, hb⟩
    have trees := fun b hb => ih b (ha.contained (inner b hb)) (ht.onward (inner b hb))
    rw [unfoldLink_of_some hnew hv]
    refine ⟨links_graft fun b hb => (trees b hb).1, fun other ho => ?_⟩
    rw [unfoldLink_of_some (ho.not_mem ha) hv]
    exact graft_congr fun b hb => (trees b hb).2 _ (ho.onward (inner b hb))
  | case3 trail a hnew hv =>
    rw [unfoldLink_of_none hnew hv]
    refine ⟨by rw [links] <;> intros <;> contradiction, fun other ho => ?_⟩
    exact (unfoldLink_of_none (ho.not_mem ha) hv).symm

lemma links_unfolding (hv : ∀ a ∈ v.links, Acyclic heap a) : (unfolding heap v).links = [] :=
  links_graft fun a ha => (unfoldLink_of_acyclic (hv a ha) (by simp [Way])).1

end Trees

/-- A value of any objects, however they are shared and lie in each other, has the data of its finite tree: a
mark stands there for an object just where the object lies within itself, and an object that reaches no
cycle stands in full on every way to it. -/
theorem encode_eq_unfolding {heap : Heap} (hh : ∀ v ∈ heap, Vessel v) (v : Value) :
    (∀ fuel, heap.length < fuel → encodeWith (encodeLink heap fuel []) v = encode heap v) ∧
    encode heap v = encodeWith (fun _ => .ok circularMark) (unfolding heap v) ∧
    (∀ trail a b, unfoldLink heap trail a = .link b ↔ a ∈ trail ∧ b = a) ∧
    (∀ trail a, Acyclic heap a → Way heap trail a → unfoldLink heap trail a = unfolding heap (.link a)) ∧
    ((∀ a ∈ v.links, Acyclic heap a) →
      (unfolding heap v).links = [] ∧ ∀ mark, encode heap v = encodeWith mark (unfolding heap v)) := by
  have data : encode heap v = encodeWith (fun _ => .ok circularMark) (unfolding heap v) :=
    encodeWith_encodeLink hh heap.length.lt_succ_self v
  refine ⟨fun fuel hf => ?_, data, fun _ _ _ => unfoldLink_eq_link hh, fun trail a ha ht => ?_, fun hv => ?_⟩
  · rw [encodeWith_encodeLink hh hf, data]
  · rw [unfolding_link]
    exact (unfoldLink_of_acyclic ha ht).2 [] (by simp [Way])
  · have hl := links_unfolding hv
    exact ⟨hl, fun mark => data.trans (encodeWith_eq_of_links hl)⟩

/-- A list, an instance in it that knows the list, and a dictionary that stands twice in the list. -/
def knot : Heap :=
  [.list [.link 1, .link 2, .link 2],
    .object ⟨⟨"m", "Node"⟩, .openEnded, .each⟩ [("owner", .link 0)],
    .dict [(.str "k", .tuple [.int 1])]]

theorem encode_eq_unfolding_knot : (∀ v ∈ knot, Vessel v) ∧
    encode knot (.link 0) = .ok (.arr [
      tagged "object" [("class", .str "m:Node"), ("state", .obj [("owner", circularMark)])],
      .obj [("k", tagged "tuple" [("items", .arr [.int 1])])],
      .obj [("k", tagged "tuple" [("items", .arr [.int 1])])]]) := by
  have vessels : ∀ v ∈ knot, Vessel v := by
    simp only [knot, List.forall_mem_cons, List.not_mem_nil, false_imp_iff, implies_true, and_true]
    exact ⟨.list _, .object _ _, .dict _⟩
  have tree : unfolding knot (.link 0) = .list [
      .object ⟨⟨"m", "Node"⟩, .openEnded, .each⟩ [("owner", .link 0)],
      .dict [(.str "k", .tuple [.int 1])], .dict [(.str "k", .tuple [.int 1])]] := by
    have owner : unfoldLink knot [0] 1 =
        .object ⟨⟨"m", "Node"⟩, .openEnded, .each⟩ [("owner", .link 0)] := by
      rw [unfoldLink_of_some (by decide) rfl]
      simp [graft, unfoldLink_of_mem]
    have shared : unfoldLink knot [0] 2 = .dict [(.str "k", .tuple [.int 1])] := by
      rw [unfoldLink_of_some (by decide) rfl]
      simp [graft]
    rw [unfolding_link, unfoldLink_of_some (by decide) rfl]
    simp [graft, owner, shared]
  refine ⟨vessels, (encode_eq_unfolding vessels _).2.1.trans ?_⟩
  rw [tree]
  rfl

end Codec

end CallSnapshot
