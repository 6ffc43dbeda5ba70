import CallSnapshot.Proofs.Codec.Order

/-!
The forms that data of values take. A property of data that goes from the parts of each form to the whole is
true of whatever a value is written as, through lists, instances and links, as deep as they go.
-/

namespace CallSnapshot

def Value.makings : Value → List Value
  | .list xs | .tuple xs | .set xs | .frozenset xs | .array _ _ xs => xs
  | .dict es => es.map Prod.fst ++ es.map Prod.snd
  | .extended _ v | .member _ _ _ v | .scalar _ v => [v]
  | .object _ attrs => attrs.map Prod.snd
  | _ => []

def Value.isSingle : Value → Bool
  | .list _ | .tuple _ | .set _ | .frozenset _ | .array .. | .dict _ | .extended .. | .member .. | .scalar ..
  | .object .. | .link _ => false
  | _ => true

namespace Codec

/-- A property of data that all forms have whose parts have it, where a property of the values may be used. -/
structure Formed (A : Value → Prop) (P : Json → Prop) : Prop where
  making {v p : Value} (hv : A v) (hp : p ∈ v.makings) : A p
  single {follow : ℕ → Except Fault Json} {v : Value} {data : Json} (hv : A v) (hs : v.isSingle = true)
    (h : encodeWith follow v = .ok data) : P data
  constant (d : Constant) : P (constantData d)
  circular : P (tagged "circular" [])
  float {x : Binary64} (hx : A (.float x)) (name : String) : P (encodeFloat x name)
  list {items : List Json} (h : ∀ x ∈ items, P x) : P (.arr items)
  items {tag : String} (ht : tag = "tuple" ∨ tag = "set" ∨ tag = "frozenset") {items : List Json}
    (h : ∀ x ∈ items, P x) : P (tagged tag [("items", .arr items)])
  members {es : List (Value × Value)} (hv : A (.dict es)) {keys : List String} (hk : plainKeys? es = some keys)
    {ys : List Json} (h : ∀ y ∈ ys, P y) : P (.obj (keys.zip ys))
  entries {items : List Json} (h : ∀ x ∈ items, ∃ k v, x = .arr [k, v] ∧ P k ∧ P v) :
    P (tagged "dict" [("items", .arr items)])
  member (cls : String) (name : Option String) {data : Json} (h : P data) :
    P (tagged "enum" [("class", .str cls), ("name", name.elim .null .str), ("value", data)])
  object {cls : Class} {attrs : List (String × Value)} (hv : A (.object cls attrs)) {state : List (String × Json)}
    (hn : (state.map Prod.fst).Sublist (attrs.map Prod.fst)) (h : ∀ m ∈ state, P m.2) :
    P (tagged "object" [("class", .str cls.name.text), ("state", .obj (shownState cls state))])
  array (element : String) (shape : List ℕ) {data : Json} (h : P data) :
    P (tagged "ndarray" [("dtype", .str element), ("shape", .arr (shape.map fun (n : ℕ) => .int n)), ("data", data)])

namespace Formed

variable {A : Value → Prop} {P : Json → Prop} (hP : Formed A P)

include hP

lemma nest (shape : List ℕ) {items : List Json} (h : ∀ x ∈ items, P x) : P (Codec.nest shape items) := by
  induction shape generalizing items with
  | nil =>
    cases items with
    | nil => exact hP.constant .none
    | cons x xs => exact h x List.mem_cons_self
  | cons n shape ih =>
    refine hP.list fun x hx => ?_
    obtain ⟨i, -, rfl⟩ := List.mem_map.mp hx
    exact ih fun y hy => h y (List.mem_of_mem_drop (List.mem_of_mem_take hy))

lemma entry {es : List (Value × Value)} (hv : A (.dict es)) : ∀ e ∈ es, A e.1 ∧ A e.2 := fun _ he =>
  ⟨hP.making hv (List.mem_append_left _ (List.mem_map_of_mem he)),
    hP.making hv (List.mem_append_right _ (List.mem_map_of_mem he))⟩

variable {follow : ℕ → Except Fault Json} (hf : ∀ a data, follow a = .ok data → P data)

include hf

set_option linter.unusedSectionVars false

mutual

lemma encodeWith : (v : Value) → A v → ∀ {data : Json}, Codec.encodeWith follow v = .ok data → P data
  | .list xs, hv, _, h => by
    rw [Codec.encodeWith] at h
    obtain ⟨ys, hys, h⟩ := bind_eq_ok.mp h
    cases h
    exact hP.list (encodeItems xs (fun _ => hP.making hv) hys)
  | .tuple xs, hv, _, h => by
    rw [Codec.encodeWith] at h
    obtain ⟨ys, hys, h⟩ := bind_eq_ok.mp h
    cases h
    exact hP.items (by simp) (encodeItems xs (fun _ => hP.making hv) hys)
  | .set xs, hv, _, h | .frozenset xs, hv, _, h => by
    rw [Codec.encodeWith] at h
    obtain ⟨ys, hys, h⟩ := bind_eq_ok.mp h
    obtain ⟨zs, hzs, h⟩ := bind_eq_ok.mp h
    cases h
    have hall := encodeItems xs (fun _ => hP.making hv) hys
    exact hP.items (by simp) fun z hz => hall z ((sortItems_eq_ok hzs).1.mem_iff.mp hz)
  | .dict es, hv, _, h => by
    rw [Codec.encodeWith] at h
    split at h
    · rename_i keys hkeys
      obtain ⟨ys, hys, h⟩ := bind_eq_ok.mp h
      cases h
      exact hP.members hv hkeys (encodeValues es (hP.entry hv) hys)
    · obtain ⟨ys, hys, h⟩ := bind_eq_ok.mp h
      cases h
      exact hP.entries (encodeEntries es (hP.entry hv) hys)
  | .extended _ v, hv, _, h => by
    rw [Codec.encodeWith] at h
    exact encodeWith v (hP.making hv (List.mem_singleton.mpr rfl)) h
  | .member cls mixin name v, hv, _, h => by
    have hvalue := hP.making hv (List.mem_singleton.mpr rfl)
    unfold Codec.encodeWith at h
    split at h
    · exact encodeWith v hvalue h
    · obtain ⟨y, hy, h⟩ := bind_eq_ok.mp h
      cases h
      exact hP.member _ name (encodeWith v hvalue hy)
  | .object cls attrs, hv, _, h => by
    rw [Codec.encodeWith] at h
    obtain ⟨-, -, h⟩ := bind_eq_ok.mp h
    obtain ⟨state, hstate, h⟩ := bind_eq_ok.mp h
    cases h
    obtain ⟨hnames, hset⟩ := encodeAttrs cls attrs (fun _ he => hP.making hv (List.mem_map_of_mem he)) hstate
    exact hP.object hv hnames hset
  | .array element shape xs, hv, _, h => by
    rw [Codec.encodeWith] at h
    obtain ⟨ys, hys, h⟩ := bind_eq_ok.mp h
    cases h
    exact hP.array _ _ (hP.nest shape (encodeItems xs (fun _ => hP.making hv) hys))
  | .scalar _ v, hv, _, h => by
    have hvalue := hP.making hv (List.mem_singleton.mpr rfl)
    unfold Codec.encodeWith at h
    split at h
    · cases h
      exact hP.float hvalue _
    · exact encodeWith v hvalue h
  | .link a, _, _, h => by
    rw [Codec.encodeWith] at h
    exact hf a _ h
  | .null, hv, _, h | .bool _, hv, _, h | .int _, hv, _, h | .float _, hv, _, h | .str _, hv, _, h
  | .bytes _, hv, _, h | .date _, hv, _, h | .time _, hv, _, h | .datetime _, hv, _, h | .duration _, hv, _, h
  | .decimal _, hv, _, h | .complex _ _, hv, _, h | .uuid _, hv, _, h | .path _, hv, _, h | .type _, hv, _, h
  | .function _, hv, _, h | .method _ _, hv, _, h | .iterator _, hv, _, h | .described _ _, hv, _, h =>
    hP.single hv rfl h

lemma encodeItems : (xs : List Value) → (∀ x ∈ xs, A x) → ∀ {ys : List Json},
    Codec.encodeItems follow xs = .ok ys → ∀ y ∈ ys, P y
  | [], _, _, h => by
    cases h
    simp
  | x :: xs, hx, _, h => by
    rw [List.forall_mem_cons] at hx
    rw [Codec.encodeItems] at h
    obtain ⟨y, hy, h⟩ := bind_eq_ok.mp h
    obtain ⟨ys, hys, h⟩ := bind_eq_ok.mp h
    cases h
    exact List.forall_mem_cons.mpr ⟨encodeWith x hx.1 hy, encodeItems xs hx.2 hys⟩

lemma encodeValues : (es : List (Value × Value)) → (∀ e ∈ es, A e.1 ∧ A e.2) → ∀ {ys : List Json},
    Codec.encodeValues follow es = .ok ys → ∀ y ∈ ys, P y
  | [], _, _, h => by
    cases h
    simp
  | (k, v) :: es, he, _, h => by
    rw [List.forall_mem_cons] at he
    rw [Codec.encodeValues] at h
    obtain ⟨y, hy, h⟩ := bind_eq_ok.mp h
    obtain ⟨ys, hys, h⟩ := bind_eq_ok.mp h
    cases h
    exact List.forall_mem_cons.mpr ⟨encodeWith v he.1.2 hy, encodeValues es he.2 hys⟩

lemma encodeEntries : (es : List (Value × Value)) → (∀ e ∈ es, A e.1 ∧ A e.2) → ∀ {ys : List Json},
    Codec.encodeEntries follow es = .ok ys → ∀ y ∈ ys, ∃ k v, y = .arr [k, v] ∧ P k ∧ P v
  | [], _, _, h => by
    cases h
    simp
  | (k, v) :: es, he, _, h => by
    rw [List.forall_mem_cons] at he
    rw [Codec.encodeEntries] at h
    obtain ⟨x, hx, h⟩ := bind_eq_ok.mp h
    obtain ⟨y, hy, h⟩ := bind_eq_ok.mp h
    obtain ⟨ys, hys, h⟩ := bind_eq_ok.mp h
    cases h
    exact List.forall_mem_cons.mpr
      ⟨⟨x, y, rfl, encodeWith k he.1.1 hx, encodeWith v he.1.2 hy⟩, encodeEntries es he.2 hys⟩

lemma encodeAttrs (c : Class) : (attrs : List (String × Value)) → (∀ e ∈ attrs, A e.2) →
    ∀ {state : List (String × Json)}, Codec.encodeAttrs follow c attrs = .ok state →
      (state.map Prod.fst).Sublist (attrs.map Prod.fst) ∧ ∀ m ∈ state, P m.2
  | [], _, _, h => by
    cases h
    simp
  | (k, v) :: attrs, he, _, h => by
    rw [List.forall_mem_cons] at he
    rw [Codec.encodeAttrs] at h
    split at h
    · obtain ⟨y, hy, h⟩ := bind_eq_ok.mp h
      obtain ⟨state, hstate, h⟩ := bind_eq_ok.mp h
      cases h
      obtain ⟨hnames, hvalues⟩ := encodeAttrs c attrs he.2 hstate
      exact ⟨hnames.cons_cons k, List.forall_mem_cons.mpr ⟨encodeWith v he.1 hy, hvalues⟩⟩
    · obtain ⟨hnames, hvalues⟩ := encodeAttrs c attrs he.2 h
      exact ⟨hnames.cons k, hvalues⟩

end

omit hf

lemma encodeLink {heap : Heap} (hh : ∀ v ∈ heap, A v) (fuel : ℕ) (active : List ℕ) (a : ℕ) {data : Json}
    (h : Codec.encodeLink heap fuel active a = .ok data) : P data := by
  induction fuel generalizing active a data with
  | zero =>
    cases h
    exact hP.circular
  | succ fuel ih =>
    rw [Codec.encodeLink] at h
    split at h
    · cases h
      exact hP.circular
    · split at h
      · rename_i v hv
        exact hP.encodeWith (fun b _ => ih (a :: active) b) v (hh v (List.mem_of_getElem? hv)) h
      · cases h
        exact hP.constant .none

/-- So it is with all that a value is written as. -/
theorem encode {heap : Heap} (hh : ∀ x ∈ heap, A x) {v : Value} (hv : A v) {data : Json}
    (h : Codec.encode heap v = .ok data) : P data :=
  hP.encodeWith (fun a _ => hP.encodeLink hh _ _ a) v hv h

end Formed

end Codec

end CallSnapshot
