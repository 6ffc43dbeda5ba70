import CallSnapshot.Proofs.Codec.Unfolding
import CallSnapshot.Proofs.Codec.Wellformed
import CallSnapshot.Proofs.Json.Apart
import CallSnapshot.Proofs.Value.Same

/-!
The order in which sets are iterated. The items of a set are written in the order of their ASCII texts,
and these tell the data of elements apart; so whatever order the items come in, at any depth, the data of a
value are the same. Only where a value is recorded by its text alone do its sets show their order.
-/

namespace CallSnapshot

namespace Value

/-- An order in which the items of a set may come instead of another one. -/
def Shuffled (xs ys : List Value) : Prop := xs = ys ∨ xs.Perm ys ∧ ∀ x ∈ xs, Element x

/-- The same value, but the sets in it may be iterated in another order. What is recorded by its text alone is
left as it is. -/
inductive Reordered : Value → Value → Prop
  | refl (v : Value) : Reordered v v
  | list {xs ys : List Value} (hl : xs.length = ys.length)
      (h : ∀ (i : ℕ) x y, xs[i]? = some x → ys[i]? = some y → Reordered x y) : Reordered (.list xs) (.list ys)
  | tuple {xs ys : List Value} (hl : xs.length = ys.length)
      (h : ∀ (i : ℕ) x y, xs[i]? = some x → ys[i]? = some y → Reordered x y) : Reordered (.tuple xs) (.tuple ys)
  | set {xs us ys : List Value} (hs : Shuffled xs us) (hl : us.length = ys.length)
      (h : ∀ (i : ℕ) x y, us[i]? = some x → ys[i]? = some y → Reordered x y) : Reordered (.set xs) (.set ys)
  | frozenset {xs us ys : List Value} (hs : Shuffled xs us) (hl : us.length = ys.length)
      (h : ∀ (i : ℕ) x y, us[i]? = some x → ys[i]? = some y → Reordered x y) :
      Reordered (.frozenset xs) (.frozenset ys)
  | dict {es fs : List (Value × Value)} (hl : es.length = fs.length)
      (hk : ∀ (i : ℕ) e f, es[i]? = some e → fs[i]? = some f → Reordered e.1 f.1)
      (hv : ∀ (i : ℕ) e f, es[i]? = some e → fs[i]? = some f → Reordered e.2 f.2) : Reordered (.dict es) (.dict fs)
  | extended (kind : Extension) {v w : Value} (h : Reordered v w) : Reordered (.extended kind v) (.extended kind w)
  | member (cls : Qualified) (mixin : Mixin) (name : Option String) {v w : Value} (h : Reordered v w) :
      Reordered (.member cls mixin name v) (.member cls mixin name w)
  | object (cls : Class) {as bs : List (String × Value)} (hn : as.map Prod.fst = bs.map Prod.fst)
      (h : ∀ (i : ℕ) a b, as[i]? = some a → bs[i]? = some b → Reordered a.2 b.2) :
      Reordered (.object cls as) (.object cls bs)
  | array (element : String) (shape : List ℕ) {xs ys : List Value} (hl : xs.length = ys.length)
      (h : ∀ (i : ℕ) x y, xs[i]? = some x → ys[i]? = some y → Reordered x y) :
      Reordered (.array element shape xs) (.array element shape ys)

lemma Reordered.textOf? {v w : Value} (h : Reordered v w) : v.textOf? = w.textOf? := by
  induction h with
  | refl => rfl
  | extended _ _ ih => simp only [Value.textOf?, ih]
  | member _ mixin _ _ ih => cases mixin <;> simp only [Value.textOf?, ih]
  | _ => simp only [Value.textOf?]

/-- Whatever order all its sets are iterated in, a plain value is the same but for that. -/
theorem Same.reordered {v w : Value} (hv : Plain v) (h : Same v w) : Reordered v w := by
  have shuffle : ∀ {xs ys zs : List Value}, (∀ x ∈ xs, Element x) → List.Forall₂ Same xs ys → ys.Perm zs →
      ∃ us, Shuffled xs us ∧ List.Forall₂ Same us zs ∧ us.Perm xs := by
    intro xs ys zs hx hall hp
    obtain ⟨us, hus, hperm⟩ := List.perm_comp_forall₂ hp.symm hall.flip
    exact ⟨us, .inr ⟨hperm.symm, hx⟩, hus.flip, hperm⟩
  induction hv using Plain.induct generalizing w with
  | atom v hv => exact h.atom hv ▸ .refl v
  | list xs _ ih =>
    cases h with
    | refl => exact .refl _
    | list hl h => exact .list hl fun i x y hx hy => ih x (List.mem_of_getElem? hx) (h i x y hx hy)
  | tuple xs _ ih =>
    cases h with
    | refl => exact .refl _
    | tuple hl h => exact .tuple hl fun i x y hx hy => ih x (List.mem_of_getElem? hx) (h i x y hx hy)
  | set xs hx _ ih =>
    cases h with
    | refl => exact .refl _
    | set hl h hp =>
      obtain ⟨us, hs, hall, hperm⟩ := shuffle hx (forall₂_of_getElem? hl h) hp
      exact .set hs hall.length_eq fun i x y hxi hyi =>
        ih x (hperm.mem_iff.mp (List.mem_of_getElem? hxi)) (getElem?_of_forall₂ hall i x y hxi hyi)
  | frozenset xs hx _ ih =>
    cases h with
    | refl => exact .refl _
    | frozenset hl h hp =>
      obtain ⟨us, hs, hall, hperm⟩ := shuffle hx (forall₂_of_getElem? hl h) hp
      exact .frozenset hs hall.length_eq fun i x y hxi hyi =>
        ih x (hperm.mem_iff.mp (List.mem_of_getElem? hxi)) (getElem?_of_forall₂ hall i x y hxi hyi)
  | dict es _ _ _ ihk ihv =>
    cases h with
    | refl => exact .refl _
    | dict hl hk hv =>
      exact .dict hl (fun i e f he hf => ihk e (List.mem_of_getElem? he) (hk i e f he hf))
        fun i e f he hf => ihv e (List.mem_of_getElem? he) (hv i e f he hf)

lemma Element.links_eq_nil {v : Value} (h : Element v) : v.links = [] := by
  induction h with
  | @atom v h _ => cases h <;> simp only [links]
  | tuple _ ih | frozenset _ _ ih => simpa only [links, List.flatMap_eq_nil_iff] using ih

end Value

namespace Codec

open Value Json

/-! Data of elements, back from the order of their keys. -/

mutual

/-- Data of an element as they were before their members were sorted: of a tag and two parts, which only a
complex number has, the parts have changed places. -/
def restored : Json → Json
  | .arr items => .arr (restoredItems items)
  | .obj [tag, imag, real] => .obj [tag, real, imag]
  | .obj members => .obj (restoredMembers members)
  | data => data

def restoredItems : List Json → List Json
  | [] => []
  | x :: xs => restored x :: restoredItems xs

def restoredMembers : List (String × Json) → List (String × Json)
  | [] => []
  | (k, x) :: xs => (k, restored x) :: restoredMembers xs

end

/-- Data that are told by what they are in the order of their keys. -/
def Restorable (data : Json) : Prop := restored data.sorted = data

lemma restorable_tagged {tag key : String} {data : Json} (hk : tagKey ≤ key) (h : Restorable data) :
    Restorable (tagged tag [(key, data)]) := by
  have hsorted : (tagged tag [(key, data)]).sorted = tagged tag [(key, data.sorted)] := by
    simp [tagged, sorted, sortedMembers, sortMembers, insertMember, hk]
  rw [Restorable, hsorted]
  simp only [tagged, restored, restoredMembers]
  rw [h]

lemma restorable_arr {items : List Json} (h : ∀ x ∈ items, Restorable x) : Restorable (.arr items) := by
  have hitems : restoredItems (sortedItems items) = items := by
    induction items with
    | nil => rfl
    | cons x xs ih =>
      rw [List.forall_mem_cons] at h
      rw [sortedItems, restoredItems, ih h.2, h.1]
  rw [Restorable, sorted, restored, hitems]

lemma sorted_floatData (x : Binary64) : (floatData x).sorted = floatData x := by
  unfold floatData encodeFloat
  split
  · rfl
  · simp [tagged, sorted, sortedMembers, sortMembers, insertMember, tagKey]

section Elements

variable {follow : ℕ → Except Fault Json} {v w : Value} {data data' : Json}

lemma restorable_atom (h : Atom v) (hd : encodeWith follow v = .ok data) : Restorable data := by
  cases h with
  | null | bool | int | str =>
    rw [encodeWith] at hd
    cases hd
    rfl
  | float =>
    rw [encodeWith] at hd
    cases hd
    unfold floatData encodeFloat
    split
    · rfl
    · exact restorable_tagged (by decide) rfl
  | complex =>
    rw [encodeWith] at hd
    cases hd
    have hsorted : ∀ re im, (tagged "complex" [("real", floatData re), ("imag", floatData im)]).sorted =
        tagged "complex" [("imag", floatData im), ("real", floatData re)] := by
      intro re im
      simp [tagged, sorted, sortedMembers, sorted_floatData, sortMembers, insertMember, tagKey]
    rw [Restorable, hsorted]
    rfl
  | bytes | date | time | datetime | decimal | uuid | path =>
    rw [encodeWith] at hd
    cases hd
    exact restorable_tagged (by decide) rfl

lemma element_restorable (h : Element v) (hd : encodeWith follow v = .ok data) : Restorable data := by
  induction h generalizing data with
  | atom h _ => exact restorable_atom h hd
  | tuple _ ih =>
    obtain ⟨ys, hys, rfl⟩ := encodeWith_tuple.mp hd
    exact restorable_tagged (by decide) (restorable_arr (forall_right hys fun x hx y hy => ih x hx hy))
  | frozenset _ _ ih =>
    obtain ⟨ys, zs, hys, hzs, rfl⟩ := encodeWith_frozenset.mp hd
    refine restorable_tagged (by decide) (restorable_arr fun z hz => ?_)
    exact forall_right hys (fun x hx y hy => ih x hx hy) z ((sortItems_eq_ok hzs).1.mem_iff.mp hz)

lemma element_faithful (h : Element v) (hd : encodeWith follow v = .ok data) : data.Faithful := by
  have hempty : ∀ x ∈ ([] : Heap), x.Sound := List.forall_mem_nil _
  rw [encodeWith_eq_of_links h.links_eq_nil] at hd
  exact faithful_encode hempty h.plain.basic.sound hd

/-- The ASCII text tells the data of elements apart. -/
theorem element_eq_of_print (hv : Element v) (hw : Element w) (hd : encodeWith follow v = .ok data)
    (hd' : encodeWith follow w = .ok data') {text : String} (h : print sortedAscii data = .ok text)
    (h' : print sortedAscii data' = .ok text) : data = data' := by
  have hsorted := sorted_eq_of_print (element_faithful hv hd) (element_faithful hw hd') h h'
  rw [← element_restorable hv hd, ← element_restorable hw hd', hsorted]

lemma encodeEntries_eq_error {es : List (Value × Value)} {e : Fault} (h : encodeEntries follow es = .error e) :
    ∃ m ∈ es, encodeWith follow m.1 = .error e ∨ encodeWith follow m.2 = .error e := by
  induction es with
  | nil => cases h
  | cons m es ih =>
    rcases bind_eq_error.mp h with h | ⟨_, -, h⟩
    · exact ⟨m, List.mem_cons_self, .inl h⟩
    rcases bind_eq_error.mp h with h | ⟨_, -, h⟩
    · exact ⟨m, List.mem_cons_self, .inr h⟩
    rcases bind_eq_error.mp h with h | ⟨_, -, h⟩
    · obtain ⟨n, hn, h⟩ := ih h
      exact ⟨n, List.mem_cons_of_mem m hn, h⟩
    · cases h

lemma plain_eq_error (h : Plain v) {e : Fault} (he : encodeWith follow v = .error e) : e = printFault := by
  have items : ∀ {xs : List Value}, (∀ x ∈ xs, encodeWith follow x = .error e → e = printFault) →
      encodeItems follow xs = .error e → e = printFault := by
    intro xs ih he
    obtain ⟨x, hx, he⟩ := encodeItems_eq_error he
    exact ih x hx he
  induction h using Plain.induct with
  | atom v h =>
    obtain ⟨d, hd, -⟩ := @encodeWith_atom follow _ h
    rw [he] at hd
    cases hd
  | list xs _ ih | tuple xs _ ih =>
    rw [encodeWith] at he
    rcases bind_eq_error.mp he with he | ⟨_, -, he⟩
    · exact items ih he
    · cases he
  | set xs _ _ ih | frozenset xs _ _ ih =>
    rw [encodeWith] at he
    rcases bind_eq_error.mp he with he | ⟨_, -, he⟩
    · exact items ih he
    · rcases bind_eq_error.mp he with he | ⟨_, -, he⟩
      · exact sortItems_eq_error he
      · cases he
  | dict es _ _ _ ihk ihv =>
    rw [encodeWith] at he
    cases hkeys : plainKeys? es with
    | some keys =>
      rw [hkeys] at he
      rcases bind_eq_error.mp he with he | ⟨_, -, he⟩
      · rw [encodeValues_eq] at he
        exact items (List.forall_mem_map.mpr ihv) he
      · cases he
    | none =>
      rw [hkeys] at he
      rcases bind_eq_error.mp he with he | ⟨_, -, he⟩
      · obtain ⟨m, hm, he | he⟩ := encodeEntries_eq_error he
        · exact ihk m hm he
        · exact ihv m hm he
      · cases he

def setItems (follow : ℕ → Except Fault Json) (xs : List Value) : Except Fault (List Json) :=
  encodeItems follow xs >>= sortItems

lemma encodeWith_set_eq {xs : List Value} :
    encodeWith follow (.set xs) = setItems follow xs >>= fun zs => .ok (tagged "set" [("items", .arr zs)]) := by
  rw [encodeWith, setItems, bind_assoc]

lemma encodeWith_frozenset_eq {xs : List Value} : encodeWith follow (.frozenset xs) =
    setItems follow xs >>= fun zs => .ok (tagged "frozenset" [("items", .arr zs)]) := by
  rw [encodeWith, setItems, bind_assoc]

lemma setItems_perm {xs ys : List Value} (hp : xs.Perm ys) (hx : ∀ x ∈ xs, Element x) :
    setItems follow xs = setItems follow ys := by
  unfold setItems
  cases hd : encodeItems follow xs with
  | ok ds =>
    rw [encodeItems_iff] at hd
    obtain ⟨es, hes, hperm⟩ := List.perm_comp_forall₂ hp.symm hd
    rw [encodeItems_iff.mpr hes, ok_bind, ok_bind]
    refine sortItems_perm hperm.symm ?_
    have hdata : ∀ d ∈ ds, ∃ x, Element x ∧ encodeWith follow x = .ok d :=
      forall_right hd fun x hmem d hd => ⟨x, hx x hmem, hd⟩
    intro d hd d' hd' t ht ht'
    obtain ⟨x, hx, hd⟩ := hdata d hd
    obtain ⟨x', hx', hd'⟩ := hdata d' hd'
    exact element_eq_of_print hx hx' hd hd' ht ht'
  | error e =>
    obtain ⟨x, hmem, he⟩ := encodeItems_eq_error hd
    obtain rfl := plain_eq_error (hx x hmem).plain he
    cases hd' : encodeItems follow ys with
    | ok ds =>
      obtain ⟨es, hes, -⟩ := List.perm_comp_forall₂ hp (encodeItems_iff.mp hd')
      rw [encodeItems_iff.mpr hes] at hd
      cases hd
    | error e =>
      obtain ⟨y, hmem, he⟩ := encodeItems_eq_error hd'
      obtain rfl := plain_eq_error (hx y (hp.mem_iff.mpr hmem)).plain he
      rfl

lemma setItems_shuffled {xs ys : List Value} (h : Shuffled xs ys) : setItems follow xs = setItems follow ys := by
  rcases h with rfl | ⟨hp, hx⟩
  · rfl
  · exact setItems_perm hp hx

end Elements

section Reordered

variable {follow : ℕ → Except Fault Json}

lemma encodeWith_reordered {v w : Value} (h : Reordered v w) : encodeWith follow v = encodeWith follow w := by
  induction h with
  | refl => rfl
  | list hl _ ih | tuple hl _ ih | array _ _ hl _ ih =>
    rw [encodeWith, encodeWith, encodeItems_congr (forall₂_of_getElem? hl ih)]
  | set hs hl _ ih =>
    rw [encodeWith_set_eq, encodeWith_set_eq, setItems_shuffled hs, setItems, setItems,
      encodeItems_congr (forall₂_of_getElem? hl ih)]
  | frozenset hs hl _ ih =>
    rw [encodeWith_frozenset_eq, encodeWith_frozenset_eq, setItems_shuffled hs, setItems, setItems,
      encodeItems_congr (forall₂_of_getElem? hl ih)]
  | dict hl hk _ ihk ihv =>
    obtain ⟨hvalues, hentries⟩ := encodeEntries_congr (forall₂_of_getElem? hl fun i e f he hf =>
      ⟨ihk i e f he hf, ihv i e f he hf⟩)
    have hkeys := plainKeys?_congr (forall₂_of_getElem? hl fun i e f he hf => (hk i e f he hf).textOf?)
    rw [encodeWith, encodeWith, hkeys, hvalues, hentries]
  | extended _ _ ih => rw [encodeWith, encodeWith, ih]
  | member _ mixin _ _ ih => cases mixin <;> simp only [encodeWith, ih]
  | @object cls as bs hn _ ih =>
    have hl : as.length = bs.length := by simpa using congrArg List.length hn
    have hattrs : List.Forall₂ (fun a b => a.1 = b.1 ∧ encodeWith follow a.2 = encodeWith follow b.2) as bs := by
      refine forall₂_of_getElem? hl fun i a b ha hb => ⟨?_, ih i a b ha hb⟩
      have hname := congrArg (·[i]?) hn
      simpa [ha, hb] using hname
    rw [encodeWith, encodeWith, hn, encodeAttrs_congr cls hattrs]

lemma encodeLink_reordered {heap heap' : Heap} (hh : List.Forall₂ Reordered heap heap') (fuel : ℕ) (trail : List ℕ) :
    encodeLink heap fuel trail = encodeLink heap' fuel trail := by
  induction fuel generalizing trail with
  | zero => rfl
  | succ fuel ih =>
    funext a
    rw [encodeLink, encodeLink, ih]
    cases hv : heap[a]? with
    | none =>
      have hlen := hh.length_eq
      rw [List.getElem?_eq_none_iff, hlen, ← List.getElem?_eq_none_iff] at hv
      rw [hv]
    | some v =>
      cases hw : heap'[a]? with
      | none =>
        have hlen := hh.length_eq
        rw [List.getElem?_eq_none_iff, ← hlen, ← List.getElem?_eq_none_iff, hv] at hw
        cases hw
      | some w => simp only [encodeWith_reordered (getElem?_of_forall₂ hh a v w hv hw)]

variable {heap heap' : Heap} {v w : Value}

lemma encode_reordered (hh : List.Forall₂ Reordered heap heap') (h : Reordered v w) :
    encode heap v = encode heap' w := by
  rw [encode, encode, hh.length_eq, encodeLink_reordered hh, encodeWith_reordered h]

/-- A plain value has one form, in whatever order its sets and the sets in them are iterated. -/
theorem encode_same (hv : Plain v) (h : Same v w) : encode heap v = encode heap w :=
  encode_reordered (List.forall₂_same.mpr fun x _ => .refl x) (h.reordered hv)

end Reordered

end Codec

end CallSnapshot
