import CallSnapshot.Proofs.Codec.Order
import CallSnapshot.Proofs.Value.Basic

/-!
Which values of the basic kinds have data. All but the items of sets are written as they come; these are sorted
by their texts, so that none of the integers in a set may be too long for a text.
-/

namespace CallSnapshot

namespace Value

/-- All integers in a value have a text. -/
def Short : Value → Prop := Everywhere fun x => ∀ n, x = .int n → Numeral.Short n

/-- All integers in the sets of a value have a text. -/
def Sortable : Value → Prop :=
  Everywhere fun x => ∀ xs, x = .set xs ∨ x = .frozenset xs → ∀ y ∈ xs, y.Short

lemma Short.sortable {v : Value} (h : v.Short) : v.Sortable := by
  rintro x hx xs hxs y hy z hz
  have hpart : y ∈ x.parts := by
    rcases hxs with rfl | rfl <;> exact hy
  exact h z (hz.trans (.trans (.part hpart (.self y)) hx))

end Value

namespace Codec

open Value (Basic Atom Distinct Short Sortable Everywhere everywhere_iff everywhere_atom
  everywhere_of_parts_eq_nil)

variable {follow : ℕ → Except Fault Json}

attribute [local simp] encodeWith encodeItems encodeValues encodeEntries bind_eq_ok

lemma encodeItems_iff {xs : List Value} {ys : List Json} : encodeItems follow xs = .ok ys ↔
    List.Forall₂ (fun x y => encodeWith follow x = .ok y) xs ys := by
  induction xs generalizing ys with
  | nil => simp [eq_comm]
  | cons x xs ih =>
    simp only [encodeItems, bind_eq_ok, List.forall₂_cons_left_iff, ih, Except.ok.injEq]
    constructor
    · rintro ⟨y, hy, ys, hys, rfl⟩
      exact ⟨y, ys, hy, hys, rfl⟩
    · rintro ⟨y, ys, hy, hys, rfl⟩
      exact ⟨y, hy, ys, hys, rfl⟩

lemma encodeItems_eq_error {xs : List Value} {e : Fault} (h : encodeItems follow xs = .error e) :
    ∃ x ∈ xs, encodeWith follow x = .error e := by
  induction xs with
  | nil => cases h
  | cons x xs ih =>
    rcases bind_eq_error.mp h with h | ⟨_, -, h⟩
    · exact ⟨x, List.mem_cons_self, h⟩
    · rcases bind_eq_error.mp h with h | ⟨_, -, h⟩
      · obtain ⟨y, hy, h⟩ := ih h
        exact ⟨y, List.mem_cons_of_mem x hy, h⟩
      · cases h

lemma encodeValues_eq (es : List (Value × Value)) :
    encodeValues follow es = encodeItems follow (es.map Prod.snd) := by
  induction es with
  | nil => simp
  | cons e es ih => simp [ih]

/-- The data of an entry whose key is no mere text. -/
def EntryData (follow : ℕ → Except Fault Json) (e : Value × Value) (z : Json) : Prop :=
  ∃ a b, encodeWith follow e.1 = .ok a ∧ encodeWith follow e.2 = .ok b ∧ z = .arr [a, b]

lemma encodeEntries_iff {es : List (Value × Value)} {zs : List Json} :
    encodeEntries follow es = .ok zs ↔ List.Forall₂ (EntryData follow) es zs := by
  induction es generalizing zs with
  | nil => simp [eq_comm]
  | cons e es ih =>
    simp only [encodeEntries, bind_eq_ok, List.forall₂_cons_left_iff, ih, Except.ok.injEq]
    constructor
    · rintro ⟨a, ha, b, hb, zs, hzs, rfl⟩
      exact ⟨_, zs, ⟨a, b, ha, hb, rfl⟩, hzs, rfl⟩
    · rintro ⟨_, zs, ⟨a, b, ha, hb, rfl⟩, hzs, rfl⟩
      exact ⟨a, ha, b, hb, zs, hzs, rfl⟩

lemma mapM_textOf? {xs : List Value} (hx : ∀ x ∈ xs, Basic x) {keys : List String}
    (h : xs.mapM Value.textOf? = some keys) : xs = keys.map .str := by
  induction xs generalizing keys with
  | nil =>
    simp only [List.mapM_nil, Option.pure_def, Option.some.injEq] at h
    rw [← h, List.map_nil]
  | cons x xs ih =>
    simp only [List.forall_mem_cons] at hx
    simp only [List.mapM_cons, Option.bind_eq_bind, Option.pure_def, Option.bind_eq_some_iff,
      Option.some.injEq] at h
    obtain ⟨s, hs, ks, hks, rfl⟩ := h
    rw [hx.1.textOf?_eq_some.mp hs, ih hx.2 hks, List.map_cons]

lemma plainKeys?_eq_some {es : List (Value × Value)} (hk : ∀ e ∈ es, Basic e.1) {keys : List String}
    (h : plainKeys? es = some keys) : es.map Prod.fst = keys.map .str ∧ tagKey ∉ keys := by
  unfold plainKeys? at h
  cases hm : es.mapM fun e => e.1.textOf? with
  | none => simp [hm] at h
  | some ks =>
    simp only [hm] at h
    split at h
    · cases h
    · obtain rfl : ks = keys := Option.some.inj h
      refine ⟨mapM_textOf? (by simpa using hk) ?_, by simp_all⟩
      rw [← hm, List.mapM_map]
      rfl

lemma encodeWith_dict {es : List (Value × Value)} (hk : ∀ e ∈ es, Basic e.1) {data : Json} :
    encodeWith follow (.dict es) = .ok data ↔
      (∃ keys ys, es.map Prod.fst = keys.map .str ∧ tagKey ∉ keys ∧ plainKeys? es = some keys ∧
        List.Forall₂ (fun x y => encodeWith follow x = .ok y) (es.map Prod.snd) ys ∧
        data = .obj (keys.zip ys)) ∨
      (∃ zs, plainKeys? es = none ∧ List.Forall₂ (EntryData follow) es zs ∧
        data = tagged "dict" [("items", .arr zs)]) := by
  rw [encodeWith]
  cases h : plainKeys? es with
  | none =>
    simp only [bind_eq_ok, encodeEntries_iff, Except.ok.injEq, reduceCtorEq, false_and, and_false,
      exists_false, false_or, true_and]
    exact ⟨fun ⟨zs, hzs, h⟩ => ⟨zs, hzs, h.symm⟩, fun ⟨zs, hzs, h⟩ => ⟨zs, hzs, h.symm⟩⟩
  | some keys =>
    obtain ⟨h₁, h₂⟩ := plainKeys?_eq_some hk h
    simp only [bind_eq_ok, encodeValues_eq, encodeItems_iff, Except.ok.injEq, Option.some.injEq,
      reduceCtorEq, false_and, exists_false, or_false]
    constructor
    · rintro ⟨ys, hys, rfl⟩
      exact ⟨keys, ys, h₁, h₂, rfl, hys, rfl⟩
    · rintro ⟨_, ys, -, -, rfl, hys, rfl⟩
      exact ⟨ys, hys, rfl⟩

lemma encodeWith_list {xs : List Value} {data : Json} : encodeWith follow (.list xs) = .ok data ↔
    ∃ ys, List.Forall₂ (fun x y => encodeWith follow x = .ok y) xs ys ∧ data = .arr ys := by
  simp [encodeItems_iff, eq_comm (a := data)]

lemma encodeWith_tuple {xs : List Value} {data : Json} : encodeWith follow (.tuple xs) = .ok data ↔
    ∃ ys, List.Forall₂ (fun x y => encodeWith follow x = .ok y) xs ys ∧
      data = tagged "tuple" [("items", .arr ys)] := by
  simp [encodeItems_iff, eq_comm (a := data)]

/-- What the data of a set are, of either kind. -/
def SetData (follow : ℕ → Except Fault Json) (tag : String) (xs : List Value) (data : Json) : Prop :=
  ∃ ys zs, List.Forall₂ (fun x y => encodeWith follow x = .ok y) xs ys ∧ sortItems ys = .ok zs ∧
    data = tagged tag [("items", .arr zs)]

lemma encodeWith_set {xs : List Value} {data : Json} :
    encodeWith follow (.set xs) = .ok data ↔ SetData follow "set" xs data := by
  simp [encodeItems_iff, SetData, eq_comm (a := data)]

lemma encodeWith_frozenset {xs : List Value} {data : Json} :
    encodeWith follow (.frozenset xs) = .ok data ↔ SetData follow "frozenset" xs data := by
  simp [encodeItems_iff, SetData, eq_comm (a := data)]

lemma forall₂_iff {α β : Type} {r : α → β → Prop} {P : α → Prop} {Q : β → Prop} {xs : List α}
    {ys : List β} (h : List.Forall₂ r xs ys) (hr : ∀ x ∈ xs, ∀ y, r x y → (P x ↔ Q y)) :
    (∀ x ∈ xs, P x) ↔ ∀ y ∈ ys, Q y := by
  induction h with
  | nil => simp
  | @cons x y xs ys hxy _ ih =>
    simp only [List.forall_mem_cons] at hr ⊢
    rw [hr.1 y hxy, ih hr.2]

lemma exists_forall₂_iff {α β : Type} {r : α → β → Prop} {xs : List α} :
    (∃ ys, List.Forall₂ r xs ys) ↔ ∀ x ∈ xs, ∃ y, r x y := by
  induction xs with
  | nil => exact ⟨nofun, fun _ => ⟨[], .nil⟩⟩
  | cons x xs ih =>
    simp only [List.forall_mem_cons, ← ih, List.forall₂_cons_left_iff]
    constructor
    · rintro ⟨_, y, ys, hy, hys, rfl⟩
      exact ⟨⟨y, hy⟩, ys, hys⟩
    · rintro ⟨⟨y, hy⟩, ys, hys⟩
      exact ⟨_, y, ys, hy, hys, rfl⟩

lemma floatData_printable (x : Binary64) : (floatData x).Printable := by
  unfold floatData encodeFloat
  split <;> simp [tagged, Json.Printable, Json.PrintableMembers]

lemma encodeWith_atom {v : Value} (h : Atom v) :
    ∃ data, encodeWith follow v = .ok data ∧ (data.Printable ↔ v.Short) := by
  have hs : v.Short ↔ ∀ n, v = .int n → Numeral.Short n := everywhere_atom h
  rw [hs]
  cases h with
  | float => exact ⟨_, by rw [encodeWith], by simp [floatData_printable]⟩
  | complex =>
    exact ⟨_, by rw [encodeWith],
      by simp [tagged, Json.Printable, Json.PrintableMembers, floatData_printable]⟩
  | _ => exact ⟨_, by rw [encodeWith], by simp [tagged, Json.Printable, Json.PrintableMembers]⟩

lemma short_iff {v : Value} (h : ∀ n, v ≠ .int n) : v.Short ↔ ∀ p ∈ v.parts, p.Short := by
  rw [Short, everywhere_iff]
  exact and_iff_right fun n hn => absurd hn (h n)

lemma setData_printable {tag : String} {xs : List Value} {data : Json}
    (h : SetData follow tag xs data)
    (ih : ∀ x ∈ xs, ∀ y, encodeWith follow x = .ok y → (y.Printable ↔ x.Short)) :
    data.Printable ∧ ∀ x ∈ xs, x.Short := by
  obtain ⟨ys, zs, hys, hzs, rfl⟩ := h
  obtain ⟨hp, hw⟩ := sortItems_eq_ok hzs
  refine ⟨?_, (forall₂_iff hys fun x hx y hy => (ih x hx y hy).symm).mpr hw⟩
  simp only [tagged, Json.Printable, Json.PrintableMembers, Json.printableItems_iff, true_and,
    and_true]
  exact fun z hz => hw z (hp.mem_iff.mp hz)

lemma short_duration (d : Duration) : Short (.duration d) :=
  (everywhere_of_parts_eq_nil rfl).mpr (by simp)

lemma short_of_texts {es : List (Value × Value)} {keys : List String} (h : es.map Prod.fst = keys.map .str) :
    ∀ k ∈ es.map Prod.fst, k.Short := by
  intro k hk
  rw [h] at hk
  obtain ⟨s, -, rfl⟩ := List.mem_map.mp hk
  exact (everywhere_atom (.str s)).mpr (by simp)

lemma printable_zip {es : List (Value × Value)} {keys : List String} {ys : List Json}
    (hkeys : es.map Prod.fst = keys.map .str)
    (hys : List.Forall₂ (fun x y => encodeWith follow x = .ok y) (es.map Prod.snd) ys) :
    (Json.obj (keys.zip ys)).Printable ↔ ∀ y ∈ ys, y.Printable := by
  have hlen : ys.length ≤ keys.length := by
    have hfst := congrArg List.length hkeys
    rw [List.length_map, List.length_map] at hfst
    rw [← hys.length_eq, List.length_map, hfst]
  rw [Json.Printable, Json.printableMembers_iff]
  conv_rhs => rw [← List.map_snd_zip hlen, List.forall_mem_map]

theorem printable_iff_short {v : Value} (hv : Basic v) {data : Json}
    (h : encodeWith follow v = .ok data) : data.Printable ↔ v.Short := by
  induction hv generalizing data with
  | @atom v hv =>
    obtain ⟨d, hd, hs⟩ := @encodeWith_atom follow _ hv
    rw [h] at hd
    cases hd
    exact hs
  | @duration d _ =>
    rw [encodeWith] at h
    cases h
    exact iff_of_true (by simp [tagged, Json.Printable, Json.PrintableMembers]) (short_duration d)
  | @list xs _ ih =>
    obtain ⟨ys, hys, rfl⟩ := encodeWith_list.mp h
    rw [short_iff (by simp), Json.Printable, Json.printableItems_iff]
    exact (forall₂_iff hys fun x hx y hy => (ih x hx hy).symm).symm
  | @tuple xs _ ih =>
    obtain ⟨ys, hys, rfl⟩ := encodeWith_tuple.mp h
    rw [short_iff (by simp)]
    simp only [tagged, Json.Printable, Json.PrintableMembers, Json.printableItems_iff, true_and,
      and_true]
    exact (forall₂_iff hys fun x hx y hy => (ih x hx hy).symm).symm
  | @set xs _ _ _ ih =>
    obtain ⟨hd, hx⟩ := setData_printable (encodeWith_set.mp h) fun x hx y hy => ih x hx hy
    rw [short_iff (by simp)]
    exact iff_of_true hd hx
  | @frozenset xs _ _ _ ih =>
    obtain ⟨hd, hx⟩ := setData_printable (encodeWith_frozenset.mp h) fun x hx y hy => ih x hx hy
    rw [short_iff (by simp)]
    exact iff_of_true hd hx
  | @dict es hk _ _ hv ihk ihv =>
    rw [short_iff (by simp), Value.parts, List.forall_mem_append]
    rcases (encodeWith_dict hk).mp h with
      ⟨keys, ys, hkeys, -, -, hys, rfl⟩ | ⟨zs, -, hzs, rfl⟩
    · rw [and_iff_right (short_of_texts hkeys), printable_zip hkeys hys]
      refine (forall₂_iff hys fun x hx y hy => ?_).symm
      obtain ⟨e, he, rfl⟩ := List.mem_map.mp hx
      exact (ihv e he hy).symm
    · simp only [tagged, Json.Printable, Json.PrintableMembers, Json.printableItems_iff, true_and,
        and_true]
      have hz : (∀ e ∈ es, e.1.Short ∧ e.2.Short) ↔ ∀ z ∈ zs, z.Printable := by
        refine forall₂_iff hzs fun e he z ⟨a, b, ha, hb, hz⟩ => ?_
        rw [hz, ← ihk e he ha, ← ihv e he hb]
        simp [Json.Printable, Json.PrintableItems]
      rw [← hz, List.forall_mem_map, List.forall_mem_map]
      exact ⟨fun h => ⟨fun e he => (h e he).1, fun e he => (h e he).2⟩,
        fun h e he => ⟨h.1 e he, h.2 e he⟩⟩

lemma sortable_iff {v : Value} (h : ∀ xs, v ≠ .set xs ∧ v ≠ .frozenset xs) :
    v.Sortable ↔ ∀ p ∈ v.parts, p.Sortable := by
  rw [Sortable, everywhere_iff]
  refine and_iff_right fun xs hx => ?_
  rcases hx with hx | hx
  · exact absurd hx (h xs).1
  · exact absurd hx (h xs).2

lemma exists_setData_iff {tag : String} {xs : List Value} (hx : ∀ x ∈ xs, Basic x)
    (ih : ∀ x ∈ xs, (∃ data, encodeWith follow x = .ok data) ↔ x.Sortable) :
    (∃ data, SetData follow tag xs data) ↔ (∀ x ∈ xs, x.Short) ∧ ∀ x ∈ xs, x.Sortable := by
  have short : ∀ x ∈ xs, ∀ y, encodeWith follow x = .ok y → (x.Short ↔ y.Printable) :=
    fun x hm y hy => (printable_iff_short (hx x hm) hy).symm
  constructor
  · rintro ⟨data, ys, zs, hys, hzs, rfl⟩
    refine ⟨(forall₂_iff hys short).mpr (sortItems_eq_ok hzs).2, fun x hm => (ih x hm).mp ?_⟩
    exact exists_forall₂_iff.mp ⟨ys, hys⟩ x hm
  · rintro ⟨hshort, hsort⟩
    obtain ⟨ys, hys⟩ := exists_forall₂_iff.mpr fun x hm => (ih x hm).mpr (hsort x hm)
    obtain ⟨zs, hzs⟩ := exists_sortItems ((forall₂_iff hys short).mp hshort)
    exact ⟨_, ys, zs, hys, hzs, rfl⟩

lemma exists_values_iff {xs : List Value} (ih : ∀ x ∈ xs, (∃ data, encodeWith follow x = .ok data) ↔ x.Sortable) :
    (∃ ys, List.Forall₂ (fun x y => encodeWith follow x = .ok y) xs ys) ↔ ∀ x ∈ xs, x.Sortable := by
  rw [exists_forall₂_iff]
  exact forall₂_congr ih

lemma exists_dictData_iff {es : List (Value × Value)} (hk : ∀ e ∈ es, Basic e.1)
    (ihk : ∀ e ∈ es, (∃ data, encodeWith follow e.1 = .ok data) ↔ e.1.Sortable)
    (ihv : ∀ e ∈ es, (∃ data, encodeWith follow e.2 = .ok data) ↔ e.2.Sortable) :
    (∃ data, encodeWith follow (.dict es) = .ok data) ↔
      (∀ e ∈ es, e.1.Sortable) ∧ ∀ e ∈ es, e.2.Sortable := by
  have values : (∃ ys, List.Forall₂ (fun x y => encodeWith follow x = .ok y) (es.map Prod.snd) ys) ↔
      ∀ e ∈ es, e.2.Sortable :=
    (exists_values_iff (List.forall_mem_map.mpr ihv)).trans List.forall_mem_map
  simp only [encodeWith_dict hk]
  constructor
  · rintro ⟨data, ⟨keys, ys, hkeys, -, -, hys, -⟩ | ⟨zs, -, hzs, -⟩⟩
    · refine ⟨fun e he => (ihk e he).mp ?_, values.mp ⟨ys, hys⟩⟩
      have hm : e.1 ∈ keys.map Value.str := hkeys ▸ List.mem_map_of_mem he
      obtain ⟨s, -, hs⟩ := List.mem_map.mp hm
      exact ⟨.str s, by rw [← hs, encodeWith]⟩
    · have entry := exists_forall₂_iff.mp ⟨zs, hzs⟩
      refine ⟨fun e he => (ihk e he).mp ?_, fun e he => (ihv e he).mp ?_⟩
      · obtain ⟨_, a, _, ha, -⟩ := entry e he
        exact ⟨a, ha⟩
      · obtain ⟨_, _, b, -, hb, -⟩ := entry e he
        exact ⟨b, hb⟩
  · rintro ⟨hkey, hvalue⟩
    cases hplain : plainKeys? es with
    | some keys =>
      obtain ⟨h₁, h₂⟩ := plainKeys?_eq_some hk hplain
      obtain ⟨ys, hys⟩ := values.mpr hvalue
      exact ⟨_, .inl ⟨keys, ys, h₁, h₂, rfl, hys, rfl⟩⟩
    | none =>
      obtain ⟨zs, hzs⟩ : ∃ zs, List.Forall₂ (EntryData follow) es zs := by
        refine exists_forall₂_iff.mpr fun e he => ?_
        obtain ⟨a, ha⟩ := (ihk e he).mpr (hkey e he)
        obtain ⟨b, hb⟩ := (ihv e he).mpr (hvalue e he)
        exact ⟨_, a, b, ha, hb, rfl⟩
      exact ⟨_, .inr ⟨zs, rfl, hzs, rfl⟩⟩

/-- A value has data where the integers in its sets are not too long for a text. -/
theorem exists_data_iff {v : Value} (hv : Basic v) :
    (∃ data, encodeWith follow v = .ok data) ↔ v.Sortable := by
  induction hv with
  | @atom v hv =>
    obtain ⟨d, hd, -⟩ := @encodeWith_atom follow _ hv
    refine iff_of_true ⟨d, hd⟩ ((everywhere_atom hv).mpr ?_)
    rintro xs (rfl | rfl) <;> cases hv
  | @duration d _ =>
    refine iff_of_true ⟨_, by rw [encodeWith]⟩ ((everywhere_of_parts_eq_nil rfl).mpr ?_)
    rintro xs (h | h) <;> cases h
  | @list xs h ih =>
    rw [sortable_iff (by simp), Value.parts, ← exists_values_iff ih]
    simp only [encodeWith_list]
    exact ⟨fun ⟨_, ys, h, _⟩ => ⟨ys, h⟩, fun ⟨ys, h⟩ => ⟨_, ys, h, rfl⟩⟩
  | @tuple xs h ih =>
    rw [sortable_iff (by simp), Value.parts, ← exists_values_iff ih]
    simp only [encodeWith_tuple]
    exact ⟨fun ⟨_, ys, h, _⟩ => ⟨ys, h⟩, fun ⟨ys, h⟩ => ⟨_, ys, h, rfl⟩⟩
  | @set xs h _ _ ih =>
    simp only [encodeWith_set]
    rw [exists_setData_iff h ih, Sortable, everywhere_iff]
    simp [Value.parts]
  | @frozenset xs h _ _ ih =>
    simp only [encodeWith_frozenset]
    rw [exists_setData_iff h ih, Sortable, everywhere_iff]
    simp [Value.parts]
  | @dict es hk _ _ hv ihk ihv =>
    rw [sortable_iff (by simp), Value.parts, List.forall_mem_append, List.forall_mem_map, List.forall_mem_map]
    exact exists_dictData_iff hk ihk ihv

def following (heap : Heap) : ℕ → Except Fault Json := encodeLink heap (heap.length + 1) []

end Codec

end CallSnapshot
