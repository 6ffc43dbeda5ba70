import CallSnapshot.Proofs.Codec.Fixed
import CallSnapshot.Proofs.Codec.Visited

/-!
The data of a value hold a tag only where the encoder has put one: wherever the decoder comes to, an
object with a tag is one that it knows, whatever keys, names and numbers lie in the value. And all
numbers in them are finite.
-/

namespace CallSnapshot

namespace Json

mutual

def isFinite : Json → Bool
  | .float x => x.isFinite
  | .arr items => areFinite items
  | .obj members => membersFinite members
  | _ => true

def areFinite : List Json → Bool
  | [] => true
  | x :: xs => isFinite x && areFinite xs

def membersFinite : List (String × Json) → Bool
  | [] => true
  | (_, x) :: xs => isFinite x && membersFinite xs

end

lemma isFinite_arr {items : List Json} : (arr items).isFinite = true ↔ ∀ x ∈ items, x.isFinite = true := by
  rw [isFinite]
  induction items with
  | nil => simp [areFinite]
  | cons x xs ih => simp [areFinite, ih]

lemma isFinite_obj {members : List (String × Json)} :
    (obj members).isFinite = true ↔ ∀ m ∈ members, m.2.isFinite = true := by
  rw [isFinite]
  induction members with
  | nil => simp [membersFinite]
  | cons m ms ih => simp [membersFinite, ih]

/-- The text of data in which no number may stand that is not finite. -/
def printStrictly (l : Layout) (data : Json) : Except Fault String :=
  if data.isFinite then print l data else .error ⟨.value, "Out of range float values are not JSON compliant"⟩

end Json

namespace Value

/-- All durations in a value are in the range that there is for them. -/
inductive Timely : Value → Prop
  | of {v : Value} (hd : ∀ d, v = .duration d → d.check = .ok d) (h : ∀ p ∈ v.makings, Timely p) : Timely v

lemma Timely.duration {d : Duration} (h : Timely (.duration d)) : d.check = .ok d := by
  obtain ⟨hd, -⟩ := h
  exact hd d rfl

lemma Timely.makings {v : Value} (h : v.Timely) : ∀ p ∈ v.makings, p.Timely := by
  obtain ⟨-, h⟩ := h
  exact h

end Value

namespace Codec

open Noting
open Value (Timely)

/-- Data that hold finite numbers alone and are well tagged. -/
structure Proper (data : Json) : Prop where
  finite : data.isFinite = true
  tagged : WellTagged data

lemma proper_arr {items : List Json} (h : ∀ x ∈ items, Proper x) : Proper (.arr items) where
  finite := Json.isFinite_arr.mpr fun x hx => (h x hx).finite
  tagged := .of_visited nofun fun x hx => (h x hx).tagged

lemma proper_obj {members : List (String × Json)} (ht : Json.find? tagKey members = none)
    (h : ∀ m ∈ members, Proper m.2) : Proper (.obj members) where
  finite := Json.isFinite_obj.mpr fun m hm => (h m hm).finite
  tagged := by
    refine .of_visited (fun tag htag => ?_) fun x hx => ?_
    · rw [Json.get?, ht] at htag
      cases htag
    · rw [visited, ht] at hx
      obtain ⟨m, hm, rfl⟩ := List.mem_map.mp hx
      exact (h m hm).tagged

lemma find?_tagged (tag : String) (members : List (String × Json)) :
    Json.find? tagKey ((tagKey, .str tag) :: members) = some (.str tag) := by
  simp [Json.find?]

lemma proper_tagged {tag : String} {fields : List String} {members : List (String × Json)}
    (ht : fieldsOf? tag = some fields) (hfields : ∀ f ∈ fields, ∃ x, (tagged tag members).get? f = some x)
    (hfinite : ∀ m ∈ members, m.2.isFinite = true)
    (h : ∀ x ∈ valuesUnder tag ((tagKey, .str tag) :: members), Proper x) : Proper (tagged tag members) where
  finite := Json.isFinite_obj.mpr (List.forall_mem_cons.mpr ⟨rfl, hfinite⟩)
  tagged := by
    refine .of_visited (fun t htag => ?_) fun x hx => ?_
    · rw [tagged, Json.get?, find?_tagged] at htag
      cases htag
      exact ⟨tag, fields, rfl, ht, hfields⟩
    · rw [tagged, visited, find?_tagged, Option.bind_some, known?_str, ht] at hx
      exact (h x hx).tagged

lemma proper_leaf {data : Json} (hfinite : data.isFinite = true) (ht : data.get? tagKey = none)
    (h : visited data = []) : Proper data where
  finite := hfinite
  tagged := .of_visited (fun tag htag => by rw [ht] at htag; cases htag) (by simp [h])

attribute [local simp] fieldsOf? valuesUnder tagged tagKey Json.get? Json.find? Json.isFinite partsOf parts
  Except.toOption

lemma proper_encodeFloat (x : Binary64) (name : String) : Proper (encodeFloat x name) := by
  unfold encodeFloat
  split
  · rename_i h
    exact proper_leaf h rfl rfl
  · exact proper_tagged rfl (by simp) (by simp) (by simp)

lemma proper_items {tag : String} (ht : tag = "tuple" ∨ tag = "set" ∨ tag = "frozenset") {items : List Json}
    (h : ∀ x ∈ items, Proper x) : Proper (tagged tag [("items", .arr items)]) := by
  have hfinite := (proper_arr h).finite
  rcases ht with rfl | rfl | rfl <;>
    exact proper_tagged rfl (by simp) (by simpa using hfinite) (by simpa using h)

lemma proper_entries {items : List Json} (h : ∀ x ∈ items, ∃ k v, x = .arr [k, v] ∧ Proper k ∧ Proper v) :
    Proper (tagged "dict" [("items", .arr items)]) := by
  have hfinite : (Json.arr items).isFinite = true := by
    refine Json.isFinite_arr.mpr fun x hx => ?_
    obtain ⟨k, v, rfl, hk, hv⟩ := h x hx
    exact Json.isFinite_arr.mpr (by simp [hk.finite, hv.finite])
  refine proper_tagged rfl (by simp) (by simpa using hfinite) fun y hy => ?_
  obtain ⟨x, hx, hy⟩ : ∃ x ∈ items, y ∈ keyAndValue x := by simpa using hy
  obtain ⟨k, v, rfl, hk, hv⟩ := h x hx
  rcases (by simpa [keyAndValue, pair] using hy : y = k ∨ y = v) with rfl | rfl
  · exact hk
  · exact hv

lemma proper_complex {re im : Json} (hr : Proper re) (hi : Proper im) :
    Proper (tagged "complex" [("real", re), ("imag", im)]) :=
  proper_tagged rfl (by simp) (by simp [hr.finite, hi.finite]) (by simp [hr, hi])

lemma proper_enum (cls : String) {name value : Json} (hname : name.isFinite = true) (hvalue : Proper value) :
    Proper (tagged "enum" [("class", .str cls), ("name", name), ("value", value)]) :=
  proper_tagged rfl (by simp) (by simp [hname, hvalue.finite]) (by simp [hvalue])

/-- The state of an instance is no value, whatever its attributes are called, but what they are set to is. -/
lemma proper_object (cls : String) {state : List (String × Json)} (h : ∀ m ∈ state, Proper m.2) :
    Proper (tagged "object" [("class", .str cls), ("state", .obj state)]) := by
  have hfinite := Json.isFinite_obj.mpr fun m hm => (h m hm).finite
  refine proper_tagged rfl (by simp) (by simpa using hfinite) fun x hx => ?_
  obtain ⟨k, hm⟩ : ∃ k, (k, x) ∈ state := by simpa [stateOf] using hx
  exact h _ hm

lemma proper_array (element : String) (shape : List ℕ) {data : Json} (h : Proper data) :
    Proper (tagged "ndarray" [("dtype", .str element),
      ("shape", .arr (shape.map fun (n : ℕ) => .int n)), ("data", data)]) := by
  have hshape : (Json.arr (shape.map fun (n : ℕ) => .int n)).isFinite = true := by
    refine Json.isFinite_arr.mpr fun x hx => ?_
    obtain ⟨n, -, rfl⟩ := List.mem_map.mp hx
    rfl
  exact proper_tagged rfl (by simp) (by simpa using ⟨hshape, h.finite⟩) (by simpa using h)

lemma plainKeys?_tag {es : List (Value × Value)} {keys : List String} (h : plainKeys? es = some keys) :
    tagKey ∉ keys := by
  unfold plainKeys? at h
  split at h
  · split at h
    · cases h
    · rename_i hkeys
      cases h
      simpa using hkeys
  · cases h

lemma proper_single {follow : ℕ → Except Fault Json} {v : Value} {data : Json} (hv : v.Timely)
    (hs : v.isSingle = true) (h : encodeWith follow v = .ok data) : Proper data := by
  cases v with
  | list | tuple | set | frozenset | array | dict | extended | member | scalar | object | link => cases hs
  | null | bool | int | str =>
    rw [encodeWith] at h
    cases h
    exact proper_leaf rfl rfl rfl
  | float x =>
    rw [encodeWith] at h
    cases h
    exact proper_encodeFloat x _
  | complex re im =>
    rw [encodeWith] at h
    cases h
    exact proper_complex (proper_encodeFloat re _) (proper_encodeFloat im _)
  | duration d =>
    rw [encodeWith] at h
    cases h
    exact proper_tagged rfl (by simp) (by simpa using Duration.totalSeconds_isFinite hv.duration) (by simp)
  | _ =>
    rw [encodeWith] at h
    cases h
    exact proper_tagged rfl (by simp) (by simp) (by simp)

lemma formed_proper : Formed Timely Proper where
  making hv hp := hv.makings _ hp
  single := proper_single
  constant d := by cases d <;> exact proper_leaf rfl rfl rfl
  circular := proper_tagged rfl (by simp) (by simp) (by simp)
  float _ name := proper_encodeFloat _ name
  list := proper_arr
  items := proper_items
  members _ _ hk _ h := proper_obj (find?_tag (plainKeys?_tag hk) _) fun m hm => h m.2 (List.of_mem_zip hm).2
  entries := proper_entries
  member cls name _ h := proper_enum cls (by cases name <;> rfl) h
  object {cls _} _ _ _ h := by
    refine proper_object _ fun m hm => ?_
    rcases mem_shownState hm with ⟨n, hn, heq⟩ | ⟨d, heq⟩
    · exact heq ▸ h n hn
    · rw [heq]
      cases d <;> exact proper_leaf rfl rfl rfl
  array element shape _ h := proper_array element shape h

lemma decode_dict {follow : ℕ → Except Fault Json} {es : List (Value × Value)} {data : Json}
    (h : encodeWith follow (.dict es) = .ok data) {mode : Mode} {w : Value} (hw : (decode mode data).start.1 = .ok w) :
    ∃ fs, w = .dict fs := by
  have hnode : ∀ recur, Gives (decodeNode mode recur data) fun w => ∃ fs, w = .dict fs := by
    intro recur
    rw [encodeWith] at h
    split at h
    · rename_i keys hkeys
      obtain ⟨ys, -, h⟩ := bind_eq_ok.mp h
      cases h
      simp only [decodeNode, find?_tag (plainKeys?_tag hkeys) ys]
      exact Gives.bind (P := fun _ => True) (fun _ _ _ _ => trivial) fun ms _ => gives_pure ⟨_, rfl⟩
    · obtain ⟨ys, -, h⟩ := bind_eq_ok.mp h
      cases h
      simp only [decodeNode, tagged, find?_tagged, decodeTagged]
      refine (gives_settled _).bind fun _ _ => (gives_settled _).bind fun _ _ => ?_
      exact Gives.bind (P := fun _ => True) (fun _ _ _ _ => trivial) fun fs _ => gives_pure ⟨_, rfl⟩
  obtain ⟨n, hn⟩ := Nat.exists_eq_add_of_lt (size_pos data)
  rw [decode, hn, Nat.zero_add, decodeTo] at hw
  exact hnode _ [] w _ (Prod.ext hw rfl)

/-- The data that a value is written as have finite numbers only. Wherever the decoder comes to in them, a
tag is a known one with its fields, so that it never warns of one; what was a dictionary it takes for
nothing else. And a writer that takes finite numbers only writes them as any other does. -/
theorem encode_wellTagged {heap : Heap} (hh : ∀ x ∈ heap, x.Timely) {v : Value} (hv : v.Timely) {data : Json}
    (h : encode heap v = .ok data) :
    data.isFinite = true ∧
      (∀ x, Reached x data → ∀ tag, x.get? tagKey = some tag → ∃ s fields, tag = .str s ∧
        fieldsOf? s = some fields ∧ ∀ f ∈ fields, ∃ y, x.get? f = some y) ∧
      (∀ mode, ∀ n ∈ (decode mode data).start.2, n.level = .debug) ∧
      (∀ follow es x, encodeWith follow (.dict es) = .ok x → ∀ mode w, (decode mode x).start.1 = .ok w →
        ∃ fs, w = .dict fs) ∧
      dumps heap v = Json.printStrictly Json.compact data := by
  have hproper := formed_proper.encode hh hv h
  refine ⟨hproper.finite, hproper.tagged, fun mode => ?_, fun _ _ _ hx _ _ => decode_dict hx, ?_⟩
  · exact quiet_decodeTo hproper.tagged data.size [] nofun
  · rw [dumps, h, ok_bind, Json.printStrictly, if_pos hproper.finite]

/-- A list that lies in itself, beside a dictionary that looks like a tagged object and an instance that has
an attribute of that name. -/
def entangled : Heap :=
  [.list [.link 0, .dict [(.str tagKey, .float .nan), (.str "items", .duration ⟨1500000⟩)],
    .object ⟨⟨"m", "C"⟩, .openEnded, .each⟩ [(tagKey, .str "tuple")]]]

theorem encode_wellTagged_entangled : ∃ data, encode entangled (.link 0) = .ok data ∧
    data.isFinite = true ∧
      (∀ x, Reached x data → ∀ tag, x.get? tagKey = some tag → ∃ s fields, tag = .str s ∧
        fieldsOf? s = some fields ∧ ∀ f ∈ fields, ∃ y, x.get? f = some y) ∧
      (∀ mode, ∀ n ∈ (decode mode data).start.2, n.level = .debug) ∧
      (∀ follow es x, encodeWith follow (.dict es) = .ok x → ∀ mode w, (decode mode x).start.1 = .ok w →
        ∃ fs, w = .dict fs) ∧
      dumps entangled (.link 0) = Json.printStrictly Json.compact data := by
  have atom : ∀ v : Value, v.makings = [] → (∀ d, v ≠ .duration d) → v.Timely := fun v hm hd =>
    .of (fun d h => absurd h (hd d)) (by simp [hm])
  have hlink : Timely (.link 0) := atom _ rfl (by simp)
  have htext : ∀ s, Timely (.str s) := fun s => atom _ rfl (by simp)
  have hnan : Timely (.float .nan) := atom _ rfl (by simp)
  have hspan : Timely (.duration ⟨1500000⟩) := .of (by rintro d ⟨⟩; decide) (by simp [Value.makings])
  have hheap : ∀ x ∈ entangled, x.Timely := by
    refine List.forall_mem_singleton.mpr (.of (by simp) (List.forall_mem_cons.mpr ⟨hlink, ?_⟩))
    refine List.forall_mem_cons.mpr ⟨.of (by simp) ?_, List.forall_mem_singleton.mpr (.of (by simp) ?_)⟩
    · simp [Value.makings, htext, hnan, hspan]
    · simp [Value.makings, htext]
  have hdata : ∃ data, encode entangled (.link 0) = .ok data := ⟨_, rfl⟩
  obtain ⟨data, hdata⟩ := hdata
  exact ⟨data, hdata, encode_wellTagged hheap hlink hdata⟩
end Codec

end CallSnapshot
