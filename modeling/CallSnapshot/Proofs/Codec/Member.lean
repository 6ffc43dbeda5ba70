import CallSnapshot.Proofs.Codec.RoundTrip

/-!
Members of enumerations at any depth in lists, tuples and the values of dictionaries. All but those
that are texts are written with their class, name and value, and so read by plain decoding. Rebuilding
gives the member itself where the class has one of its name; a combination of flags has none, and a
member that is a text is a mere text from the start.
-/

namespace CallSnapshot.Codec

open Value (Basic Sortable)

/-- A value on its way: the data of it, what plain decoding makes of them and what rebuilding does. -/
structure Passage where
  value : Value
  data : Json
  plain : Value
  rebuilt : Value

def Single : Value → Prop
  | .list _ | .tuple _ | .dict _ | .member .. => False
  | _ => True

/-- The members of an enumeration that is found by the name of its class. -/
structure Listed (lib : Library) (cls : Qualified) (members : List (String × Value)) : Prop where
  importable : Importable lib cls
  known : lib.members? cls = some members

/-- The member of an enumeration that a name stands for. -/
def IsMember (lib : Library) (cls : Qualified) (name : String) (m : Value) : Prop :=
  ∃ members, Listed lib cls members ∧ members.find? (·.1 == name) = some (name, m)

/-- A combination, which has no name or none that stands for a member. -/
def IsCombination (lib : Library) (cls : Qualified) (name : Option String) : Prop :=
  ∃ members, Listed lib cls members ∧ ∀ n, name = some n → n ∉ members.map Prod.fst

def memberData (cls : Qualified) (name : Option String) (value : Json) : Json :=
  tagged "enum" [("class", .str cls.text), ("name", name.elim .null .str), ("value", value)]

def memberDict (cls : Qualified) (name : Option String) (value : Value) : Value :=
  .dict [(.str classKey, .str cls.text), (.str "name", name.elim .null .str), (.str "value", value)]

variable {follow : ℕ → Except Fault Json} {lib : Library} {mode : Mode}

section Passing

variable (follow lib)

/-- The value has the data, and these are read as the passage says. -/
structure Passes (p : Passage) : Prop where
  encoded : encodeWith follow p.value = .ok p.data
  plain : Decodes none p.data p.plain
  rebuilt : Decodes (some lib) p.data p.rebuilt

/-- A key that stays one. -/
structure KeyPasses (p : Passage) : Prop extends Passes follow lib p where
  basic : Basic p.value
  plainHash : p.plain.hashFault? = none
  rebuiltHash : p.rebuilt.hashFault? = none

/-- What becomes of members, through the containers around them. -/
inductive Travels : Passage → Prop
  | single {p : Passage} (hv : Single p.value) (h : Passes follow lib p) : Travels p
  | list {ps : List Passage} (h : ∀ p ∈ ps, Travels p) :
      Travels ⟨.list (ps.map (·.value)), .arr (ps.map (·.data)), .list (ps.map (·.plain)),
        .list (ps.map (·.rebuilt))⟩
  | tuple {ps : List Passage} (h : ∀ p ∈ ps, Travels p) :
      Travels ⟨.tuple (ps.map (·.value)), tagged "tuple" [("items", .arr (ps.map (·.data)))],
        .tuple (ps.map (·.plain)), .tuple (ps.map (·.rebuilt))⟩
  /-- All keys are texts. -/
  | fields {rows : List (String × Passage)} (ht : tagKey ∉ rows.map Prod.fst) (h : ∀ r ∈ rows, Travels r.2) :
      Travels ⟨.dict (rows.map fun r => (.str r.1, r.2.value)), .obj (rows.map fun r => (r.1, r.2.data)),
        .dict (rows.map fun r => (.str r.1, r.2.plain)), .dict (rows.map fun r => (.str r.1, r.2.rebuilt))⟩
  /-- Keys of other kinds; two that are read as equal ones are one key then. -/
  | entries {rows : List (Passage × Passage)} (hk : ∀ r ∈ rows, KeyPasses follow lib r.1)
      (hp : plainKeys? (rows.map fun r => (r.1.value, r.2.value)) = none) (h : ∀ r ∈ rows, Travels r.2) :
      Travels ⟨.dict (rows.map fun r => (r.1.value, r.2.value)),
        tagged "dict" [("items", .arr (rows.map fun r => .arr [r.1.data, r.2.data]))],
        .dict (gatherEntries [] (rows.map fun r => (r.1.plain, r.2.plain))),
        .dict (gatherEntries [] (rows.map fun r => (r.1.rebuilt, r.2.rebuilt)))⟩
  | named {cls : Qualified} {mixin : Mixin} {name : String} {p : Passage} (hm : mixin ≠ .str)
      (hn : IsMember lib cls name (.member cls mixin (some name) p.value)) (h : Passes follow lib p) :
      Travels ⟨.member cls mixin (some name) p.value, memberData cls (some name) p.data,
        memberDict cls (some name) p.plain, .member cls mixin (some name) p.value⟩
  | combined {cls : Qualified} {mixin : Mixin} {name : Option String} {p : Passage} (hm : mixin ≠ .str)
      (hn : IsCombination lib cls name) (h : Passes follow lib p) :
      Travels ⟨.member cls mixin name p.value, memberData cls name p.data, memberDict cls name p.plain,
        memberDict cls name p.rebuilt⟩
  | text (cls : Qualified) (name : Option String) (s : String) :
      Travels ⟨.member cls .str name (.str s), .str s, .str s, .str s⟩

inductive Enumerated : Value → Prop
  | single {v : Value} (hv : Single v) (h : ∃ p, Passes follow lib p ∧ p.value = v) : Enumerated v
  | list {xs : List Value} (h : ∀ x ∈ xs, Enumerated x) : Enumerated (.list xs)
  | tuple {xs : List Value} (h : ∀ x ∈ xs, Enumerated x) : Enumerated (.tuple xs)
  | dict {es : List (Value × Value)} (hk : ∀ e ∈ es, Basic e.1 ∧ e.1.Sortable ∧ e.1.hashFault? = none)
      (h : ∀ e ∈ es, Enumerated e.2) : Enumerated (.dict es)
  | named {cls : Qualified} {mixin : Mixin} {name : String} {v : Value} (hm : mixin ≠ .str)
      (hn : IsMember lib cls name (.member cls mixin (some name) v))
      (h : ∃ p, Passes follow lib p ∧ p.value = v) : Enumerated (.member cls mixin (some name) v)
  | combined {cls : Qualified} {mixin : Mixin} {name : Option String} {v : Value} (hm : mixin ≠ .str)
      (hn : IsCombination lib cls name) (h : ∃ p, Passes follow lib p ∧ p.value = v) :
      Enumerated (.member cls mixin name v)
  | text (cls : Qualified) (name : Option String) (s : String) : Enumerated (.member cls .str name (.str s))

end Passing

variable (follow lib) in
lemma exists_passes {v : Value} (hv : Basic v) (hs : v.Sortable) :
    ∃ p, Passes follow lib p ∧ p.value = v ∧ (v.hashFault? = none → KeyPasses follow lib p) := by
  obtain ⟨data, h⟩ : ∃ data, encodeWith follow v = .ok data := (exists_data_iff hv).mpr hs
  obtain ⟨w, hw, hr⟩ := (exists_decoded hv h : ∃ w, Decodes none data w ∧ ReadsAs v w)
  obtain ⟨u, hu, hr'⟩ := (exists_decoded hv h : ∃ w, Decodes (some lib) data w ∧ ReadsAs v w)
  refine ⟨⟨v, data, w, u⟩, ⟨h, hw, hu⟩, rfl, fun hh => ⟨⟨h, hw, hu⟩, hv, hr.hash hh, hr'.hash hh⟩⟩

section Member

variable {cls : Qualified} {mixin : Mixin} {name : Option String} {data : Json} {w u : Value}

lemma encodeWith_member (hm : mixin ≠ .str) {v : Value} (h : encodeWith follow v = .ok data) :
    encodeWith follow (.member cls mixin name v) = .ok (memberData cls name data) := by
  cases mixin with
  | str => exact absurd rfl hm
  | _ =>
    simp only [encodeWith, h, ok_bind]
    rfl

def memberFields (cls : Qualified) (name : Option String) (data : Json) : List (String × Json) :=
  [(tagKey, .str "enum"), ("class", .str cls.text), ("name", name.elim .null .str), ("value", data)]

lemma decodes_member (h : Decodes mode data w) (hu : decodeEnum mode (memberFields cls name data) w = pure u) :
    Decodes mode (memberData cls name data) u := by
  refine .of_smaller fun recur below => ?_
  have hvalue := below data w (by simp only [memberData, tagged, Json.size, Json.sizeMembers]; omega) h
  rw [← hu]
  simp [memberData, tagged, decodeNode, Json.find?, decodeTagged, field, settle_ok, tagKey, hvalue, memberFields]

lemma ofJson_name (name : Option String) : ofJson (name.elim .null .str) = name.elim .null .str := by
  cases name <;> rfl

lemma decodeEnum_plain : decodeEnum none (memberFields cls name data) w = pure (memberDict cls name w) := by
  simp only [memberDict, ← ofJson_name]
  rfl

variable {members : List (String × Value)}

lemma field_class : field (memberFields cls name data) "class" = .ok (.str cls.text) := rfl

lemma field_name : field (memberFields cls name data) "name" = .ok (name.elim .null .str) := rfl

lemma find?_name : Json.find? "name" (memberFields cls name data) = some (name.elim .null .str) := rfl

lemma Listed.decodeEnum (h : Listed lib cls members) :
    decodeEnum (some lib) (memberFields cls name data) w =
      pure (((name.bind fun n => members.find? (·.1 == n)).map Prod.snd).getD (memberDict cls name w)) := by
  have hplain : memberDict cls name w =
      placeholder (.str cls.text) [("name", ofJson (name.elim .null .str)), ("value", w)] := by
    rw [ofJson_name]
    rfl
  rw [hplain, Codec.decodeEnum]
  simp only [field_class, field_name, find?_name, settle_ok, pure_bind, Library.findData, h.importable.find, h.known]
  cases name with
  | none => rfl
  | some n =>
    rw [Option.bind_some]
    change ((members.find? (·.1 == n)).map Prod.snd).elim _ pure = _
    cases members.find? (·.1 == n) <;> rfl

lemma decodeEnum_named {n : String} {m : Value} (h : IsMember lib cls n m) :
    decodeEnum (some lib) (memberFields cls (some n) data) w = pure m := by
  obtain ⟨members, himp, hfind⟩ := h
  rw [himp.decodeEnum, Option.bind_some, hfind]
  rfl

lemma decodeEnum_combined (h : IsCombination lib cls name) :
    decodeEnum (some lib) (memberFields cls name data) w = pure (memberDict cls name w) := by
  obtain ⟨members, himp, hm⟩ := h
  have hfind : (name.bind fun n => members.find? (·.1 == n)) = none := by
    cases name with
    | none => rfl
    | some n =>
      rw [Option.bind_some, List.find?_eq_none]
      intro m hmem hn
      exact hm n rfl (List.mem_map.mpr ⟨m, hmem, by simpa using hn⟩)
  rw [himp.decodeEnum, hfind]
  rfl

end Member

lemma exists_map_eq {α β : Type} {f : α → β} {P : α → Prop} {ys : List β} (h : ∀ y ∈ ys, ∃ x, P x ∧ f x = y) :
    ∃ xs : List α, (∀ x ∈ xs, P x) ∧ xs.map f = ys := by
  induction ys with
  | nil => exact ⟨[], nofun, rfl⟩
  | cons y ys ih =>
    simp only [List.forall_mem_cons] at h
    obtain ⟨x, hx, rfl⟩ := h.1
    obtain ⟨xs, hxs, rfl⟩ := ih h.2
    exact ⟨x :: xs, List.forall_mem_cons.mpr ⟨hx, hxs⟩, rfl⟩

lemma forall₂_maps {α β γ : Type} {r : β → γ → Prop} {f : α → β} {g : α → γ} {xs : List α}
    (h : ∀ x ∈ xs, r (f x) (g x)) : List.Forall₂ r (xs.map f) (xs.map g) :=
  List.forall₂_map_left_iff.mpr (List.forall₂_map_right_iff.mpr (List.forall₂_same.mpr h))

lemma mapM_texts (rows : List (String × Passage)) :
    (rows.map fun r => ((.str r.1, r.2.value) : Value × Value)).mapM (fun e => e.1.textOf?) = some (rows.map Prod.fst) := by
  induction rows with
  | nil => rfl
  | cons r rows ih => simp [List.mapM_cons, ih, Value.textOf?]

lemma plainKeys?_fields {rows : List (String × Passage)} (ht : tagKey ∉ rows.map Prod.fst) :
    plainKeys? (rows.map fun r => (.str r.1, r.2.value)) = some (rows.map Prod.fst) := by
  rw [plainKeys?, mapM_texts]
  exact if_neg (by simpa using ht)

section Rows

variable {rows : List (Passage × Passage)}

lemma decodes_rows {data : Passage → Json} {read : Passage → Value}
    (hk : ∀ r ∈ rows, Decodes mode (data r.1) (read r.1) ∧ (read r.1).hashFault? = none)
    (hv : ∀ r ∈ rows, Decodes mode (data r.2) (read r.2)) :
    Decodes mode (tagged "dict" [("items", .arr (rows.map fun r => .arr [data r.1, data r.2]))])
      (.dict (gatherEntries [] (rows.map fun r => (read r.1, read r.2)))) := by
  apply decodes_entries
  · exact forall₂_maps fun r hr => ⟨_, _, rfl, (hk r hr).1, hv r hr⟩
  · exact List.forall_mem_map.mpr fun r hr => (hk r hr).2

end Rows

lemma Travels.passes {p : Passage} (h : Travels follow lib p) : Passes follow lib p := by
  induction h with
  | single _ h => exact h
  | list _ ih =>
    refine ⟨encodeWith_list.mpr ⟨_, ?_, rfl⟩, decodes_list ?_, decodes_list ?_⟩
    · exact forall₂_maps fun p hp => (ih p hp).encoded
    · exact forall₂_maps fun p hp => (ih p hp).plain
    · exact forall₂_maps fun p hp => (ih p hp).rebuilt
  | tuple _ ih =>
    refine ⟨encodeWith_tuple.mpr ⟨_, ?_, rfl⟩, decodes_tuple ?_, decodes_tuple ?_⟩
    · exact forall₂_maps fun p hp => (ih p hp).encoded
    · exact forall₂_maps fun p hp => (ih p hp).plain
    · exact forall₂_maps fun p hp => (ih p hp).rebuilt
  | @fields rows ht _ ih =>
    have hkeys : ∀ f : Passage → Value, (rows.map fun r => ((.str r.1, f r.2) : Value × Value)) =
        ((rows.map Prod.fst).map .str).zip (rows.map fun r => f r.2) := fun f => by
      rw [List.map_map, List.zip_map']
      rfl
    have hdata : (rows.map fun r => (r.1, r.2.data)) = (rows.map Prod.fst).zip (rows.map fun r => r.2.data) := by
      rw [List.zip_map']
    have hlen : (rows.map Prod.fst).length = (rows.map fun r => r.2.data).length := by simp
    refine ⟨?_, ?_, ?_⟩
    · refine (encodeWith_dict (List.forall_mem_map.mpr fun r _ => .atom (.str r.1))).mpr
        (.inl ⟨rows.map Prod.fst, rows.map fun r => r.2.data, ?_, ht, plainKeys?_fields ht, ?_, ?_⟩)
      · rw [List.map_map, List.map_map]
        rfl
      · rw [List.map_map]
        exact forall₂_maps fun r hr => (ih r hr).encoded
      · rw [← hdata]
    · dsimp only
      rw [hkeys (·.plain), hdata]
      exact decodes_members hlen ht (forall₂_maps fun r hr => (ih r hr).plain)
    · dsimp only
      rw [hkeys (·.rebuilt), hdata]
      exact decodes_members hlen ht (forall₂_maps fun r hr => (ih r hr).rebuilt)
  | @entries rows hk hp _ ih =>
    refine ⟨?_, decodes_rows ?_ ?_, decodes_rows ?_ ?_⟩
    · refine (encodeWith_dict (List.forall_mem_map.mpr fun r hr => (hk r hr).basic)).mpr (.inr ⟨_, hp, ?_, rfl⟩)
      exact forall₂_maps fun r hr => ⟨_, _, (hk r hr).encoded, (ih r hr).encoded, rfl⟩
    · exact fun r hr => ⟨(hk r hr).plain, (hk r hr).plainHash⟩
    · exact fun r hr => (ih r hr).plain
    · exact fun r hr => ⟨(hk r hr).rebuilt, (hk r hr).rebuiltHash⟩
    · exact fun r hr => (ih r hr).rebuilt
  | named hm hn h =>
    exact ⟨encodeWith_member hm h.encoded, decodes_member h.plain decodeEnum_plain,
      decodes_member h.rebuilt (decodeEnum_named hn)⟩
  | combined hm hn h =>
    exact ⟨encodeWith_member hm h.encoded, decodes_member h.plain decodeEnum_plain,
      decodes_member h.rebuilt (decodeEnum_combined hn)⟩
  | text cls name s => exact ⟨rfl, .of_node fun _ => rfl, .of_node fun _ => rfl⟩

lemma Enumerated.travels {v : Value} (h : Enumerated follow lib v) : ∃ p, Travels follow lib p ∧ p.value = v := by
  induction h with
  | single hv h =>
    obtain ⟨p, hp, rfl⟩ := h
    exact ⟨p, .single hv hp, rfl⟩
  | list _ ih =>
    obtain ⟨ps, hps, rfl⟩ := exists_map_eq ih
    exact ⟨_, .list hps, rfl⟩
  | tuple _ ih =>
    obtain ⟨ps, hps, rfl⟩ := exists_map_eq ih
    exact ⟨_, .tuple hps, rfl⟩
  | @dict es hk _ ih =>
    cases hp : plainKeys? es with
    | some keys =>
      obtain ⟨hkeys, ht⟩ := plainKeys?_eq_some (fun e he => (hk e he).1) hp
      obtain ⟨rows, hrows, rfl⟩ : ∃ rows : List (String × Passage), (∀ r ∈ rows, Travels follow lib r.2) ∧
          (rows.map fun r => (.str r.1, r.2.value)) = es := by
        apply exists_map_eq
        intro e he
        have hmem : e.1 ∈ keys.map Value.str := hkeys ▸ List.mem_map_of_mem he
        obtain ⟨s, -, hs⟩ := List.mem_map.mp hmem
        obtain ⟨p, hp, hv⟩ := ih e he
        exact ⟨(s, p), hp, Prod.ext hs hv⟩
      refine ⟨_, .fields ?_ hrows, rfl⟩
      have hfst : keys = rows.map Prod.fst := by
        rw [List.map_map] at hkeys
        refine List.map_injective_iff.mpr (fun _ _ h => Value.str.inj h) (hkeys.symm.trans ?_)
        rw [List.map_map]
        rfl
      exact hfst ▸ ht
    | none =>
      obtain ⟨rows, hrows, rfl⟩ : ∃ rows : List (Passage × Passage),
          (∀ r ∈ rows, KeyPasses follow lib r.1 ∧ Travels follow lib r.2) ∧
          (rows.map fun r => (r.1.value, r.2.value)) = es := by
        apply exists_map_eq
        intro e he
        obtain ⟨hb, hs, hh⟩ := hk e he
        obtain ⟨k, -, hkv, hkey⟩ := exists_passes follow lib hb hs
        obtain ⟨p, hp, hv⟩ := ih e he
        exact ⟨(k, p), ⟨hkey hh, hp⟩, Prod.ext hkv hv⟩
      exact ⟨_, .entries (fun r hr => (hrows r hr).1) hp fun r hr => (hrows r hr).2, rfl⟩
  | named hm hn h =>
    obtain ⟨p, hp, rfl⟩ := h
    exact ⟨_, .named hm hn hp, rfl⟩
  | combined hm hn h =>
    obtain ⟨p, hp, rfl⟩ := h
    exact ⟨_, .combined hm hn hp, rfl⟩
  | text cls name s => exact ⟨_, .text cls name s, rfl⟩

/-- Members of importable enumerations, at any depth. Those that are no texts are written with their
class, name and value, and plain decoding gives these three. Rebuilding gives the member, where it has
a name in the class; a combination of flags stays a dictionary, and a member that is a text is one. -/
theorem members_travel (heap : Heap) (lib : Library) {v : Value} (h : Enumerated (following heap) lib v) :
    ∃ p : Passage, p.value = v ∧ Travels (following heap) lib p ∧ encode heap v = .ok p.data ∧
      decode none p.data = pure p.plain ∧ decode (some lib) p.data = pure p.rebuilt := by
  obtain ⟨p, hp, rfl⟩ := h.travels
  obtain ⟨hencoded, hplain, hrebuilt⟩ := hp.passes
  exact ⟨p, rfl, hp, hencoded, hplain.decode, hrebuilt.decode⟩

/-- An enumeration of flags and one of texts. -/
def paints : Library where
  resolve module path := if module = "paint" ∧ path = "Color" then .ok (.type ⟨"paint", "Color"⟩)
    else .error ⟨.missingModule, "No module named '" ++ module ++ "'"⟩
  create _ := .error ⟨.type, "no such class"⟩
  members? cls := if cls = ⟨"paint", "Color"⟩ then
      some [("RED", .member cls .flag (some "RED") (.int 1)), ("BLUE", .member cls .flag (some "BLUE") (.int 2))]
    else none

/-- A member, a combination in a dictionary and a member that is a text. -/
def painted : Value :=
  .list [.member ⟨"paint", "Color"⟩ .flag (some "RED") (.int 1),
    .dict [(.str "both", .member ⟨"paint", "Color"⟩ .flag (some "RED|BLUE") (.int 3))],
    .member ⟨"paint", "Finish"⟩ .str (some "MATT") (.str "matt")]

theorem members_travel_painted : Enumerated (following []) paints painted ∧
    ∃ p : Passage, p.value = painted ∧ Travels (following []) paints p ∧ encode [] painted = .ok p.data ∧
      decode none p.data = pure p.plain ∧ decode (some paints) p.data = pure p.rebuilt := by
  have himp : Listed paints ⟨"paint", "Color"⟩
      [("RED", .member ⟨"paint", "Color"⟩ .flag (some "RED") (.int 1)),
        ("BLUE", .member ⟨"paint", "Color"⟩ .flag (some "BLUE") (.int 2))] :=
    ⟨⟨"paint", "Color", by decide +kernel, rfl⟩, rfl⟩
  have hint : ∀ n : ℤ, ∃ p, Passes (following []) paints p ∧ p.value = .int n := fun n =>
    ⟨⟨.int n, .int n, .int n, .int n⟩, ⟨rfl, .of_node fun _ => rfl, .of_node fun _ => rfl⟩, rfl⟩
  have hpainted : Enumerated (following []) paints painted := by
    apply Enumerated.list
    simp only [List.forall_mem_cons]
    refine ⟨.named nofun ⟨_, himp, rfl⟩ (hint 1), .dict ?_ ?_, .text _ _ _, nofun⟩
    · rintro _ (_ | ⟨_, ⟨⟩⟩)
      exact ⟨.atom (.str _), (Value.everywhere_atom (.str _)).mpr (by rintro xs (h | h) <;> cases h), rfl⟩
    · rintro _ (_ | ⟨_, ⟨⟩⟩)
      exact .combined nofun ⟨_, himp, by rintro _ ⟨⟩; decide⟩ (hint 3)
  exact ⟨hpainted, members_travel [] paints hpainted⟩

end CallSnapshot.Codec
