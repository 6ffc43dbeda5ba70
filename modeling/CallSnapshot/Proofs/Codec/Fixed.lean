import CallSnapshot.Proofs.Codec.RoundTrip
import CallSnapshot.Proofs.Codec.Wellformed
import CallSnapshot.Proofs.Number.Reading
import CallSnapshot.Proofs.Text.Hex
import CallSnapshot.Proofs.Time.Reading

/-!
What plain decoding gives: values of the basic kinds, in which no element and no key comes twice
and whose times and integers are read back from their texts.
-/

namespace CallSnapshot

namespace Noting

variable {α β : Type} {P : α → Prop} {Q : β → Prop}

/-- What comes of a computation, where it does not fail, has a property. -/
def Gives (c : Noting α) (P : α → Prop) : Prop := ∀ ns a ms, c.run.run ns = (.ok a, ms) → P a

lemma gives_pure {a : α} (h : P a) : Gives (pure a) P := by
  rintro ns b ms hrun
  cases hrun
  exact h

lemma gives_settle {r : Except Fault α} (h : ∀ a, r = .ok a → P a) : Gives (settle r) P := by
  rintro ns a ms hrun
  cases r with
  | ok b =>
    cases hrun
    exact h a rfl
  | error f => cases congrArg Prod.fst hrun

lemma gives_settled (r : Except Fault α) : Gives (settle r) fun _ => True := gives_settle fun _ _ => trivial

lemma gives_fail (kind : FaultKind) (message : String) : Gives (fail kind message) P := by
  rintro ns a ms hrun
  cases congrArg Prod.fst hrun

lemma gives_note (n : Note) : Gives (note n) fun _ => True := fun _ _ _ _ => trivial

lemma Gives.bind {c : Noting α} {f : α → Noting β} (hc : Gives c P) (hf : ∀ a, P a → Gives (f a) Q) :
    Gives (c >>= f) Q := by
  rintro ns b ms hrun
  obtain ⟨a, u, ha, hb⟩ := run_bind_eq_ok.mp hrun
  exact hf a (hc ns a u ha) u b ms hb

lemma Gives.mapM {f : α → Noting β} {xs : List α} (hf : ∀ x ∈ xs, Gives (f x) Q) :
    Gives (xs.mapM f) fun ys => ∀ y ∈ ys, Q y := by
  induction xs with
  | nil => exact gives_pure (by simp)
  | cons x xs ih =>
    rw [List.forall_mem_cons] at hf
    rw [List.mapM_cons]
    exact hf.1.bind fun y hy => (ih hf.2).bind fun ys hys => gives_pure (List.forall_mem_cons.mpr ⟨hy, hys⟩)

end Noting

namespace Value

/-- A value that is read back from its own data. -/
structure Fixed (v : Value) : Prop where
  basic : v.Basic
  readable : v.Readable
  short : v.Short

lemma fixed_atom {v : Value} (h : Atom v) (hi : ∀ n, v ≠ .int n) (ht : ∀ t, v ≠ .time t)
    (hm : ∀ m, v ≠ .datetime m) : v.Fixed where
  basic := .atom h
  readable := (everywhere_atom h).mpr ⟨fun t he => absurd he (ht t), fun m he => absurd he (hm m)⟩
  short := (everywhere_atom h).mpr fun n he => absurd he (hi n)

lemma fixed_int {n : ℤ} (h : Numeral.Short n) : Fixed (.int n) where
  basic := .atom (.int n)
  readable := (everywhere_atom (.int n)).mpr ⟨nofun, nofun⟩
  short := (everywhere_atom (.int n)).mpr (by rintro _ ⟨⟩; exact h)

lemma fixed_time {t : ClockTime} (h : t.Valid ∧ t.Readable) : Fixed (.time t) where
  basic := .atom (.time h.1)
  readable := (everywhere_atom (.time h.1)).mpr ⟨by rintro _ ⟨⟩; exact h.2, nofun⟩
  short := (everywhere_atom (.time h.1)).mpr nofun

lemma fixed_datetime {m : DateTime} (h : m.Valid ∧ m.time.Readable) : Fixed (.datetime m) where
  basic := .atom (.datetime h.1)
  readable := (everywhere_atom (.datetime h.1)).mpr ⟨nofun, by rintro _ ⟨⟩; exact h.2⟩
  short := (everywhere_atom (.datetime h.1)).mpr nofun

lemma fixed_duration {d : Duration} (h : d.Settled) : Fixed (.duration d) where
  basic := .duration h
  readable := (everywhere_of_parts_eq_nil rfl).mpr ⟨nofun, nofun⟩
  short := Codec.short_duration d

lemma fixed_str (s : String) : Fixed (.str s) := fixed_atom (.str s) nofun nofun nofun

lemma fixed_float {x : Binary64} (h : x.Valid) : Fixed (.float x) := fixed_atom (.float h) nofun nofun nofun

lemma fixed_bool (b : Bool) : Fixed (.bool b) := fixed_atom (.bool b) nofun nofun nofun

lemma fixed_bytes (bs : List UInt8) : Fixed (.bytes bs) := fixed_atom (.bytes bs) nofun nofun nofun

lemma fixed_date {d : Date} (h : d.Valid) : Fixed (.date d) := fixed_atom (.date h) nofun nofun nofun

lemma fixed_decimal {d : Decimal} (h : d.Valid) : Fixed (.decimal d) := fixed_atom (.decimal h) nofun nofun nofun

lemma fixed_uuid {u : Uuid} (h : u.Valid) : Fixed (.uuid u) := fixed_atom (.uuid h) nofun nofun nofun

lemma fixed_path {p : Path} (h : p.Valid) : Fixed (.path p) := fixed_atom (.path h) nofun nofun nofun

lemma fixed_of_parts {v : Value} (hb : v.Basic) (hi : ∀ n, v ≠ .int n) (ht : ∀ t, v ≠ .time t)
    (hm : ∀ m, v ≠ .datetime m) (h : ∀ p ∈ v.parts, p.Fixed) : v.Fixed where
  basic := hb
  readable := (readable_iff ht hm).mpr fun p hp => (h p hp).readable
  short := (Codec.short_iff hi).mpr fun p hp => (h p hp).short

variable {xs : List Value}

lemma fixed_list (h : ∀ x ∈ xs, x.Fixed) : Fixed (.list xs) :=
  fixed_of_parts (.list fun x hx => (h x hx).basic) nofun nofun nofun h

lemma fixed_tuple (h : ∀ x ∈ xs, x.Fixed) : Fixed (.tuple xs) :=
  fixed_of_parts (.tuple fun x hx => (h x hx).basic) nofun nofun nofun h

/-- The elements of a set that has been read. -/
structure FixedElements (xs : List Value) : Prop where
  fixed : ∀ x ∈ xs, x.Fixed
  hashable : ∀ x ∈ xs, x.hashFault? = none
  distinct : Distinct xs

lemma fixed_set (h : FixedElements xs) : Fixed (.set xs) :=
  fixed_of_parts (.set (fun x hx => (h.fixed x hx).basic) h.hashable h.distinct) nofun nofun nofun h.fixed

lemma fixed_frozenset (h : FixedElements xs) : Fixed (.frozenset xs) :=
  fixed_of_parts (.frozenset (fun x hx => (h.fixed x hx).basic) h.hashable h.distinct) nofun nofun nofun h.fixed

lemma fixed_dict {es : List (Value × Value)} : Fixed (.dict es) ↔
    (∀ e ∈ es, e.1.Fixed ∧ e.1.hashFault? = none ∧ e.2.Fixed) ∧ Distinct (es.map Prod.fst) := by
  constructor
  · rintro ⟨hb, hr, hs⟩
    cases hb with
    | atom h => cases h
    | dict hk hh hd hv =>
      rw [readable_iff (by simp) (by simp), parts, List.forall_mem_append, List.forall_mem_map,
        List.forall_mem_map] at hr
      rw [Codec.short_iff (by simp), parts, List.forall_mem_append, List.forall_mem_map, List.forall_mem_map] at hs
      exact ⟨fun e he => ⟨⟨hk e he, hr.1 e he, hs.1 e he⟩, hh e he, hv e he, hr.2 e he, hs.2 e he⟩, hd⟩
  · rintro ⟨h, hd⟩
    have hb : Basic (.dict es) :=
      .dict (fun e he => (h e he).1.basic) (fun e he => (h e he).2.1) hd fun e he => (h e he).2.2.basic
    refine fixed_of_parts hb (by simp) (by simp) (by simp) ?_
    rw [parts, List.forall_mem_append, List.forall_mem_map, List.forall_mem_map]
    exact ⟨fun e he => (h e he).1, fun e he => (h e he).2.2⟩

lemma fixed_empty : Fixed (.dict []) := fixed_dict.mpr ⟨by simp, List.Pairwise.nil⟩

lemma distinct_str {keys : List String} (h : keys.Nodup) : Distinct (keys.map .str) := by
  rw [Distinct, List.pairwise_map]
  exact h.imp fun hne => by simpa [Value.eq, textOf?] using Ne.symm hne

lemma fixed_members {ms : List (String × Value)} (hn : (ms.map Prod.fst).Nodup)
    (h : ∀ m ∈ ms, m.2.Fixed) : Fixed (.dict (ms.map fun (k, v) => (.str k, v))) := by
  have hd : Distinct ((ms.map fun (k, v) => (Value.str k, v)).map Prod.fst) := by
    have := distinct_str hn
    rwa [List.map_map] at this ⊢
  refine fixed_dict.mpr ⟨fun e he => ?_, hd⟩
  obtain ⟨m, hm, rfl⟩ := List.mem_map.mp he
  exact ⟨fixed_str m.1, rfl, h m hm⟩

end Value

namespace Json

/-- Data that have a text and are read back from it. -/
structure Legible (data : Json) : Prop where
  faithful : data.Faithful
  printable : data.Printable

lemma legible_str (s : String) : (Json.str s).Legible := ⟨trivial, trivial⟩

lemma legible_arr {items : List Json} : (Json.arr items).Legible ↔ ∀ x ∈ items, x.Legible := by
  constructor
  · rintro ⟨hf, hp⟩ x hx
    exact ⟨faithful_arr.mp hf x hx, printableItems_iff.mp hp x hx⟩
  · exact fun h => ⟨faithful_arr.mpr fun x hx => (h x hx).faithful,
      printableItems_iff.mpr fun x hx => (h x hx).printable⟩

lemma legible_obj {members : List (String × Json)} :
    (Json.obj members).Legible ↔ (members.map Prod.fst).Nodup ∧ ∀ m ∈ members, m.2.Legible := by
  constructor
  · rintro ⟨hf, hp⟩
    obtain ⟨hn, hf⟩ := faithful_obj.mp hf
    exact ⟨hn, fun m hm => ⟨hf m hm, printableMembers_iff.mp hp m hm⟩⟩
  · exact fun ⟨hn, h⟩ => ⟨faithful_obj.mpr ⟨hn, fun m hm => (h m hm).faithful⟩,
      printableMembers_iff.mpr fun m hm => (h m hm).printable⟩

end Json

namespace Codec

open Noting Json Value

lemma ofJsonMembers_eq (ms : List (String × Json)) :
    ofJsonMembers ms = (ms.map fun m => (m.1, ofJson m.2)).map fun (k, v) => (.str k, v) := by
  induction ms with
  | nil => rfl
  | cons m ms ih => rw [ofJsonMembers, ih]; rfl

lemma ofJsonItems_eq (items : List Json) : ofJsonItems items = items.map ofJson := by
  induction items with
  | nil => rfl
  | cons x xs ih => rw [ofJsonItems, ih, List.map_cons]

mutual

lemma fixed_ofJson : (data : Json) → data.Legible → (ofJson data).Fixed
  | .null, _ => fixed_atom .null nofun nofun nofun
  | .bool b, _ => fixed_bool b
  | .int _, h => fixed_int h.printable
  | .float _, h => fixed_float h.faithful
  | .str s, _ => fixed_str s
  | .arr items, h => by
    rw [ofJson, ofJsonItems_eq]
    exact fixed_list (List.forall_mem_map.mpr (fixed_ofJsonItems items (legible_arr.mp h)))
  | .obj members, h => by
    obtain ⟨hn, h⟩ := legible_obj.mp h
    rw [ofJson, ofJsonMembers_eq]
    refine fixed_members (by simpa [Function.comp_def] using hn) fun m hm => ?_
    obtain ⟨n, hn, rfl⟩ := List.mem_map.mp hm
    exact fixed_ofJsonMembers members h n hn

lemma fixed_ofJsonItems : (items : List Json) → (∀ x ∈ items, x.Legible) → ∀ x ∈ items, (ofJson x).Fixed
  | [], _ => by simp
  | x :: xs, h => List.forall_mem_cons.mpr
    ⟨fixed_ofJson x (List.forall_mem_cons.mp h).1, fixed_ofJsonItems xs (List.forall_mem_cons.mp h).2⟩

lemma fixed_ofJsonMembers : (ms : List (String × Json)) → (∀ m ∈ ms, m.2.Legible) →
    ∀ m ∈ ms, (ofJson m.2).Fixed
  | [], _ => by simp
  | (_, x) :: ms, h => List.forall_mem_cons.mpr
    ⟨fixed_ofJson x (List.forall_mem_cons.mp h).1, fixed_ofJsonMembers ms (List.forall_mem_cons.mp h).2⟩

end

lemma fixed_placeholder {cls : Value} {entries : List (String × Value)} (hc : cls.Fixed)
    (h : ∀ e ∈ entries, e.2.Fixed) : (placeholder cls entries).Fixed := by
  obtain ⟨hn, hmem⟩ := foldl_put entries [(classKey, cls)] (by simp)
  refine fixed_members hn fun m hm => ?_
  rcases hmem m hm with hm | hm
  · obtain rfl := List.mem_singleton.mp hm
    exact hc
  · exact h m hm

lemma gives_field {members : List (String × Json)} (hm : (Json.obj members).Legible) (key : String) :
    Gives (settle (field members key)) Json.Legible := by
  refine gives_settle fun v hv => ?_
  unfold field at hv
  split at hv
  · rename_i w hw
    cases hv
    obtain ⟨m, hmem, rfl⟩ := find?_mem hw
    exact (legible_obj.mp hm).2 m hmem
  · cases hv

lemma gives_parts {data : Json} (h : data.Legible) :
    Gives (settle (parts data)) fun items => ∀ x ∈ items, x.Legible := by
  refine gives_settle fun items hitems => ?_
  unfold parts at hitems
  split at hitems <;> cases hitems
  · exact legible_arr.mp h
  all_goals
    rw [List.forall_mem_map]
    exact fun _ _ => legible_str _

lemma gives_pair {data : Json} (h : data.Legible) :
    Gives (settle (pair data)) fun p => p.1.Legible ∧ p.2.Legible := by
  refine gives_settle fun p hp => ?_
  have hparts := gives_parts h
  unfold pair at hp
  split at hp <;> cases hp
  rename_i a b hab
  rw [hab] at hparts
  simpa using hparts [] _ _ rfl

lemma gives_leaf {α : Type} {r : Except Fault α} {f : α → Value} (hf : ∀ a, r = .ok a → (f a).Fixed) :
    Gives (do pure (f (← settle r))) Fixed :=
  (gives_settle (P := fun a => (f a).Fixed) hf).bind fun _ ha => gives_pure ha

lemma gives_text {α : Type} {r : String → Except Fault α} {f : α → Value} (t : Except Fault String)
    (hf : ∀ s a, r s = .ok a → (f a).Fixed) : Gives (do pure (f (← settle (r (← settle t))))) Fixed :=
  (gives_settled t).bind fun s _ => gives_leaf (hf s)

section Numbers

lemma quantity?_binary_valid {v : Value} (h : v.Basic) {x : Binary64} (hq : v.quantity? = some (.binary x)) :
    x.Valid := by
  cases h with
  | atom h =>
    cases h <;> cases hq
    assumption
  | _ => cases hq

lemma complexParts?_valid {v : Value} (h : v.Basic) {re im : Binary64} (hp : v.complexParts? = some (re, im)) :
    re.Valid ∧ im.Valid := by
  cases h with
  | atom h =>
    cases h <;> cases hp
    exact ⟨‹_›, ‹_›⟩
  | _ => cases hp

lemma toBinary_valid {v : Value} (h : v.Basic) {x : Binary64} (hx : Grid.toBinary v = .ok x) : x.Valid := by
  unfold Grid.toBinary at hx
  split at hx
  · split at hx
    · cases hx
      exact Binary64.ofInt?_valid ‹_›
    · cases hx
  · cases hx
    exact quantity?_binary_valid h ‹_›
  · cases hx
    exact Decimal.toBinary_valid _
  · cases hx
    exact Binary64.ofSigned_valid _ _
  · split at hx
    · cases hx
      exact Numeral.readBinary_valid ‹_›
    · cases hx
  · split at hx
    · cases hx
      trivial
    · cases hx

lemma decodeFloat_valid {data : Json} (h : data.Legible) {x : Binary64} (hx : decodeFloat data = .ok x) :
    x.Valid := by
  unfold decodeFloat at hx
  split at hx
  · cases hx
  · exact toBinary_valid (fixed_ofJson data h).basic hx

lemma decimalExponent_valid {negative : Bool} {data : Json} {d : Decimal}
    (h : decimalExponent negative data = .ok (.inl d)) : d.Valid := by
  unfold decimalExponent at h
  split at h
  · cases h
    trivial
  · cases h
    trivial
  · cases h
    trivial
  · cases h
  · split at h
    · rename_i e _
      cases hw : word "ssize_t" e <;> rw [hw] at h <;> cases h
    · cases h

lemma decimalOfParts_valid {items : List Json} {d : Decimal} (h : decimalOfParts items = .ok d) : d.Valid := by
  unfold decimalOfParts at h
  split at h
  · obtain ⟨negative, -, h⟩ := bind_eq_ok.mp h
    obtain ⟨kind, hkind, h⟩ := bind_eq_ok.mp h
    obtain ⟨ds, -, h⟩ := bind_eq_ok.mp h
    dsimp only at h
    split at h
    · cases h
      trivial
    · cases h
      exact decimalExponent_valid hkind
    · split at h
      · cases h
        exact Decimal.bounded?_valid ‹_›
      · cases h
  · cases h

lemma short_bool (b : Bool) : Numeral.Short (if b then 1 else 0) := by
  cases b
  · exact Nat.pow_pos (by decide : 0 < 10)
  · exact Nat.one_lt_pow (by decide) (by decide : 1 < 10)

lemma decodeDecimal_valid {data : Json} (h : data.Legible) {d : Decimal} (hd : decodeDecimal data = .ok d) :
    d.Valid := by
  unfold decodeDecimal at hd
  split at hd
  · split at hd
    · cases hd
      exact Decimal.parse?_valid ‹_›
    · cases hd
  · cases hd
    exact Decimal.ofInt_valid h.printable
  · cases hd
    exact Decimal.ofInt_valid (short_bool _)
  · cases hd
    exact Decimal.ofBinary_valid h.faithful
  · exact decimalOfParts_valid hd
  · cases hd

lemma mapError_eq_ok {ε ε' α : Type} {f : ε → ε'} {r : Except ε α} {a : α} (h : r.mapError f = .ok a) : r = .ok a := by
  cases r <;> cases h
  rfl

lemma decodeDuration_settled {data : Json} (h : data.Legible) {d : Duration} (hd : decodeDuration data = .ok d) :
    d.Settled := by
  unfold decodeDuration at hd
  split at hd
  · exact Duration.settled_of_ofWholeSeconds (mapError_eq_ok hd)
  · exact Duration.settled_of_ofWholeSeconds (mapError_eq_ok hd)
  · exact Duration.settled_of_ofSeconds h.faithful (mapError_eq_ok hd)
  · cases hd

lemma decodeUuid_valid {data : Json} {u : Uuid} (h : decodeUuid data = .ok u) : u.Valid := by
  unfold decodeUuid at h
  split at h
  · exact Uuid.parse_valid h
  · cases h
  · cases h

lemma decodePath_valid {data : Json} {p : Path} (h : decodePath data = .ok p) : p.Valid := by
  unfold decodePath at h
  split at h
  · cases h
    exact Path.parse_valid _
  · cases h

lemma complexPart_valid {v : Value} (hv : v.Basic) {p : Binary64 × Option Binary64} (h : complexPart v = .ok p) :
    p.1.Valid ∧ ∀ y ∈ p.2, y.Valid := by
  unfold complexPart at h
  split at h
  · rename_i hparts
    cases h
    obtain ⟨hre, him⟩ := complexParts?_valid hv hparts
    exact ⟨hre, fun y hy => Option.some.inj hy ▸ him⟩
  · split at h
    · cases h
    · cases hx : Grid.toBinary v <;> rw [hx] at h <;> cases h
      exact ⟨toBinary_valid hv hx, nofun⟩

lemma firstPart_valid {v : Value} (hv : v.Basic) {p : Binary64 × Option Binary64} (h : firstPart v = .ok p) :
    p.1.Valid ∧ ∀ y ∈ p.2, y.Valid := by
  obtain ⟨q, hq, h⟩ := bind_eq_ok.mp h
  cases h
  obtain ⟨hx, hy⟩ := complexPart_valid hv hq
  refine ⟨hx, fun y hm => ?_⟩
  split at hm
  · cases hm
    exact .inl ⟨rfl, rfl⟩
  · exact hy y hm

lemma fixed_complexOf {real imag v : Value} (hr : real.Basic) (hi : imag.Basic) (h : complexOf real imag = .ok v) :
    v.Fixed := by
  unfold complexOf at h
  split at h
  · cases h
  · cases h
  · split at h
    · cases h
    · cases h
    · obtain ⟨⟨a, b⟩, hab, h⟩ := bind_eq_ok.mp h
      obtain ⟨⟨c, d⟩, hcd, h⟩ := bind_eq_ok.mp h
      cases h
      have hre : Binary64.Valid (d.elim a (a.sub ·)) := by
        cases d with
        | none => exact (firstPart_valid hr hab).1
        | some y => exact Binary64.add_valid _ _
      have him : Binary64.Valid (b.elim c (c.add ·)) := by
        cases b with
        | none => exact (complexPart_valid hi hcd).1
        | some y => exact Binary64.add_valid _ _
      exact fixed_atom (.complex hre him) nofun nofun nofun

end Numbers

lemma gives_hashable {v : Value} (h : v.Fixed) :
    Gives (settle (hashable v)) fun w => w.Fixed ∧ w.hashFault? = none := by
  refine gives_settle fun w hw => ?_
  unfold hashable at hw
  split at hw
  · rename_i hnone
    cases hw
    exact ⟨h, hnone⟩
  · obtain ⟨data, -, hw⟩ := bind_eq_ok.mp hw
    obtain ⟨s, -, hw⟩ := bind_eq_ok.mp hw
    cases hw
    exact ⟨fixed_str s, rfl⟩
  · cases hw

lemma mem_addElement {v x : Value} {items : List Value} (h : x ∈ addElement v items) : x ∈ items ∨ x = v := by
  unfold addElement at h
  split at h
  · exact .inl h
  · simpa using h

lemma fixedElements_add {v : Value} {items : List Value} (h : FixedElements items)
    (hv : v.Fixed ∧ v.hashFault? = none) : FixedElements (addElement v items) := by
  refine ⟨fun x hx => ?_, fun x hx => ?_, ?_⟩
  · rcases mem_addElement hx with hx | rfl
    · exact h.fixed x hx
    · exact hv.1
  · rcases mem_addElement hx with hx | rfl
    · exact h.hashable x hx
    · exact hv.2
  · unfold addElement
    split
    · exact h.distinct
    · rename_i hnew
      rw [Distinct, List.pairwise_append]
      exact ⟨h.distinct, by simp, by simpa using hnew⟩

lemma putEntry_cases (k v : Value) (es : List (Value × Value)) :
    (∃ pre l w post, es = pre ++ (l, w) :: post ∧ putEntry k v es = pre ++ (l, v) :: post) ∨
      ((∀ e ∈ es, e.1.eq k = false) ∧ putEntry k v es = es ++ [(k, v)]) := by
  induction es with
  | nil => exact .inr ⟨by simp, rfl⟩
  | cons e es ih =>
    obtain ⟨l, w⟩ := e
    rw [putEntry]
    split
    · exact .inl ⟨[], l, w, es, rfl, rfl⟩
    · rename_i h
      rcases ih with ⟨pre, l', w', post, rfl, hput⟩ | ⟨hk, hput⟩
      · exact .inl ⟨(l, w) :: pre, l', w', post, rfl, by rw [hput]; rfl⟩
      · exact .inr ⟨List.forall_mem_cons.mpr ⟨by simpa using h, hk⟩, by rw [hput]; rfl⟩

lemma fixed_putEntry {k v : Value} {es : List (Value × Value)} (h : Fixed (.dict es)) (hk : k.Fixed)
    (hh : k.hashFault? = none) (hv : v.Fixed) : Fixed (.dict (putEntry k v es)) := by
  rw [fixed_dict] at h ⊢
  obtain ⟨h, hd⟩ := h
  rcases putEntry_cases k v es with ⟨pre, l, w, post, rfl, hput⟩ | ⟨hnew, hput⟩ <;> rw [hput]
  · rw [List.forall_mem_append, List.forall_mem_cons] at h ⊢
    exact ⟨⟨h.1, ⟨h.2.1.1, h.2.1.2.1, hv⟩, h.2.2⟩, by simpa using hd⟩
  · refine ⟨List.forall_mem_append.mpr ⟨h, by simpa using ⟨hk, hh, hv⟩⟩, ?_⟩
    rw [List.map_append, Distinct, List.pairwise_append]
    exact ⟨hd, by simp, by simpa using hnew⟩

section Decode

variable {recur : Json → Noting Value} (hr : ∀ data, data.Legible → Gives (recur data) Fixed)

include hr

lemma gives_decodeParts {data : Json} (h : data.Legible) :
    Gives (decodeParts recur data) fun vs => ∀ v ∈ vs, v.Fixed :=
  (gives_parts h).bind fun _ hitems => .mapM fun x hx => hr x (hitems x hx)

lemma gives_decodeMembers {members : List (String × Json)} (h : ∀ m ∈ members, m.2.Legible) :
    Gives (decodeMembers recur members) fun vs =>
      vs.map Prod.fst = members.map Prod.fst ∧ ∀ v ∈ vs, v.2.Fixed := by
  induction members with
  | nil => exact gives_pure (by simp)
  | cons m ms ih =>
    obtain ⟨k, x⟩ := m
    rw [List.forall_mem_cons] at h
    refine (hr x h.1).bind fun v hv => (ih h.2).bind fun vs hvs => gives_pure ⟨?_, ?_⟩
    · rw [List.map_cons, hvs.1, List.map_cons]
    · exact List.forall_mem_cons.mpr ⟨hv, hvs.2⟩

lemma gives_decodeElements {items : List Json} (h : ∀ x ∈ items, x.Legible) {found : List Value}
    (hf : FixedElements found) : Gives (decodeElements recur items found) FixedElements := by
  induction items generalizing found with
  | nil => exact gives_pure hf
  | cons x items ih =>
    rw [List.forall_mem_cons] at h
    exact (hr x h.1).bind fun v hv => (gives_hashable hv).bind fun w hw => ih h.2 (fixedElements_add hf hw)

lemma gives_decodeEntries {items : List Json} (h : ∀ x ∈ items, x.Legible) {found : List (Value × Value)}
    (hf : Fixed (.dict found)) :
    Gives (decodeEntries recur items found) fun es => Fixed (.dict es) := by
  induction items generalizing found with
  | nil => exact gives_pure hf
  | cons x items ih =>
    rw [List.forall_mem_cons] at h
    refine (gives_pair h.1).bind fun p hp => (hr p.1 hp.1).bind fun k hk => (gives_hashable hk).bind fun k' hk' =>
      (hr p.2 hp.2).bind fun v hv => ih h.2 (fixed_putEntry hf hk'.1 hk'.2 hv)

lemma gives_decodeTagged {tag : String} {members : List (String × Json)} (hm : (Json.obj members).Legible)
    {c : Noting Value} (h : decodeTagged none recur tag members = some c) : Gives c Fixed := by
  have field := gives_field hm
  have none_found : FixedElements [] := ⟨by simp, by simp, List.Pairwise.nil⟩
  unfold decodeTagged at h
  split at h <;> cases h
  · exact (field _).bind fun x hx => (gives_decodeParts hr hx).bind fun xs hxs => gives_pure (fixed_tuple hxs)
  · exact (field _).bind fun x hx => (gives_parts hx).bind fun items hitems =>
      (gives_decodeElements hr hitems none_found).bind fun xs hxs => gives_pure (fixed_set hxs)
  · exact (field _).bind fun x hx => (gives_parts hx).bind fun items hitems =>
      (gives_decodeElements hr hitems none_found).bind fun xs hxs => gives_pure (fixed_frozenset hxs)
  · exact (field _).bind fun x hx => (gives_parts hx).bind fun items hitems =>
      (gives_decodeEntries hr hitems fixed_empty).bind fun es hes => gives_pure hes
  · exact (field _).bind fun x hx => gives_leaf fun _ ha => fixed_float (decodeFloat_valid hx ha)
  · exact (field _).bind fun x _ => gives_text _ fun _ bs _ => fixed_bytes bs
  · exact (field _).bind fun x _ => gives_text _ fun _ _ hm =>
      fixed_datetime (Iso.parseDateTime_valid (mapError_eq_ok hm))
  · exact (field _).bind fun x _ => gives_text _ fun _ _ hd =>
      fixed_date (Iso.parseDate_valid (mapError_eq_ok hd))
  · exact (field _).bind fun x _ => gives_text _ fun _ _ ht => fixed_time (Iso.parseTime_valid (mapError_eq_ok ht))
  · exact (field _).bind fun x hx => gives_leaf fun _ hd => fixed_duration (decodeDuration_settled hx hd)
  · exact (field _).bind fun x hx => gives_leaf fun _ hd => fixed_decimal (decodeDecimal_valid hx hd)
  · exact (field _).bind fun x hx => (hr x hx).bind fun real hreal => (field _).bind fun y hy =>
      (hr y hy).bind fun imag himag => gives_settle fun v hv => fixed_complexOf hreal.basic himag.basic hv
  · exact (field _).bind fun x _ => gives_leaf fun _ hu => fixed_uuid (decodeUuid_valid hu)
  · exact (field _).bind fun x _ => gives_leaf fun _ hp => fixed_path (decodePath_valid hp)
  · exact gives_pure (fixed_str _)
  · exact (field _).bind fun x hx => (hr x hx).bind fun v hv => gives_pure hv
  · exact (field _).bind fun x hx =>
      gives_pure (fixed_placeholder (fixed_ofJson x hx) (by simpa using fixed_bool true))
  · exact (field _).bind fun x hx => (field _).bind fun y hy =>
      gives_pure (fixed_placeholder (fixed_ofJson x hx) (by simpa using fixed_ofJson y hy))
  · exact (field _).bind fun x hx =>
      gives_pure (fixed_placeholder (fixed_str _) (by simpa using fixed_ofJson x hx))
  · exact (field _).bind fun x hx => (hr x hx).bind fun v hv => (field _).bind fun y hy => (field _).bind fun z hz =>
      gives_pure (fixed_placeholder (fixed_ofJson y hy) (by simpa using ⟨fixed_ofJson z hz, hv⟩))
  · refine (field _).bind fun x hx => ?_
    split
    · rename_i state
      refine (gives_decodeMembers hr (legible_obj.mp hx).2).bind fun vs hvs => (field _).bind fun y hy =>
        gives_pure (fixed_placeholder (fixed_ofJson y hy) hvs.2)
    · exact gives_fail _ _

lemma gives_decodeNode {data : Json} (h : data.Legible) : Gives (decodeNode none recur data) Fixed := by
  have members : ∀ {ms}, (Json.obj ms).Legible → Gives (do pure (dictOf (← decodeMembers recur ms))) Fixed := by
    intro ms hms
    rw [legible_obj] at hms
    refine (gives_decodeMembers hr hms.2).bind fun vs hvs => gives_pure ?_
    exact fixed_members (hvs.1 ▸ hms.1) hvs.2
  unfold decodeNode
  split
  · exact (Gives.mapM fun x hx => hr x (legible_arr.mp h x hx)).bind fun xs hxs => gives_pure (fixed_list hxs)
  · split
    · exact members h
    · dsimp only
      split
      · rename_i hknown
        split at hknown
        · exact gives_decodeTagged hr h hknown
        · cases hknown
      · exact (gives_note _).bind fun _ _ => members h
  · exact gives_pure (fixed_ofJson data h)

end Decode

lemma gives_decodeTo (fuel : ℕ) {data : Json} (h : data.Legible) : Gives (decodeTo none fuel data) Fixed := by
  induction fuel generalizing data with
  | zero => exact gives_pure (fixed_ofJson data h)
  | succ fuel ih => exact gives_decodeNode (fun _ => ih) h

/-- What plain decoding gives of data that were read from a text. -/
theorem fixed_decode {data : Json} (h : data.Legible) {w : Value} (hw : (decode none data).start.1 = .ok w) :
    w.Fixed :=
  gives_decodeTo data.size h [] w _ (Prod.ext hw rfl)

end Codec

end CallSnapshot
