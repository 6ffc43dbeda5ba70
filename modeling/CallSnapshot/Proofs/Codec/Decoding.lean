import CallSnapshot.Proofs.Codec.Gather
import CallSnapshot.Proofs.Files.Path
import CallSnapshot.Proofs.Number.Written
import CallSnapshot.Proofs.Text.Digits
import CallSnapshot.Proofs.Time.Iso

/-! What data are read back as: tag by tag, and for the parts of containers. -/

namespace CallSnapshot.Codec

open Value (Distinct Element)

variable {mode : Mode}

def Decodes (mode : Mode) (data : Json) (v : Value) : Prop :=
  ∀ fuel, data.size ≤ fuel → decodeTo mode fuel data = pure v

lemma Decodes.decode {data : Json} {v : Value} (h : Decodes mode data v) :
    decode mode data = pure v := h _ le_rfl

lemma size_pos (data : Json) : 0 < data.size := by
  cases data <;> simp [Json.size]

lemma Decodes.of_smaller {data : Json} {v : Value}
    (h : ∀ recur : Json → Noting Value,
      (∀ x w, x.size < data.size → Decodes mode x w → recur x = pure w) →
      decodeNode mode recur data = pure v) : Decodes mode data v := by
  intro fuel hf
  cases fuel with
  | zero => exact absurd (size_pos data) (by omega)
  | succ fuel => exact h _ fun x w hx hw => hw fuel (by omega)

lemma Decodes.of_node {data : Json} {v : Value}
    (h : ∀ recur : Json → Noting Value, decodeNode mode recur data = pure v) :
    Decodes mode data v := .of_smaller fun recur _ => h recur

lemma settle_ok {α : Type} (a : α) : Noting.settle (.ok a) = pure a := rfl

attribute [local simp] decodeNode decodeTagged tagged tagKey Json.find? field settle_ok

lemma decodes_bytes (bs : List UInt8) :
    Decodes mode (tagged "bytes" [("base64", .str (String.ofList (Base64.encode bs)))]) (.bytes bs) := by
  refine .of_node fun recur => ?_
  simp [text, Base64.decode_encode]

lemma decodes_date {d : Date} (h : d.Valid) :
    Decodes mode (tagged "date" [("value", .str (Iso.dateText d))]) (.date d) := by
  refine .of_node fun recur => ?_
  simp [isoText, text, Iso.parseDate_dateText h, Except.mapError]

lemma decodes_time {t : ClockTime} (h : t.Valid) :
    Decodes mode (tagged "time" [("value", .str (Iso.timeText t))]) (.time t.kept) := by
  refine .of_node fun recur => ?_
  simp [isoText, text, Iso.parseTime_timeText h, Except.mapError]

lemma decodes_datetime {m : DateTime} (h : m.Valid) :
    Decodes mode (tagged "datetime" [("value", .str (Iso.dateTimeText m))])
      (.datetime ⟨m.date, m.time.kept⟩) := by
  refine .of_node fun recur => ?_
  simp [isoText, text, Iso.parseDateTime_dateTimeText h, Except.mapError]

lemma decodes_decimal {d : Decimal} (h : d.Valid) :
    Decodes mode (tagged "decimal" [("value", .str d.text)]) (.decimal d) := by
  refine .of_node fun recur => ?_
  simp [decodeDecimal, Decimal.parse?_text h]

lemma decodes_uuid {u : Uuid} (h : u.Valid) :
    Decodes mode (tagged "uuid" [("value", .str u.text)]) (.uuid u) := by
  refine .of_node fun recur => ?_
  simp [decodeUuid, Uuid.parse_text h]

lemma decodes_path {p : Path} (h : p.Valid) :
    Decodes mode (tagged "path" [("value", .str p.text)]) (.path p) := by
  refine .of_node fun recur => ?_
  simp [decodePath, Path.parse_text h]

lemma toBinary_name {x : Binary64} (h : x.isFinite = false) : Grid.toBinary (.str x.text) = .ok x := by
  cases x with
  | nan => rfl
  | infinity s => cases s <;> rfl
  | finite => cases h

lemma decodes_float (x : Binary64) : Decodes mode (floatData x) (.float x) := by
  refine .of_node fun recur => ?_
  unfold floatData encodeFloat
  split
  · rfl
  · rename_i h
    simp [decodeFloat, ofJson, toBinary_name (Bool.eq_false_iff.mpr h)]

lemma complexOf_floats (x y : Binary64) : complexOf (.float x) (.float y) = .ok (.complex x y) := rfl

lemma decodes_complex (x y : Binary64) :
    Decodes mode (tagged "complex" [("real", floatData x), ("imag", floatData y)]) (.complex x y) := by
  refine .of_smaller fun recur below => ?_
  have real := below (floatData x) (.float x)
    (by simp only [tagged, Json.size, Json.sizeMembers]; omega) (decodes_float x)
  have imag := below (floatData y) (.float y)
    (by simp only [tagged, Json.size, Json.sizeMembers]; omega) (decodes_float y)
  simp [real, imag, complexOf_floats]

section Containers

variable {recur : Json → Noting Value} {ys : List Json} {ws : List Value}

lemma mapM_pure_of {r : Json → Noting Value}
    (h : List.Forall₂ (fun y w => r y = pure w) ys ws) : ys.mapM r = pure ws := by
  induction h with
  | nil => rfl
  | cons hy _ ih => simp [List.mapM_cons, hy, ih]

lemma decodeElements_eq (h : List.Forall₂ (fun y w => recur y = pure w) ys ws)
    (hash : ∀ w ∈ ws, w.hashFault? = none) (found : List Value) :
    decodeElements recur ys found = pure (gather found ws) := by
  induction h generalizing found with
  | nil => rfl
  | @cons y w ys ws hy _ ih =>
    simp only [List.forall_mem_cons] at hash
    have hw : hashable w = .ok w := by rw [hashable, hash.1]
    simp only [decodeElements, hy, pure_bind, hw, settle_ok]
    exact ih hash.2 _

lemma decodeMembers_eq {keys : List String} (hl : keys.length = ys.length)
    (h : List.Forall₂ (fun y w => recur y = pure w) ys ws) :
    decodeMembers recur (keys.zip ys) = pure (keys.zip ws) := by
  induction h generalizing keys with
  | nil => simp [decodeMembers]
  | @cons y w ys ws hy _ ih =>
    cases keys with
    | nil => simp at hl
    | cons k keys => simp [decodeMembers, hy, ih (by simpa using hl)]

lemma forall₂_smaller {n : ℕ}
    (below : ∀ x w, x.size < n → Decodes mode x w → recur x = pure w)
    (h : List.Forall₂ (Decodes mode) ys ws) (hn : Json.sizeItems ys < n) :
    List.Forall₂ (fun y w => recur y = pure w) ys ws := by
  induction h with
  | nil => exact .nil
  | cons hy _ ih =>
    rw [Json.sizeItems] at hn
    exact .cons (below _ _ (by omega) hy) (ih (by omega))

def Pairs (r : Json → Value → Prop) (zs : List Json) (es : List (Value × Value)) : Prop :=
  List.Forall₂ (fun z e => ∃ a b, z = .arr [a, b] ∧ r a e.1 ∧ r b e.2) zs es

lemma pairs_smaller {n : ℕ} {zs : List Json} {es : List (Value × Value)}
    (below : ∀ x w, x.size < n → Decodes mode x w → recur x = pure w)
    (h : Pairs (Decodes mode) zs es) (hn : Json.sizeItems zs < n) :
    Pairs (fun x w => recur x = pure w) zs es := by
  induction h with
  | nil => exact .nil
  | cons hz _ ih =>
    obtain ⟨a, b, rfl, ha, hb⟩ := hz
    simp only [Json.sizeItems, Json.size] at hn
    exact .cons ⟨a, b, rfl, below _ _ (by omega) ha, below _ _ (by omega) hb⟩ (ih (by omega))

lemma decodeEntries_eq {zs : List Json} {es : List (Value × Value)}
    (h : Pairs (fun x w => recur x = pure w) zs es) (hash : ∀ e ∈ es, e.1.hashFault? = none)
    (found : List (Value × Value)) :
    decodeEntries recur zs found = pure (gatherEntries found es) := by
  induction h generalizing found with
  | nil => rfl
  | @cons z e zs es hz _ ih =>
    simp only [List.forall_mem_cons] at hash
    obtain ⟨a, b, rfl, ha, hb⟩ := hz
    have hk : hashable e.1 = .ok e.1 := by rw [hashable, hash.1]
    simp only [decodeEntries, pair, parts, settle_ok, ha, hb, pure_bind, hk]
    exact ih hash.2 _

end Containers

lemma find?_tag {keys : List String} (h : tagKey ∉ keys) (ys : List Json) :
    Json.find? tagKey (keys.zip ys) = none := by
  simp only [Json.find?, Option.map_eq_none_iff, List.find?_eq_none]
  rintro ⟨k, y⟩ hm hk
  rw [beq_iff_eq] at hk
  exact h (hk ▸ (List.of_mem_zip hm).1)

variable {ys : List Json} {ws : List Value}

lemma decodes_list (h : List.Forall₂ (Decodes mode) ys ws) : Decodes mode (.arr ys) (.list ws) := by
  refine .of_smaller fun recur below => ?_
  have hrec := forall₂_smaller below h (by rw [Json.size]; omega)
  simp [mapM_pure_of hrec]

lemma sizeItems_lt (tag : String) (ys : List Json) :
    Json.sizeItems ys < (tagged tag [("items", .arr ys)]).size := by
  simp only [tagged, Json.size, Json.sizeMembers]
  omega

lemma decodes_tuple (h : List.Forall₂ (Decodes mode) ys ws) :
    Decodes mode (tagged "tuple" [("items", .arr ys)]) (.tuple ws) := by
  refine .of_smaller fun recur below => ?_
  have hrec := forall₂_smaller below h (sizeItems_lt _ ys)
  simp [decodeParts, parts, mapM_pure_of hrec]

lemma decodes_set (h : List.Forall₂ (Decodes mode) ys ws) (hash : ∀ w ∈ ws, w.hashFault? = none) :
    Decodes mode (tagged "set" [("items", .arr ys)]) (.set (gather [] ws)) := by
  refine .of_smaller fun recur below => ?_
  have hrec := forall₂_smaller below h (sizeItems_lt _ ys)
  simp [parts, decodeElements_eq hrec hash]

lemma decodes_frozenset (h : List.Forall₂ (Decodes mode) ys ws)
    (hash : ∀ w ∈ ws, w.hashFault? = none) :
    Decodes mode (tagged "frozenset" [("items", .arr ys)]) (.frozenset (gather [] ws)) := by
  refine .of_smaller fun recur below => ?_
  have hrec := forall₂_smaller below h (sizeItems_lt _ ys)
  simp [parts, decodeElements_eq hrec hash]

lemma decodes_entries {zs : List Json} {es : List (Value × Value)}
    (h : Pairs (Decodes mode) zs es) (hash : ∀ e ∈ es, e.1.hashFault? = none) :
    Decodes mode (tagged "dict" [("items", .arr zs)]) (.dict (gatherEntries [] es)) := by
  refine .of_smaller fun recur below => ?_
  have hrec := pairs_smaller below h (sizeItems_lt _ zs)
  simp [parts, decodeEntries_eq hrec hash]

lemma sizeMembers_zip {keys : List String} (hl : keys.length = ys.length) :
    Json.sizeMembers (keys.zip ys) = Json.sizeItems ys := by
  induction ys generalizing keys with
  | nil => simp [Json.sizeMembers, Json.sizeItems]
  | cons y ys ih =>
    cases keys with
    | nil => simp at hl
    | cons k keys =>
      rw [List.zip_cons_cons, Json.sizeMembers, Json.sizeItems, ih (by simpa using hl)]

lemma decodes_members {keys : List String} (hl : keys.length = ys.length) (ht : tagKey ∉ keys)
    (h : List.Forall₂ (Decodes mode) ys ws) :
    Decodes mode (.obj (keys.zip ys)) (.dict ((keys.map .str).zip ws)) := by
  refine .of_smaller fun recur below => ?_
  have hrec := forall₂_smaller below h (by rw [Json.size, sizeMembers_zip hl]; omega)
  have hdict : dictOf (keys.zip ws) = .dict ((keys.map .str).zip ws) := by
    rw [List.zip_map_left]
    rfl
  simp only [decodeNode, find?_tag ht, decodeMembers_eq hl hrec, pure_bind, hdict]

/-- A class that is found by its name. -/
def Importable (lib : Library) (cls : Qualified) : Prop :=
  ∃ module path, splitName cls.text = some (module, path) ∧ lib.resolve module path = .ok (.type cls)

lemma Importable.find {lib : Library} {cls : Qualified} (h : Importable lib cls) :
    lib.find cls.text = pure (some (.type cls)) := by
  obtain ⟨module, path, hsplit, hresolve⟩ := h
  simp only [Library.find, hsplit, hresolve]

end CallSnapshot.Codec
