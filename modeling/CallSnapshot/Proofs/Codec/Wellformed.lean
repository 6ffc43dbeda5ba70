import CallSnapshot.Proofs.Codec.Encoding
import CallSnapshot.Proofs.Codec.Forms
import CallSnapshot.Proofs.Json.RoundTrip
import CallSnapshot.Proofs.Number.Rounding

/-!
The data of any value that there can be, plain or not, are read back from their text in full: no
key stands twice in an object, and the numbers are of the format.
-/

namespace CallSnapshot

/-- The declared fields have different names. -/
def Layout.Sound : Layout → Prop
  | .record fields _ => fields.Nodup
  | _ => True

namespace Value

mutual

/-- A value that there can be: its numbers are of the format, no text stands twice among the keys of
a dictionary, and no attribute is set twice. -/
def Sound : Value → Prop
  | .float x => x.Valid
  | .complex re im => re.Valid ∧ im.Valid
  | .list xs | .tuple xs | .set xs | .frozenset xs | .array _ _ xs => SoundItems xs
  | .dict es => (es.filterMap fun e => e.1.textOf?).Nodup ∧ SoundEntries es
  | .extended _ v | .member _ _ _ v | .scalar _ v => Sound v
  | .object cls attrs => cls.layout.Sound ∧ (attrs.map Prod.fst).Nodup ∧ SoundAttrs attrs
  | _ => True

def SoundItems : List Value → Prop
  | [] => True
  | x :: xs => Sound x ∧ SoundItems xs

def SoundEntries : List (Value × Value) → Prop
  | [] => True
  | (k, v) :: es => Sound k ∧ Sound v ∧ SoundEntries es

def SoundAttrs : List (String × Value) → Prop
  | [] => True
  | (_, v) :: es => Sound v ∧ SoundAttrs es

end

lemma soundItems_iff {xs : List Value} : SoundItems xs ↔ ∀ x ∈ xs, x.Sound := by
  induction xs with
  | nil => simp [SoundItems]
  | cons x xs ih => simp [SoundItems, ih]

lemma soundEntries_iff {es : List (Value × Value)} :
    SoundEntries es ↔ ∀ e ∈ es, e.1.Sound ∧ e.2.Sound := by
  induction es with
  | nil => simp [SoundEntries]
  | cons e es ih => simp [SoundEntries, ih, and_assoc]

lemma soundAttrs_iff {attrs : List (String × Value)} : SoundAttrs attrs ↔ ∀ e ∈ attrs, e.2.Sound := by
  induction attrs with
  | nil => simp [SoundAttrs]
  | cons e attrs ih => simp [SoundAttrs, ih]

lemma Sound.making {v p : Value} (h : v.Sound) (hp : p ∈ v.makings) : p.Sound := by
  cases v with
  | list xs | tuple xs | set xs | frozenset xs | array _ _ xs => exact soundItems_iff.mp h p hp
  | dict es =>
    have hes := soundEntries_iff.mp h.2
    rcases List.mem_append.mp hp with hp | hp <;> obtain ⟨e, he, rfl⟩ := List.mem_map.mp hp
    · exact (hes e he).1
    · exact (hes e he).2
  | extended | member | scalar => exact List.mem_singleton.mp hp ▸ h
  | object cls attrs =>
    obtain ⟨e, he, rfl⟩ := List.mem_map.mp hp
    exact soundAttrs_iff.mp h.2.2 e he
  | _ => cases hp

lemma Distinct.nodup_textOf {es : List (Value × Value)} (hk : ∀ e ∈ es, Basic e.1)
    (hd : Distinct (es.map Prod.fst)) : (es.filterMap fun e => e.1.textOf?).Nodup := by
  rw [Distinct, List.pairwise_map] at hd
  refine List.pairwise_filterMap.mpr (hd.imp_of_mem fun {e f} he hf hne s hs t ht => ?_)
  rintro rfl
  rw [(hk e he).textOf?_eq_some.mp hs, (hk f hf).textOf?_eq_some.mp ht] at hne
  simp [Value.eq, textOf?] at hne

lemma Basic.sound {v : Value} (h : Basic v) : v.Sound := by
  induction h with
  | @atom v h => cases h <;> simp_all [Sound]
  | duration => trivial
  | list _ ih | tuple _ ih | set _ _ _ ih | frozenset _ _ _ ih => exact soundItems_iff.mpr ih
  | dict hk _ hd _ ihk ihv =>
    exact ⟨hd.nodup_textOf hk, soundEntries_iff.mpr fun e he => ⟨ihk e he, ihv e he⟩⟩

end Value

namespace Json

variable {α β : Type} [BEq α] [LawfulBEq α]

lemma put_cases (k : α) (v : β) (ms : List (α × β)) :
    (∃ pre w post, ms = pre ++ (k, w) :: post ∧ put k v ms = pre ++ (k, v) :: post) ∨
      (k ∉ ms.map Prod.fst ∧ put k v ms = ms ++ [(k, v)]) := by
  induction ms with
  | nil => exact .inr ⟨by simp, rfl⟩
  | cons m ms ih =>
    obtain ⟨l, w⟩ := m
    rw [put]
    split
    · rename_i h
      obtain rfl := eq_of_beq h
      exact .inl ⟨[], w, ms, rfl, rfl⟩
    · rename_i h
      rcases ih with ⟨pre, u, post, rfl, hput⟩ | ⟨hk, hput⟩
      · exact .inl ⟨(l, w) :: pre, u, post, rfl, by rw [hput]; rfl⟩
      · refine .inr ⟨?_, by rw [hput]; rfl⟩
        rw [List.map_cons, List.mem_cons, not_or]
        exact ⟨fun heq => h (by simp [heq]), hk⟩

lemma nodup_put {k : α} {v : β} {ms : List (α × β)} (h : (ms.map Prod.fst).Nodup) :
    ((put k v ms).map Prod.fst).Nodup := by
  rcases put_cases k v ms with ⟨pre, w, post, rfl, hput⟩ | ⟨hk, hput⟩ <;> rw [hput]
  · simpa using h
  · rw [List.map_append, List.nodup_append]
    refine ⟨h, by simp, fun a ha b hb => ?_⟩
    obtain rfl : b = k := by simpa using hb
    exact fun heq => hk (heq ▸ ha)

lemma mem_put {k : α} {v : β} {ms : List (α × β)} {m : α × β} (h : m ∈ put k v ms) :
    m ∈ ms ∨ m = (k, v) := by
  rcases put_cases k v ms with ⟨pre, w, post, rfl, hput⟩ | ⟨-, hput⟩ <;> rw [hput] at h
  · simp only [List.mem_append, List.mem_cons] at h ⊢
    tauto
  · simpa using h

lemma foldl_put (ms acc : List (α × β)) (h : (acc.map Prod.fst).Nodup) :
    ((ms.foldl (fun ms (k, v) => put k v ms) acc).map Prod.fst).Nodup ∧
      ∀ m ∈ ms.foldl (fun ms (k, v) => put k v ms) acc, m ∈ acc ∨ m ∈ ms := by
  induction ms generalizing acc with
  | nil => exact ⟨h, fun m hm => .inl hm⟩
  | cons n ms ih =>
    obtain ⟨hnodup, hmem⟩ := ih (put n.1 n.2 acc) (nodup_put h)
    refine ⟨hnodup, fun m hm => ?_⟩
    rcases hmem m hm with hm | hm
    · exact (mem_put hm).imp_right fun h => List.mem_cons.mpr (.inl h)
    · exact .inr (List.mem_cons_of_mem n hm)

lemma find?_mem {key : String} {members : List (String × Json)} {v : Json}
    (h : find? key members = some v) : ∃ m ∈ members, m.2 = v := by
  obtain ⟨m, hm, rfl⟩ := Option.map_eq_some_iff.mp h
  exact ⟨m, List.mem_of_find?_eq_some hm, rfl⟩

end Json

namespace Codec

open Value Json

lemma faithful_floatData {x : Binary64} (h : x.Valid) (name : String) :
    (encodeFloat x name).Faithful := by
  unfold encodeFloat
  split
  · exact h
  · simp [tagged, Faithful, FaithfulMembers, tagKey]

lemma faithful_tagged (tag : String) {members : List (String × Json)}
    (hn : tagKey ∉ members.map Prod.fst ∧ (members.map Prod.fst).Nodup)
    (h : ∀ m ∈ members, m.2.Faithful) : (tagged tag members).Faithful :=
  faithful_obj.mpr ⟨List.nodup_cons.mpr hn, List.forall_mem_cons.mpr ⟨trivial, h⟩⟩

lemma faithful_items (tag : String) {items : List Json} (h : ∀ x ∈ items, x.Faithful) :
    (tagged tag [("items", .arr items)]).Faithful :=
  faithful_tagged tag (by simp [tagKey]) (by simpa using faithful_arr.mpr h)

lemma recordState_names (constants : List (String × Constant)) (state : List (String × Json))
    (fields : List String) : ((recordState constants state fields).map Prod.fst).Sublist fields := by
  induction fields with
  | nil => exact .slnil
  | cons f fields ih =>
    rw [recordState, List.filterMap_cons]
    cases Json.find? f state with
    | some v => exact ih.cons_cons f
    | none =>
      cases constants.find? (·.1 == f) with
      | some c => exact ih.cons_cons f
      | none => exact ih.cons f

lemma mem_shownState {c : Class} {state : List (String × Json)} {m : String × Json} (hm : m ∈ shownState c state) :
    (∃ n ∈ state, n.2 = m.2) ∨ ∃ d, m.2 = constantData d := by
  unfold shownState at hm
  split at hm
  · obtain ⟨f, -, hf⟩ := List.mem_filterMap.mp hm
    split at hf
    · rename_i v hv
      cases hf
      exact .inl (find?_mem hv)
    · obtain ⟨d, -, rfl⟩ := Option.map_eq_some_iff.mp hf
      exact .inr ⟨d.2, rfl⟩
  · have hset := ((foldl_put _ [] List.nodup_nil).2 m hm).resolve_left (by simp)
    obtain ⟨s, -, hs⟩ := List.mem_filterMap.mp hset
    obtain ⟨v, hv, rfl⟩ := Option.map_eq_some_iff.mp hs
    exact .inl (find?_mem hv)
  · exact .inl ⟨m, hm, rfl⟩

lemma nodup_shownState {c : Class} {state : List (String × Json)} (hc : c.layout.Sound)
    (hn : (state.map Prod.fst).Nodup) : ((shownState c state).map Prod.fst).Nodup := by
  unfold shownState
  split
  · rename_i fields constants hlayout
    rw [hlayout] at hc
    exact (recordState_names constants state fields).nodup hc
  · exact (foldl_put _ [] List.nodup_nil).1
  · exact hn

lemma faithful_shownState {c : Class} {state : List (String × Json)} (hc : c.layout.Sound)
    (hn : (state.map Prod.fst).Nodup) (h : ∀ m ∈ state, m.2.Faithful) :
    (Json.obj (shownState c state)).Faithful := by
  refine faithful_obj.mpr ⟨nodup_shownState hc hn, fun m hm => ?_⟩
  rcases mem_shownState hm with ⟨n, hn, heq⟩ | ⟨d, heq⟩
  · exact heq ▸ h n hn
  · rw [heq]
    cases d <;> trivial

lemma textOf?_keys {es : List (Value × Value)} {keys : List String} (h : plainKeys? es = some keys) :
    es.filterMap (fun e => e.1.textOf?) = keys := by
  unfold plainKeys? at h
  split at h
  · rename_i ks hks
    split at h
    · cases h
    · cases h
      clear * - hks
      induction es generalizing keys with
      | nil =>
        cases hks
        rfl
      | cons e es ih =>
        rw [List.mapM_cons] at hks
        obtain ⟨k, hk, hks⟩ := Option.bind_eq_some_iff.mp hks
        obtain ⟨ls, hls, heq⟩ := Option.bind_eq_some_iff.mp hks
        cases heq
        rw [List.filterMap_cons, hk, ih hls]
  · cases h

lemma faithful_single {follow : ℕ → Except Fault Json} {v : Value} {data : Json} (hv : v.Sound)
    (hs : v.isSingle = true) (h : encodeWith follow v = .ok data) : data.Faithful := by
  cases v with
  | list | tuple | set | frozenset | array | dict | extended | member | scalar | object | link => cases hs
  | null | bool | int | str =>
    rw [encodeWith] at h
    cases h
    trivial
  | float x =>
    rw [encodeWith] at h
    cases h
    exact faithful_floatData hv _
  | complex re im =>
    rw [encodeWith] at h
    cases h
    simp [tagged, Faithful, FaithfulMembers, tagKey, floatData, faithful_floatData hv.1, faithful_floatData hv.2]
  | duration d =>
    rw [encodeWith] at h
    cases h
    simp [tagged, Faithful, FaithfulMembers, tagKey, Duration.totalSeconds, Binary64.ofSigned,
      Binary64.ofRatio_valid]
  | _ =>
    rw [encodeWith] at h
    cases h
    simp [tagged, Faithful, FaithfulMembers, tagKey]

lemma faithful_members {es : List (Value × Value)} (hv : Value.Sound (.dict es)) {keys : List String}
    (hk : plainKeys? es = some keys) {ys : List Json} (h : ∀ y ∈ ys, y.Faithful) :
    (Json.obj (keys.zip ys)).Faithful := by
  have hn := hv.1
  rw [textOf?_keys hk] at hn
  have hkeys : (keys.zip ys).map Prod.fst = keys.take (min keys.length ys.length) := by
    rw [List.zip_eq_zip_take_min, List.map_fst_zip (by simp)]
  refine faithful_obj.mpr ⟨hkeys ▸ hn.sublist (List.take_sublist _ _), fun m hm => ?_⟩
  exact h m.2 (List.of_mem_zip hm).2

lemma formed_faithful : Formed Value.Sound Json.Faithful where
  making := Value.Sound.making
  single := faithful_single
  constant d := by cases d <;> trivial
  circular := by simp [tagged, Faithful, FaithfulMembers]
  float hx name := faithful_floatData hx name
  list := faithful_arr.mpr
  items _ _ := faithful_items _
  members := faithful_members
  entries h := by
    refine faithful_items _ fun x hx => ?_
    obtain ⟨k, v, rfl, hk, hv⟩ := h x hx
    exact ⟨hk, hv, trivial⟩
  member cls name _ h := by
    have hname : (name.elim Json.null .str).Faithful := by cases name <;> trivial
    exact faithful_tagged _ (by simp [tagKey]) (by simpa using ⟨trivial, hname, h⟩)
  object hv _ hn h := by
    have hshown := faithful_shownState hv.1 (hn.nodup hv.2.1) h
    exact faithful_tagged _ (by simp [tagKey]) (by simpa using ⟨trivial, hshown⟩)
  array element shape _ h := by
    have hshape : (Json.arr (shape.map fun (n : ℕ) => .int n)).Faithful := by
      rw [faithful_arr]
      intro x hx
      obtain ⟨n, -, rfl⟩ := List.mem_map.mp hx
      trivial
    exact faithful_tagged _ (by simp [tagKey]) (by simpa using ⟨trivial, hshape, h⟩)

/-- The data of a value that there can be. -/
theorem faithful_encode {heap : Heap} (hh : ∀ v ∈ heap, v.Sound) {v : Value} (hv : v.Sound) {data : Json}
    (h : encode heap v = .ok data) : data.Faithful :=
  formed_faithful.encode hh hv h

end Codec

end CallSnapshot
