import CallSnapshot.Proofs.Codec.Injectivity
import CallSnapshot.Proofs.Codec.Wellformed

/-!
Instances and what is written of them. Attributes are read in one place only: in the declared fields,
in the instance's own dictionary, or in the slots of the class and its bases. Where all attributes are
in that one place, they are written each once, and read back from there.
-/

namespace CallSnapshot.Codec

open Json (put put_absent put_cases foldl_put)
open Value (Plain Same)

/-- An instance whose attributes can be read, with plain values. -/
structure Instance (c : Class) (attrs : List (String × Value)) : Prop where
  sound : c.layout.Sound
  unbarred : ∀ fault, c.layout ≠ .barred fault
  nodup : (attrs.map Prod.fst).Nodup
  plain : ∀ a ∈ attrs, Plain a.2

/-- All attributes are where those of the class are read; of a record, no field is left to its constant. -/
structure Shown (c : Class) (attrs : List (String × Value)) : Prop where
  shown : ∀ a ∈ attrs, isShown c a.1 = true
  fields : ∀ fields constants, c.layout = .record fields constants → ∀ f ∈ fields, f ∈ attrs.map Prod.fst

def AttrData (follow : ℕ → Except Fault Json) (a : String × Value) (s : String × Json) : Prop :=
  s.1 = a.1 ∧ encodeWith follow a.2 = .ok s.2

/-- A state that has exactly one entry for each attribute, with the data of its value. -/
def Holding (follow : ℕ → Except Fault Json) (attrs : List (String × Value)) (state : List (String × Json)) : Prop :=
  ∃ as : List (String × Value), as.Perm attrs ∧ List.Forall₂ (AttrData follow) as state

def objectData (c : Class) (state : List (String × Json)) : Json :=
  tagged "object" [("class", .str c.name.text), ("state", .obj state)]

def SameAttrs (attrs others : List (String × Value)) : Prop :=
  ∃ as : List (String × Value), as.Perm attrs ∧ List.Forall₂ (fun a b => b.1 = a.1 ∧ Same a.2 b.2) as others

variable {follow : ℕ → Except Fault Json} {c : Class} {attrs : List (String × Value)}
  {state : List (String × Json)}

lemma names_eq {α β : Type} {R : String × α → String × β → Prop} (hR : ∀ a b, R a b → b.1 = a.1)
    {as : List (String × α)} {bs : List (String × β)} (h : List.Forall₂ R as bs) :
    bs.map Prod.fst = as.map Prod.fst := by
  induction h with
  | nil => rfl
  | cons h _ ih => rw [List.map_cons, List.map_cons, ih, hR _ _ h]

lemma names_of_data {as : List (String × Value)} (h : List.Forall₂ (AttrData follow) as state) :
    state.map Prod.fst = as.map Prod.fst := names_eq (fun _ _ h => h.1) h

lemma Holding.names (h : Holding follow attrs state) : (state.map Prod.fst).Perm (attrs.map Prod.fst) := by
  obtain ⟨as, hp, hdata⟩ := h
  exact names_of_data hdata ▸ hp.map _

lemma Holding.name_mem (h : Holding follow attrs state) {name : String} :
    name ∈ state.map Prod.fst ↔ name ∈ attrs.map Prod.fst := h.names.mem_iff

section State

lemma nodup_of_names {α : Type} {ms : List (String × α)} (h : (ms.map Prod.fst).Nodup) : ms.Nodup :=
  List.Nodup.of_map _ h

lemma find?_eq_some_iff (hn : (state.map Prod.fst).Nodup) {name : String} {data : Json} :
    Json.find? name state = some data ↔ (name, data) ∈ state := by
  induction state with
  | nil => simp [Json.find?]
  | cons s state ih =>
    obtain ⟨k, x⟩ := s
    rw [List.map_cons, List.nodup_cons] at hn
    by_cases hk : k = name
    · subst hk
      have habsent : ∀ y, (k, y) ∉ state := fun y hy => hn.1 (List.mem_map.mpr ⟨_, hy, rfl⟩)
      simp [Json.find?, habsent, eq_comm]
    · have htail : Json.find? name ((k, x) :: state) = Json.find? name state := by
        simp [Json.find?, hk]
      rw [htail, ih hn.2, List.mem_cons]
      simp [Ne.symm hk]

lemma find?_eq_none_iff {name : String} : Json.find? name state = none ↔ name ∉ state.map Prod.fst := by
  simp only [Json.find?, Option.map_eq_none_iff, List.find?_eq_none, beq_iff_eq, List.mem_map, not_exists, not_and]

lemma mem_recordState {constants : List (String × Constant)} {fields : List String} {m : String × Json} :
    m ∈ recordState constants state fields ↔ m.1 ∈ fields ∧ (Json.find? m.1 state = some m.2 ∨
      Json.find? m.1 state = none ∧ ∃ d, constants.find? (·.1 == m.1) = some d ∧ constantData d.2 = m.2) := by
  obtain ⟨k, x⟩ := m
  rw [recordState, List.mem_filterMap]
  constructor
  · rintro ⟨f, hf, hm⟩
    cases hfind : Json.find? f state with
    | some y =>
      rw [hfind] at hm
      cases hm
      exact ⟨hf, .inl hfind⟩
    | none =>
      rw [hfind] at hm
      obtain ⟨d, hd, heq⟩ := Option.map_eq_some_iff.mp hm
      cases heq
      exact ⟨hf, .inr ⟨hfind, d, hd, rfl⟩⟩
  · rintro ⟨hf, hfind | ⟨hfind, d, hd, rfl⟩⟩
    · exact ⟨k, hf, by rw [hfind]⟩
    · exact ⟨k, hf, by rw [hfind, hd]; rfl⟩

lemma mem_put_self (k : String) (x : Json) (ms : List (String × Json)) : (k, x) ∈ put k x ms := by
  rcases put_cases k x ms with ⟨pre, w, post, rfl, hput⟩ | ⟨-, hput⟩ <;> rw [hput] <;> simp

lemma mem_put_of_ne {k : String} {x : Json} {ms : List (String × Json)} {m : String × Json} (hm : m ∈ ms)
    (hk : m.1 ≠ k) : m ∈ put k x ms := by
  rcases put_cases k x ms with ⟨pre, w, post, rfl, hput⟩ | ⟨-, hput⟩ <;> rw [hput]
  · rcases List.mem_append.mp hm with hm | hm
    · exact List.mem_append_left _ hm
    · rcases List.mem_cons.mp hm with rfl | hm
      · exact absurd rfl hk
      · exact List.mem_append_right _ (.tail _ hm)
  · exact List.mem_append_left _ hm

lemma mem_merge {ms : List (String × Json)} {m : String × Json} (hone : ∀ n ∈ ms, n.1 = m.1 → n = m) :
    m ∈ Json.merge ms ↔ m ∈ ms := by
  refine ⟨fun h => ((foldl_put ms [] List.nodup_nil).2 m h).resolve_left (by simp), fun h => ?_⟩
  suffices hs : ∀ acc : List (String × Json), m ∈ acc ∨ m ∈ ms →
      m ∈ ms.foldl (fun ms n => put n.1 n.2 ms) acc from hs [] (.inr h)
  clear h
  induction ms with
  | nil => exact fun acc h => h.resolve_right (by simp)
  | cons n ms ih =>
    rw [List.forall_mem_cons] at hone
    intro acc h
    apply ih hone.2
    by_cases hk : n.1 = m.1
    · rw [hone.1 hk]
      exact .inl (mem_put_self _ _ _)
    · rcases h with h | h
      · exact .inl (mem_put_of_ne h (Ne.symm hk))
      · exact .inr ((List.mem_cons.mp h).resolve_left fun h => hk (by rw [h]))

lemma mem_slotState (hn : (state.map Prod.fst).Nodup) {classes : List (List String)} {m : String × Json} :
    m ∈ slotState classes state ↔ m.1 ∈ classes.flatten ∧ m ∈ state := by
  have hfound : ∀ n : String × Json, n ∈ (classes.flatten.filterMap fun s => (Json.find? s state).map (s, ·)) ↔
      n.1 ∈ classes.flatten ∧ n ∈ state := by
    rintro ⟨k, x⟩
    simp only [List.mem_filterMap, Option.map_eq_some_iff, find?_eq_some_iff hn, Prod.mk.injEq]
    constructor
    · rintro ⟨_, hs, _, hx, rfl, rfl⟩
      exact ⟨hs, hx⟩
    · rintro ⟨hs, hx⟩
      exact ⟨k, hs, x, hx, rfl, rfl⟩
  by_cases hm : m ∈ state
  · rw [slotState, mem_merge, hfound]
    intro n hn' hname
    have hfind := (find?_eq_some_iff hn).mpr ((hfound n).mp hn').2
    rw [hname, (find?_eq_some_iff hn).mpr hm] at hfind
    exact Prod.ext hname (Option.some.inj hfind).symm
  · refine iff_of_false (fun h => hm ?_) fun h => hm h.2
    exact ((hfound m).mp (((foldl_put _ [] List.nodup_nil).2 m h).resolve_left (by simp))).2

variable (hn : (state.map Prod.fst).Nodup)

include hn

lemma isShown_of_mem (hs : ∀ s ∈ state, isShown c s.1 = true) {m : String × Json} (hm : m ∈ shownState c state) :
    isShown c m.1 = true := by
  unfold shownState at hm
  unfold isShown
  split at hm
  · rename_i fields constants hlayout
    simpa [hlayout] using (mem_recordState.mp hm).1
  · rename_i classes hlayout
    simpa [hlayout] using ((mem_slotState hn).mp hm).1
  · exact hs m hm

lemma shownState_perm (hc : c.layout.Sound) (hs : ∀ s ∈ state, isShown c s.1 = true)
    (hf : ∀ fields constants, c.layout = .record fields constants → ∀ f ∈ fields, f ∈ state.map Prod.fst) :
    (shownState c state).Perm state := by
  refine (List.perm_ext_iff_of_nodup (nodup_of_names (nodup_shownState hc hn)) (nodup_of_names hn)).mpr fun m => ?_
  unfold isShown at hs
  unfold shownState
  split
  · rename_i fields constants hlayout
    simp only [hlayout, List.contains_iff_mem] at hs
    rw [mem_recordState, find?_eq_some_iff hn, find?_eq_none_iff]
    constructor
    · rintro ⟨hm, h | ⟨h, -⟩⟩
      · exact h
      · exact absurd (hf fields constants hlayout m.1 hm) h
    · exact fun h => ⟨hs m h, .inl h⟩
  · rename_i classes hlayout
    simp only [hlayout, List.contains_iff_mem] at hs
    rw [mem_slotState hn]
    exact and_iff_right_of_imp fun h => hs m h
  · rfl

end State

section Encoding

lemma encodeAttrs_iff : encodeAttrs follow c attrs = .ok state ↔
    List.Forall₂ (AttrData follow) (attrs.filter fun a => isShown c a.1) state := by
  induction attrs generalizing state with
  | nil => simp [encodeAttrs, eq_comm]
  | cons a attrs ih =>
    by_cases ha : isShown c a.1
    · simp only [encodeAttrs, ha, if_true, bind_eq_ok, ih, List.filter_cons_of_pos, List.forall₂_cons_left_iff,
        Except.ok.injEq]
      constructor
      · rintro ⟨y, hy, rest, hrest, rfl⟩
        exact ⟨_, rest, ⟨rfl, hy⟩, hrest, rfl⟩
      · rintro ⟨⟨k, y⟩, rest, ⟨hk, hy⟩, hrest, rfl⟩
        obtain rfl : k = a.1 := hk
        exact ⟨y, hy, rest, hrest, rfl⟩
    · simp only [encodeAttrs, ha, if_false, Bool.false_eq_true, List.filter_cons_of_neg, not_false_iff, ih]

lemma encodeWith_object {data : Json} : encodeWith follow (.object c attrs) = .ok data ↔
    readable c (attrs.map Prod.fst) = .ok () ∧ ∃ found, encodeAttrs follow c attrs = .ok found ∧
      data = objectData c (shownState c found) := by
  simp only [encodeWith, bind_eq_ok, Except.ok.injEq]
  constructor
  · rintro ⟨_, hr, found, hfound, rfl⟩
    exact ⟨hr, found, hfound, rfl⟩
  · rintro ⟨hr, found, hfound, rfl⟩
    exact ⟨(), hr, found, hfound, rfl⟩

lemma shown_of_names {found : List (String × Json)} (hnames : found.map Prod.fst = attrs.map Prod.fst)
    (hs : ∀ a ∈ attrs, isShown c a.1 = true) : ∀ s ∈ found, isShown c s.1 = true := by
  intro s hm
  have hname : s.1 ∈ attrs.map Prod.fst := hnames ▸ List.mem_map_of_mem hm
  obtain ⟨a, ha, heq⟩ := List.mem_map.mp hname
  exact heq ▸ hs a ha

lemma readable_eq_ok {names : List String} (hb : ∀ fault, c.layout ≠ .barred fault) :
    readable c names = .ok () ↔ ∀ fields constants, c.layout = .record fields constants →
      ∀ f ∈ fields, f ∈ names ∨ constants.any (·.1 == f) = true := by
  unfold readable
  split
  · rename_i fault hlayout
    exact absurd hlayout (hb fault)
  · rename_i fields constants hlayout
    have hunset : ∀ f, (!names.contains f && !constants.any (·.1 == f)) = true ↔
        ¬ (f ∈ names ∨ constants.any (·.1 == f) = true) := fun f => by
      rw [not_or, Bool.and_eq_true, Bool.not_eq_true', Bool.not_eq_true', Bool.not_eq_true, List.contains_eq_mem,
        decide_eq_false_iff_not]
    cases hfind : fields.find? fun f => !names.contains f && !constants.any (·.1 == f) with
    | some f =>
      refine iff_of_false nofun fun h => ?_
      have hf := List.find?_some hfind
      exact (hunset f).mp hf (h fields constants hlayout f (List.mem_of_find?_eq_some hfind))
    | none =>
      refine iff_of_true rfl fun fields' constants' hlayout' f hf => ?_
      rw [hlayout] at hlayout'
      cases hlayout'
      exact not_not.mp fun h => List.find?_eq_none.mp hfind f hf ((hunset f).mpr h)
  · rename_i hbarred hrecord
    exact iff_of_true rfl fun fields constants hlayout => absurd hlayout (hrecord fields constants)

lemma filter_shown (hs : ∀ a ∈ attrs, isShown c a.1 = true) : (attrs.filter fun a => isShown c a.1) = attrs :=
  List.filter_eq_self.mpr hs

lemma Instance.holding (hi : Instance c attrs) (hs : Shown c attrs) {found : List (String × Json)}
    (h : List.Forall₂ (AttrData follow) attrs found) :
    encodeWith follow (.object c attrs) = .ok (objectData c (shownState c found)) ∧
      Holding follow attrs (shownState c found) := by
  have hnames := names_of_data h
  constructor
  · refine encodeWith_object.mpr ⟨(readable_eq_ok hi.unbarred).mpr ?_, found, ?_, rfl⟩
    · exact fun fields constants hl f hf => .inl (hs.fields fields constants hl f hf)
    · rw [encodeAttrs_iff, filter_shown hs.shown]
      exact h
  · have hperm := shownState_perm (hnames ▸ hi.nodup) hi.sound (shown_of_names hnames hs.shown)
      fun fields constants hl f hf => hnames ▸ hs.fields fields constants hl f hf
    obtain ⟨as, has, hp⟩ := List.perm_comp_forall₂ hperm h.flip
    exact ⟨as, hp, has.flip⟩

lemma Instance.shown_of_holding (hi : Instance c attrs)
    (h : encodeWith follow (.object c attrs) = .ok (objectData c state)) (hold : Holding follow attrs state) :
    Shown c attrs ∧ ∀ a ∈ attrs, ∃ data, encodeWith follow a.2 = .ok data := by
  obtain ⟨hreadable, found, hfound, hdata⟩ := encodeWith_object.mp h
  obtain rfl : state = shownState c found := by simpa [objectData, tagged] using hdata
  rw [encodeAttrs_iff] at hfound
  have hnames := names_of_data hfound
  have hnodup : (found.map Prod.fst).Nodup := by
    rw [hnames]
    exact hi.nodup.sublist (List.filter_sublist.map _)
  have hfilter : ∀ s ∈ found, isShown c s.1 = true :=
    shown_of_names hnames fun a ha => (List.mem_filter.mp ha).2
  refine ⟨⟨fun a ha => ?_, fun fields constants hl f hf => ?_⟩, ?_⟩
  · obtain ⟨m, hm, heq⟩ := List.mem_map.mp (hold.name_mem.mpr (List.mem_map_of_mem ha))
    exact heq ▸ isShown_of_mem hnodup hfilter hm
  · -- a field left to its constant would be one more entry
    rcases (readable_eq_ok hi.unbarred).mp hreadable fields constants hl f hf with hset | hconstant
    · exact hset
    · by_contra hunset
      obtain ⟨d, hd⟩ := Option.isSome_iff_exists.mp (List.find?_isSome.mpr (List.any_eq_true.mp hconstant))
      have habsent : f ∉ found.map Prod.fst := by
        rw [hnames]
        exact fun hm => hunset ((List.filter_sublist.map Prod.fst).subset hm)
      have hm : (f, constantData d.2) ∈ shownState c found := by
        rw [shownState, hl]
        exact mem_recordState.mpr ⟨hf, .inr ⟨find?_eq_none_iff.mpr habsent, d, hd, rfl⟩⟩
      exact hunset (hold.name_mem.mp (List.mem_map_of_mem hm))
  · obtain ⟨as, hp, has⟩ := hold
    intro a ha
    obtain ⟨s, -, hs⟩ := exists_forall₂_iff.mp ⟨_, has⟩ a (hp.mem_iff.mpr ha)
    exact ⟨s.2, hs⟩

end Encoding

section Decoding

variable {lib : Library} {mode : Mode} {rows found : List (String × Value)}

/-- An importable class of which a blank instance can be made. -/
structure Creatable (lib : Library) (c : Class) : Prop where
  importable : Importable lib c.name
  blank : lib.create c.name = .ok (.object c [])

/-- Entries and the attributes that they are read as. -/
def AttrReads (mode : Mode) (s : String × Json) (b : String × Value) : Prop := b.1 = s.1 ∧ Decodes mode s.2 b.2

lemma decodeMembers_rows {recur : Json → Noting Value}
    (h : List.Forall₂ (fun s b => b.1 = s.1 ∧ recur s.2 = pure b.2) state rows) :
    decodeMembers recur state = pure rows := by
  induction h with
  | nil => rfl
  | @cons s b _ _ hsb _ ih =>
    obtain ⟨k, x⟩ := s
    obtain ⟨l, v⟩ := b
    obtain ⟨rfl, hx⟩ := hsb
    simp only [decodeMembers, hx, ih, pure_bind]

def objectFields (c : Class) (state : List (String × Json)) : List (String × Json) :=
  [(tagKey, .str "object"), ("class", .str c.name.text), ("state", .obj state)]

lemma decode_objectData (h : List.Forall₂ (AttrReads mode) state rows) :
    decode mode (objectData c state) = decodeObject mode (objectFields c state) rows := by
  obtain ⟨fuel, hfuel⟩ := Nat.exists_eq_succ_of_ne_zero (size_pos (objectData c state)).ne'
  have hroom : Json.sizeMembers state ≤ fuel := by
    simp only [objectData, tagged, Json.size, Json.sizeMembers] at hfuel
    omega
  have hstate : decodeMembers (decodeTo mode fuel) state = pure rows := by
    apply decodeMembers_rows
    clear hfuel
    induction h with
    | nil => exact .nil
    | cons hsb _ ih =>
      rw [Json.sizeMembers] at hroom
      exact .cons ⟨hsb.1, hsb.2 _ (by omega)⟩ (ih (by omega))
  rw [decode, hfuel, decodeTo]
  simp [objectData, tagged, decodeNode, Json.find?, decodeTagged, field, settle_ok, tagKey, hstate, objectFields]

lemma setAttr_object {key : String} {v : Value} (hk : key ≠ classKey)
    (hs : ∀ classes, c.layout = .slots classes → key ∈ classes.flatten) :
    setAttr (.object c found) key v = .ok (.object c (put key v found)) := by
  have hclass : (key == classKey) = false := by simpa using hk
  simp only [setAttr, hclass, Bool.false_eq_true, if_false]
  split
  · rename_i classes hlayout
    simp [hs classes hlayout]
  · rfl

lemma setAttrs_object (hk : classKey ∉ rows.map Prod.fst)
    (hs : ∀ classes, c.layout = .slots classes → ∀ b ∈ rows, b.1 ∈ classes.flatten)
    (hn : ((found ++ rows).map Prod.fst).Nodup) : setAttrs (.object c found) rows = .ok (.object c (found ++ rows)) := by
  induction rows generalizing found with
  | nil => rw [setAttrs, List.append_nil]
  | cons b rows ih =>
    rw [List.map_cons, List.mem_cons, not_or] at hk
    have habsent : b.1 ∉ found.map Prod.fst := by
      rw [List.map_append, List.map_cons, List.nodup_append] at hn
      exact fun hm => hn.2.2 _ hm _ List.mem_cons_self rfl
    rw [setAttrs, setAttr_object (Ne.symm hk.1) fun classes hl => hs classes hl b List.mem_cons_self, ok_bind,
      put_absent habsent, ih hk.2 (fun classes hl b hb => hs classes hl b (.tail _ hb)) (by simpa using hn)]
    simp

lemma setAttrs_class (h : classKey ∈ rows.map Prod.fst) : ∃ f, setAttrs (.object c found) rows = .error f := by
  induction rows generalizing found with
  | nil => cases h
  | cons b rows ih =>
    obtain ⟨k, v⟩ := b
    by_cases hk : k = classKey
    · subst hk
      exact ⟨_, rfl⟩
    · have hrest : classKey ∈ rows.map Prod.fst := (List.mem_cons.mp h).resolve_left (Ne.symm hk)
      have hclass : (k == classKey) = false := by simpa using hk
      rw [setAttrs]
      simp only [setAttr, hclass, Bool.false_eq_true, if_false]
      split
      · split
        · exact ih hrest
        · exact ⟨_, rfl⟩
      · exact ih hrest

/-- What stands for an instance that is not rebuilt, after a note why. -/
def unrebuilt (c : Class) (rows : List (String × Value)) (f : Fault) : Noting Value := do
  Noting.note ⟨.debug, s!"Cannot rebuild {(ofJson (.str c.name.text)).plainText}: ", some f⟩
  pure (placeholder (.str c.name.text) rows)

lemma decodeObject_creatable (hc : Creatable lib c) : decodeObject (some lib) (objectFields c state) rows =
    match setAttrs (.object c []) rows with
    | .ok v => pure v
    | .error f => unrebuilt c rows f := by
  have hclass : field (objectFields c state) "class" = .ok (.str c.name.text) := rfl
  rw [decodeObject]
  simp only [hclass, settle_ok, pure_bind, Library.findData, hc.importable.find, rebuildInstance, hc.blank, ok_bind]
  rfl

lemma decode_instance (hc : Creatable lib c) (hn : (rows.map Prod.fst).Nodup)
    (hs : ∀ classes, c.layout = .slots classes → ∀ b ∈ rows, b.1 ∈ classes.flatten)
    (h : List.Forall₂ (AttrReads (some lib)) state rows) {others : List (String × Value)} :
    decode (some lib) (objectData c state) = pure (.object c others) ↔
      classKey ∉ rows.map Prod.fst ∧ others = rows := by
  rw [decode_objectData h, decodeObject_creatable hc]
  by_cases hk : classKey ∈ rows.map Prod.fst
  · obtain ⟨f, hf⟩ : ∃ f, setAttrs (.object c []) rows = .error f := setAttrs_class hk
    rw [hf]
    refine iff_of_false (fun heq => ?_) fun h => h.1 hk
    cases congrArg (fun r => (Noting.start r).1) heq
  · rw [setAttrs_object hk hs (by simpa using hn), List.nil_append]
    constructor
    · intro heq
      cases congrArg (fun r => (Noting.start r).1) heq
      exact ⟨hk, rfl⟩
    · rintro ⟨-, rfl⟩
      rfl

end Decoding

def Captured (heap : Heap) (c : Class) (attrs : List (String × Value)) : Prop :=
  ∃ state, encode heap (.object c attrs) = .ok (objectData c state) ∧ Holding (following heap) attrs state

variable {heap : Heap} {lib : Library}

lemma Instance.captured_iff (hi : Instance c attrs) :
    Captured heap c attrs ↔ Shown c attrs ∧ ∀ a ∈ attrs, a.2.Sortable := by
  constructor
  · rintro ⟨state, h, hold⟩
    obtain ⟨hs, hdata⟩ := hi.shown_of_holding h hold
    exact ⟨hs, fun a ha => (exists_data_iff (hi.plain a ha).basic).mp (hdata a ha)⟩
  · rintro ⟨hs, hsort⟩
    obtain ⟨found, hfound⟩ : ∃ found, List.Forall₂ (AttrData (following heap)) attrs found := by
      refine exists_forall₂_iff.mpr fun a ha => ?_
      obtain ⟨data, hdata⟩ := (exists_data_iff (hi.plain a ha).basic).mpr (hsort a ha)
      exact ⟨(a.1, data), rfl, hdata⟩
    exact ⟨_, hi.holding hs hfound⟩

lemma objectData_inj {state found : List (String × Json)} (h : objectData c state = objectData c found) :
    state = found := by
  simpa [objectData, tagged] using h

lemma sameAttrs_of_perm {as bs others : List (String × Value)} (ha : as.Perm attrs) (hb : bs.Perm others)
    (h : List.Forall₂ (fun a b => b.1 = a.1 ∧ Same a.2 b.2) as bs) : SameAttrs attrs others := by
  obtain ⟨us, hus, hperm⟩ := List.perm_comp_forall₂ hb.symm h.flip
  exact ⟨us, hperm.trans ha, hus.flip⟩

lemma Holding.sameAttrs {others : List (String × Value)} (hp : ∀ a ∈ attrs, Plain a.2) (hp' : ∀ a ∈ others, Plain a.2)
    (h : Holding follow attrs state) (h' : Holding follow others state) : SameAttrs attrs others := by
  obtain ⟨as, has, hdata⟩ := h
  obtain ⟨bs, hbs, hdata'⟩ := h'
  apply sameAttrs_of_perm has hbs
  refine forall₂_common hdata hdata' fun a ha b hb s hs hs' => ⟨hs'.1.symm.trans hs.1, ?_⟩
  exact same_of_data (hp a (has.mem_iff.mp ha)) (hp' b (hbs.mem_iff.mp hb)) hs.2 hs'.2

lemma Holding.exists_read (hp : ∀ a ∈ attrs, Plain a.2) (h : Holding follow attrs state) (mode : Mode) :
    ∃ as rows : List (String × Value), as.Perm attrs ∧ List.Forall₂ (AttrReads mode) state rows ∧
      List.Forall₂ (fun a b => b.1 = a.1 ∧ ReadsAs a.2 b.2) as rows := by
  obtain ⟨as, has, hdata⟩ := h
  obtain ⟨rows, hrows, hreads⟩ : ∃ rows, List.Forall₂ (AttrReads mode) state rows ∧
      List.Forall₂ (fun a b => b.1 = a.1 ∧ ReadsAs a.2 b.2) as rows := by
    refine forall₂_triple hdata fun a ha s hs => ?_
    obtain ⟨w, hw, hr⟩ : ∃ w, Decodes mode s.2 w ∧ ReadsAs a.2 w := exists_decoded (hp a (has.mem_iff.mp ha)).basic hs.2
    exact ⟨(s.1, w), ⟨rfl, hw⟩, hs.1, hr⟩
  exact ⟨as, rows, has, hrows, hreads⟩

/-- A captured instance is rebuilt with its attributes, where the values are read back and none of them is
called like the class. -/
lemma Instance.rebuilt_iff (hi : Instance c attrs) (hc : Creatable lib c) (hcap : Captured heap c attrs) {data : Json}
    (h : encode heap (.object c attrs) = .ok data) :
    (∃ others, decode (some lib) data = pure (.object c others) ∧ SameAttrs attrs others) ↔
      classKey ∉ attrs.map Prod.fst ∧ ∀ a ∈ attrs, a.2.Readable := by
  obtain ⟨state, hstate, hold⟩ := id hcap
  obtain rfl := Except.ok.inj (h.symm.trans hstate)
  obtain ⟨as, rows, has, hrows, hreads⟩ := hold.exists_read hi.plain (some lib)
  have hnames : (rows.map Prod.fst).Perm (attrs.map Prod.fst) := names_eq (fun _ _ h => h.1) hreads ▸ has.map _
  have hslots : ∀ classes, c.layout = .slots classes → ∀ b ∈ rows, b.1 ∈ classes.flatten := by
    intro classes hl b hb
    obtain ⟨a, ha, heq⟩ := List.mem_map.mp (hnames.mem_iff.mp (List.mem_map_of_mem hb))
    have hshown := (hi.captured_iff.mp hcap).1.shown a ha
    simpa [isShown, hl, heq] using hshown
  have hdecode : ∀ others, decode (some lib) (objectData c state) = pure (.object c others) ↔
      classKey ∉ attrs.map Prod.fst ∧ others = rows := fun others => by
    rw [decode_instance hc (hnames.nodup_iff.mpr hi.nodup) hslots hrows, hnames.mem_iff]
  constructor
  · rintro ⟨others, hothers, us, hus, hsame⟩
    obtain ⟨hk, rfl⟩ := (hdecode others).mp hothers
    have hread : ∀ b ∈ others, b.2.Readable := Value.forall_right hreads fun _ _ b h => h.2.readable
    have hall : ∀ a ∈ us, a.2.Readable :=
      Value.forall_right hsame.flip fun b hb a h => Same.readable h.2 (hread b hb)
    exact ⟨hk, fun a ha => hall a (hus.mem_iff.mpr ha)⟩
  · rintro ⟨hk, hr⟩
    refine ⟨rows, (hdecode rows).mpr ⟨hk, rfl⟩, as, has, ?_⟩
    exact forall₂_imp_mem hreads fun a ha b hb => ⟨hb.1, hb.2.same (hr a (has.mem_iff.mp ha))⟩

/-- Instances of one class: which are captured whole, that those which are have different data where any
attribute differs, and which are rebuilt with the same attributes. -/
theorem instances_captured (heap : Heap) (lib : Library) (hi : Instance c attrs) :
    (Captured heap c attrs ↔ Shown c attrs ∧ ∀ a ∈ attrs, a.2.Sortable) ∧
      (Captured heap c attrs → ∀ others, Instance c others → Captured heap c others →
        encode heap (.object c attrs) = encode heap (.object c others) → SameAttrs attrs others) ∧
      (Captured heap c attrs → Creatable lib c → ∀ data, encode heap (.object c attrs) = .ok data →
        ((∃ others, decode (some lib) data = pure (.object c others) ∧ SameAttrs attrs others) ↔
          classKey ∉ attrs.map Prod.fst ∧ ∀ a ∈ attrs, a.2.Readable)) := by
  refine ⟨hi.captured_iff, ?_, fun hcap hc data h => hi.rebuilt_iff hc hcap h⟩
  rintro ⟨state, hstate, hold⟩ others hi' ⟨state', hstate', hold'⟩ heq
  rw [hstate, hstate', Except.ok.injEq] at heq
  obtain rfl := objectData_inj heq
  exact hold.sameAttrs hi.plain hi'.plain hold'

/-- A library with one class of instances, of any layout. -/
def oneClass (c : Class) : Library where
  resolve _ _ := .ok (.type c.name)
  create _ := .ok (.object c [])
  members? _ := none

/-- Slots of a class and its base are captured whole; with a dictionary beside them they are lost. -/
theorem instances_captured_slots :
    Captured [] ⟨⟨"m", "C"⟩, .slots [["c"], ["a", "b"]], .each⟩ [("a", .int 1), ("c", .str "x")] ∧
      (∃ others, decode (some (oneClass ⟨⟨"m", "C"⟩, .slots [["c"], ["a", "b"]], .each⟩))
          (objectData ⟨⟨"m", "C"⟩, .slots [["c"], ["a", "b"]], .each⟩ [("c", .str "x"), ("a", .int 1)]) =
            pure (.object ⟨⟨"m", "C"⟩, .slots [["c"], ["a", "b"]], .each⟩ others) ∧
          SameAttrs [("a", .int 1), ("c", .str "x")] others) ∧
      ¬ Captured [] ⟨⟨"m", "D"⟩, .mixed [["a", "b"]], .each⟩ [("a", .int 1), ("c", .str "x")] := by
  have instance_of : ∀ c : Class, c.layout.Sound → (∀ fault, c.layout ≠ .barred fault) →
      Instance c [("a", .int 1), ("c", .str "x")] := fun c hsound hb =>
    ⟨hsound, hb, by decide, by simpa using ⟨.atom (.int 1), .atom (.str "x")⟩⟩
  have hsort : ∀ a ∈ ([("a", .int 1), ("c", .str "x")] : List (String × Value)), a.2.Sortable := by
    simp only [List.forall_mem_cons]
    refine ⟨(Value.everywhere_atom (.int 1)).mpr ?_, (Value.everywhere_atom (.str "x")).mpr ?_, nofun⟩ <;>
      rintro xs (h | h) <;> cases h
  have hread : ∀ a ∈ ([("a", .int 1), ("c", .str "x")] : List (String × Value)), a.2.Readable := by
    simp only [List.forall_mem_cons]
    exact ⟨(Value.everywhere_atom (.int 1)).mpr ⟨nofun, nofun⟩,
      (Value.everywhere_atom (.str "x")).mpr ⟨nofun, nofun⟩, nofun⟩
  have hslots := instance_of ⟨⟨"m", "C"⟩, .slots [["c"], ["a", "b"]], .each⟩ trivial nofun
  obtain ⟨hcap, -, hrebuilt⟩ := instances_captured [] (oneClass ⟨⟨"m", "C"⟩, .slots [["c"], ["a", "b"]], .each⟩) hslots
  have hcaptured := hcap.mpr ⟨⟨by decide, nofun⟩, hsort⟩
  refine ⟨hcaptured, ?_, fun h => ?_⟩
  · refine (hrebuilt hcaptured ⟨⟨"m", "C", by decide, rfl⟩, rfl⟩ _ rfl).mpr ⟨by decide, hread⟩
  · have hmixed := instance_of ⟨⟨"m", "D"⟩, .mixed [["a", "b"]], .each⟩ trivial nofun
    obtain ⟨hshown, -⟩ := (instances_captured [] .empty hmixed).1.mp h
    exact absurd (hshown.shown ("a", .int 1) (by simp)) (by decide)

end CallSnapshot.Codec
