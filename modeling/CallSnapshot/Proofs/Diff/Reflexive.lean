import CallSnapshot.Proofs.Codec.Projection
import CallSnapshot.Proofs.Diff.Exactness

/-!
What was read back of data, compared with itself. As one object it has no changes but where a mark of what is
no number stands for a decimal fraction or in a complex number; as two copies it has none but there, in a set
or in a key.
-/

namespace CallSnapshot

namespace Value

variable {v : Value}

/-- A leaf with a mark of what is no number, other than that of a fraction alone. -/
def Blind : Value → Prop
  | .decimal d => d.isNan = true
  | .complex re im => re.isNan = true ∨ im.isNan = true
  | _ => False

/-- Elements and keys that are found by equality. -/
def FindableAt : Value → Prop
  | .set xs | .frozenset xs => ∀ x ∈ xs, x.Everywhere IsNumber
  | .dict es => ∀ e ∈ es, e.1.Everywhere IsNumber
  | _ => True

def Findable : Value → Prop := Everywhere FindableAt

lemma Atom.eq_refl (h : Atom v) (hn : v.IsNumber) : v.eq v = true := by
  obtain ⟨k, hk⟩ := h.exists_key hn
  exact (eq_iff_key h h).mpr ⟨k, hk, hk⟩

lemma Atom.isNumber_of_eq (h : Atom v) (hself : v.eq v = true) : v.IsNumber := by
  obtain ⟨k, hk, -⟩ := (eq_iff_key h h).mp hself
  cases h with
  | @float x => cases x <;> first | rfl | cases hk
  | @decimal d => cases d <;> first | rfl | simp [key?, Decimal.magnitude?] at hk
  | @complex re im =>
    cases re <;> cases im <;> first | exact ⟨rfl, rfl⟩ | simp [key?, Binary64.magnitude?] at hk
  | _ => trivial

lemma Basic.eq_refl (h : v.Basic) (hh : v.hashFault? = none) (hn : v.Everywhere IsNumber) :
    v.eq v = true := by
  induction h with
  | atom h => exact h.eq_refl (hn _ (.self _))
  | duration => exact duration_eq_iff.mpr rfl
  | list => cases hh
  | set => cases hh
  | dict => cases hh
  | @tuple xs h ih =>
    rw [hashFault?, hashFaultIn?_eq_none] at hh
    rw [everywhere_iff] at hn
    exact eq_tuple.mpr (List.forall₂_same.mpr fun x hx => ih x hx (hh x hx) (hn.2 x hx))
  | @frozenset xs h hx _ ih =>
    rw [everywhere_iff] at hn
    exact eq_frozenset.mpr ⟨rfl, fun x hm => ⟨x, hm, ih x hm (hx x hm) (hn.2 x hm)⟩⟩

lemma set_eq_self {xs : List Value} (h : ∀ x ∈ xs, x.Basic) (hh : ∀ x ∈ xs, x.hashFault? = none)
    (hn : ∀ x ∈ xs, x.Everywhere IsNumber) :
    (set xs).eq (set xs) = true ∧ (frozenset xs).eq (frozenset xs) = true := by
  have found : eqMembers xs xs = true := eqMembers_iff.mpr fun x hx => ⟨x, hx, (h x hx).eq_refl (hh x hx) (hn x hx)⟩
  simp [eq, eqSet, found]

end Value

namespace Diff

open Value

/-! Both sides one object: a set finds its own elements and a key its own value, whatever they are. -/

/-- What a value leads to through lists, tuples and the values of dictionaries. -/
inductive Reaches : Value → Value → Prop
  | self (v : Value) : Reaches v v
  | inner {a k v w : Value} (hv : Holds a k v) (h : Reaches v w) : Reaches a w

def ownEqual (t : Tolerance) : Value → Except Fault Bool
  | .set _ | .frozenset _ => .ok true
  | v => valuesEqual t v v

def ownLeaf (t : Tolerance) (path : List Value) (v : Value) : Except Fault (List Change) := do
  .ok (if ← ownEqual t v then [] else [⟨path, .change, v, v⟩])

mutual

/-- The changes of a value against itself as one object. -/
def ownChanges (t : Tolerance) (path : List Value) (v : Value) : Except Fault (List Change) :=
  match v with
  | .dict es => ownEntries t path es
  | .list xs => ownItems t path 0 xs
  | .tuple xs => ownItems t path 0 xs
  | .extended kind v => if (container? v).isSome then ownChanges t path v else ownLeaf t path (.extended kind v)
  | v => ownLeaf t path v

def ownEntries (t : Tolerance) (path : List Value) : List (Value × Value) → Except Fault (List Change)
  | [] => .ok []
  | (k, v) :: es => do
    let here ← ownChanges t (path ++ [k]) v
    .ok (here ++ (← ownEntries t path es))

def ownItems (t : Tolerance) (path : List Value) (index : ℕ) : List Value → Except Fault (List Change)
  | [] => .ok []
  | x :: xs => do
    let here ← ownChanges t (path ++ [.int index]) x
    .ok (here ++ (← ownItems t path (index + 1) xs))

end

variable {t : Tolerance} {v w : Value} {p : List Value}

section Found

/-- Changes are found, and there are none where a condition holds. -/
def NoneWhere (r : Except Fault (List Change)) (P : Prop) : Prop := ∃ cs, r = .ok cs ∧ (cs = [] ↔ P)

lemma NoneWhere.congr {r : Except Fault (List Change)} {P Q : Prop} (h : NoneWhere r P) (hPQ : P ↔ Q) :
    NoneWhere r Q := propext hPQ ▸ h

lemma noneWhere_nil {P : Prop} (h : P) : NoneWhere (.ok []) P := ⟨[], rfl, iff_of_true rfl h⟩

lemma NoneWhere.append {r s : Except Fault (List Change)} {P Q : Prop} (hr : NoneWhere r P) (hs : NoneWhere s Q) :
    NoneWhere (do let here ← r; .ok (here ++ (← s))) (P ∧ Q) := by
  obtain ⟨cs, rfl, hcs⟩ := hr
  obtain ⟨ds, rfl, hds⟩ := hs
  exact ⟨cs ++ ds, rfl, by rw [List.append_eq_nil_iff, hcs, hds]⟩

lemma ownItems_noneWhere {P : Value → Prop} {xs : List Value} {i : ℕ}
    (h : ∀ x ∈ xs, ∀ p, NoneWhere (ownChanges t p x) (P x)) : NoneWhere (ownItems t p i xs) (∀ x ∈ xs, P x) := by
  induction xs generalizing i with
  | nil => exact noneWhere_nil nofun
  | cons x xs ih =>
    rw [List.forall_mem_cons] at h
    rw [ownItems, List.forall_mem_cons]
    exact (h.1 _).append (ih h.2)

lemma ownEntries_noneWhere {P : Value → Prop} {es : List (Value × Value)}
    (h : ∀ e ∈ es, ∀ p, NoneWhere (ownChanges t p e.2) (P e.2)) :
    NoneWhere (ownEntries t p es) (∀ e ∈ es, P e.2) := by
  induction es with
  | nil => exact noneWhere_nil nofun
  | cons e es ih =>
    rw [List.forall_mem_cons] at h
    rw [ownEntries, List.forall_mem_cons]
    exact (h.1 _).append (ih h.2)

/-- Nothing that a value leads to is blind. -/
def Sighted (v : Value) : Prop := ∀ w, Reaches v w → ¬ w.Blind

lemma sighted_iff : Sighted v ↔ ¬ v.Blind ∧ ∀ k w, Holds v k w → Sighted w := by
  constructor
  · exact fun h => ⟨h v (.self v), fun k w hw u hu => h u (.inner hw hu)⟩
  · rintro ⟨hv, hin⟩ w hw
    cases hw with
    | self => exact hv
    | inner hk hw => exact hin _ _ hk _ hw

lemma sighted_leaf (hc : container? v = none) : Sighted v ↔ ¬ v.Blind := by
  rw [sighted_iff, and_iff_left]
  rintro k w hw
  cases hw <;> cases hc

lemma Sequence.sighted_iff {seq : List Value → Value} (hs : Sequence seq) {xs : List Value} :
    Sighted (seq xs) ↔ ∀ x ∈ xs, Sighted x := by
  have hsight : ¬ (seq xs).Blind := by cases hs <;> exact id
  rw [Diff.sighted_iff, and_iff_right hsight]
  constructor
  · intro h x hx
    obtain ⟨i, hi⟩ := List.mem_iff_getElem?.mp hx
    exact h _ x (hs.holds_iff.mpr ⟨i, rfl, hi⟩)
  · intro h k w hw
    obtain ⟨i, -, hi⟩ := hs.holds_iff.mp hw
    exact h w (List.mem_of_getElem? hi)

lemma sighted_dict {es : List (Value × Value)} : Sighted (.dict es) ↔ ∀ e ∈ es, Sighted e.2 := by
  rw [sighted_iff, and_iff_right (show ¬ (Value.dict es).Blind from id)]
  simp only [holds_dict]
  exact ⟨fun h e he => h e.1 e.2 he, fun h k w hw => h (k, w) hw⟩

lemma ownChanges_leaf (hc : container? v = none) : ownChanges t p v = ownLeaf t p v := by
  cases v with
  | dict => cases hc
  | list => cases hc
  | tuple => cases hc
  | extended kind v =>
    have hc : container? v = none := hc
    simp [ownChanges, hc]
  | _ => simp [ownChanges]

lemma noneWhere_leaf {same : Bool} (h : ownEqual t v = .ok same) (hb : same = true ↔ ¬ v.Blind)
    (hc : container? v = none) : NoneWhere (ownChanges t p v) (Sighted v) := by
  rw [ownChanges_leaf hc, ownLeaf, h, sighted_leaf hc, ← hb]
  cases same <;> exact ⟨_, rfl, by simp⟩

lemma ownEqual_atom (h : Atom v) : ∃ same, ownEqual exact v = .ok same ∧ (same = true ↔ ¬ v.Blind) := by
  have whole : v.eq v = true ↔ v.IsNumber := ⟨h.isNumber_of_eq, h.eq_refl⟩
  cases h
  case float x hx => exact ⟨true, congrArg Except.ok ((close_exact_iff hx hx).mpr rfl), by simp [Blind]⟩
  case int n => exact ⟨true, by simp [ownEqual, valuesEqual, isBool, number?, numbersEqual], by simp [Blind]⟩
  all_goals
    refine ⟨_, ?_, whole.trans ?_⟩
    · simp [ownEqual, valuesEqual, isBool, number?]
    · simp [IsNumber, Blind]

lemma ownChanges_basic (h : v.Basic) (p : List Value) : NoneWhere (ownChanges exact p v) (Sighted v) := by
  induction h generalizing p with
  | atom h =>
    obtain ⟨same, hsame, hb⟩ := ownEqual_atom h
    exact noneWhere_leaf hsame hb (by cases h <;> rfl)
  | @duration d _ =>
    have hd : (Value.duration d).eq (.duration d) = true := duration_eq_iff.mpr rfl
    have hsame : ownEqual exact (.duration d) = .ok true := by simp [ownEqual, valuesEqual, isBool, number?, hd]
    exact noneWhere_leaf hsame (by simp [Blind]) rfl
  | list _ ih =>
    rw [ownChanges]
    exact (ownItems_noneWhere ih).congr Sequence.list.sighted_iff.symm
  | tuple _ ih =>
    rw [ownChanges]
    exact (ownItems_noneWhere ih).congr Sequence.tuple.sighted_iff.symm
  | @set xs =>
    have hsame : ownEqual exact (.set xs) = .ok true := rfl
    exact noneWhere_leaf hsame (by simp [Blind]) rfl
  | @frozenset xs =>
    have hsame : ownEqual exact (.frozenset xs) = .ok true := rfl
    exact noneWhere_leaf hsame (by simp [Blind]) rfl
  | dict _ _ _ _ _ ih =>
    rw [ownChanges]
    exact (ownEntries_noneWhere ih).congr sighted_dict.symm

end Found

section Copies

lemma changesItems_self {xs : List Value} {i : ℕ} (h : ∀ x ∈ xs, ∀ p, changesAt t p x x = ownChanges t p x) :
    changesItems t p i xs xs = ownItems t p i xs := by
  induction xs generalizing i with
  | nil => rw [changesItems, ownItems, createFrom]
  | cons x xs ih =>
    rw [List.forall_mem_cons] at h
    rw [changesItems, ownItems, h.1, ih h.2]

lemma changesEntries_self {es fs : List (Value × Value)} (hl : ∀ e ∈ es, lookup? e.1 fs = some e.2)
    (h : ∀ e ∈ es, ∀ p, changesAt t p e.2 e.2 = ownChanges t p e.2) :
    changesEntries t p es fs = ownEntries t p es := by
  induction es with
  | nil => rw [changesEntries, ownEntries]
  | cons e es ih =>
    rw [List.forall_mem_cons] at hl h
    obtain ⟨k, v⟩ := e
    rw [changesEntries, ownEntries, hl.1, ih hl.2 h.2]
    simp only [h.1]

/-- Where elements and keys are found by equality, a copy of a value is as good as the value itself. -/
lemma changesAt_findable (h : v.Basic) (hf : v.Findable) (p : List Value) :
    changesAt t p v v = ownChanges t p v := by
  induction h generalizing p with
  | @atom v h =>
    have hc : container? v = none := by cases h <;> rfl
    rw [changesAt_leaf p (.inl hc), ownChanges_leaf hc, leaf, ownLeaf]
    cases h <;> rfl
  | duration =>
    rw [changesAt_leaf p (.inl rfl), ownChanges_leaf rfl, leaf, ownLeaf, ownEqual]
    all_goals simp
  | @list xs _ ih =>
    rw [Findable, everywhere_iff] at hf
    simp only [changesAt, ownChanges, container?, beq_self_eq_true, if_true, itemsOf]
    exact changesItems_self fun x hx => ih x hx (hf.2 x hx)
  | @tuple xs _ ih =>
    rw [Findable, everywhere_iff] at hf
    simp only [changesAt, ownChanges, container?, beq_self_eq_true, if_true, itemsOf]
    exact changesItems_self fun x hx => ih x hx (hf.2 x hx)
  | @set xs h hh _ =>
    have heq := (set_eq_self h hh (hf _ (.self _))).1
    rw [changesAt_leaf p (.inl rfl), ownChanges_leaf rfl, leaf, ownLeaf]
    simp [ownEqual, valuesEqual, isBool, number?, heq]
  | @frozenset xs h hh _ =>
    have heq := (set_eq_self h hh (hf _ (.self _))).2
    rw [changesAt_leaf p (.inl rfl), ownChanges_leaf rfl, leaf, ownLeaf]
    simp [ownEqual, valuesEqual, isBool, number?, heq]
  | @dict es hk hh hd _ _ ih =>
    have hkeys : ∀ e ∈ es, e.1.Everywhere IsNumber := hf _ (.self _)
    rw [Findable, everywhere_iff] at hf
    have hself : ∀ e ∈ es, e.1.eq e.1 = true := fun e he => (hk e he).eq_refl (hh e he) (hkeys e he)
    have hvalues : ∀ e ∈ es, e.2.Findable := fun e he => hf.2 e.2 (List.mem_append_right _ (List.mem_map_of_mem he))
    simp only [changesAt, ownChanges, container?, beq_self_eq_true, if_true, entriesOf]
    rw [changesEntries_self (fun e he => lookup?_entry hd he (hself e he)) fun e he => ih e he (hvalues e he),
      createEntries_eq_nil fun f hf => lookup?_isSome hf (hself f hf)]
    cases ownEntries t p es <;> simp [bind, Except.bind]

lemma Reaches.within (h : Reaches v w) : Within w v := by
  induction h with
  | self v => exact .self v
  | inner hv _ ih =>
    refine .part ?_ ih
    cases hv with
    | list hx => exact List.mem_of_getElem? hx
    | tuple hx => exact List.mem_of_getElem? hx
    | dict he => exact List.mem_append_right _ (List.mem_map_of_mem he)

end Copies

/-- What is read back from the text of a value has, as one object, no changes against itself exactly where it
leads to nothing blind; where elements and keys are found by equality, so it is with a copy of it. -/
theorem changes_itself {heap : Heap} {s : String} {x : Value} (hh : ∀ y ∈ heap, y.Sound) (hv : v.Sound)
    (hs : Codec.dumps heap v = .ok s) (hx : (Codec.loads none s).start.1 = .ok x) :
    (∃ cs, ownChanges exact [] x = .ok cs ∧ (cs = [] ↔ ∀ w, Reaches x w → ¬ w.Blind)) ∧
      (x.Findable → changes exact x x = ownChanges exact [] x) := by
  have hnormal : (Codec.normalize heap v).start.1 = .ok x := by
    rw [Codec.normalize, hs]
    exact hx
  have hbasic := (Codec.fixed_normalize hh hv hnormal).basic
  exact ⟨ownChanges_basic hbasic [], fun hf => changesAt_findable hbasic hf []⟩

def marks : Value := .list [.float .nan, .complex .nan Binary64.zero]

/-- The mark in a complex number is a change, the one that is a fraction is none. -/
theorem changes_itself_marks :
    ∃ s, Codec.dumps [] marks = .ok s ∧ (Codec.loads none s).start.1 = .ok marks ∧
      (∃ cs, ownChanges exact [] marks = .ok cs ∧ (cs = [] ↔ ∀ w, Reaches marks w → ¬ w.Blind)) ∧
      (marks.Findable → changes exact marks marks = ownChanges exact [] marks) := by
  have hheap : ∀ y ∈ ([] : Heap), y.Sound := nofun
  have hsound : marks.Sound := by simp [marks, Value.Sound, Value.SoundItems, Binary64.Valid, Binary64.zero]
  let data : Json := .arr [Codec.floatData .nan,
    Codec.tagged "complex" [("real", Codec.floatData .nan), ("imag", Codec.floatData Binary64.zero)]]
  have hdata : Codec.encode [] marks = .ok data := by
    simp [data, marks, Codec.encode, Codec.encodeWith, Codec.encodeItems, ok_bind]
  have hprintable : data.Printable :=
    ⟨⟨trivial, trivial, trivial⟩, ⟨trivial, ⟨trivial, trivial, trivial⟩, trivial, trivial⟩, trivial⟩
  obtain ⟨s, hprint⟩ := (Json.print_eq_ok (l := Json.compact)).mpr hprintable
  have hs : Codec.dumps [] marks = .ok s := by rw [Codec.dumps, hdata, ok_bind, hprint]
  have hx : (Codec.loads none s).start.1 = .ok marks := by
    rw [Codec.loads_dumps hheap hsound hdata hs]
    rw [(Codec.decodes_list (.cons (Codec.decodes_float _) (.cons (Codec.decodes_complex _ _) .nil))).decode]
    rfl
  exact ⟨_, hs, hx, changes_itself hheap hsound hs hx⟩

end Diff

end CallSnapshot
