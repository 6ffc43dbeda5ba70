import CallSnapshot.Proofs.Codec.RoundTrip

/-!
Plain values with the same data are the same, but for the order of the items in their sets. Data tell
the kind of a value by their form or their tag, and then the parts one by one.
-/

namespace CallSnapshot

namespace Json

/-- The kind of value that data are of. -/
def label : Json → String
  | .null => "null"
  | .bool _ => "bool"
  | .int _ => "int"
  | .float _ => "float"
  | .str _ => "str"
  | .arr _ => "list"
  | .obj members =>
    match Json.find? Codec.tagKey members with
    | some (.str tag) => tag
    | _ => "dict"

end Json

namespace Value

def label : Value → String
  | .null => "null"
  | .bool _ => "bool"
  | .int _ => "int"
  | .float _ => "float"
  | .str _ => "str"
  | .bytes _ => "bytes"
  | .date _ => "date"
  | .time _ => "time"
  | .datetime _ => "datetime"
  | .decimal _ => "decimal"
  | .complex _ _ => "complex"
  | .uuid _ => "uuid"
  | .path _ => "path"
  | .list _ => "list"
  | .tuple _ => "tuple"
  | .set _ => "set"
  | .frozenset _ => "frozenset"
  | .dict _ => "dict"
  | _ => ""

def containerLabels : List String := ["list", "tuple", "set", "frozenset", "dict"]

lemma Atom.label_notMem {v : Value} (h : Atom v) : v.label ∉ containerLabels := by
  cases h <;> simp [label, containerLabels]

end Value

namespace Codec

open Value (Plain Atom Same)

variable {follow : ℕ → Except Fault Json} {mode : Mode} {data : Json}

lemma label_floatData (x : Binary64) : (floatData x).label = "float" := by
  unfold floatData encodeFloat
  split <;> rfl

lemma label_data {v : Value} (hv : Plain v) (h : encodeWith follow v = .ok data) : data.label = v.label := by
  cases hv with
  | atom hv =>
    cases hv with
    | float =>
      rw [encodeWith] at h
      cases h
      exact label_floatData _
    | _ =>
      rw [encodeWith] at h
      cases h
      rfl
  | list =>
    obtain ⟨ys, -, rfl⟩ := encodeWith_list.mp h
    rfl
  | tuple =>
    obtain ⟨ys, -, rfl⟩ := encodeWith_tuple.mp h
    rfl
  | set =>
    obtain ⟨ys, zs, -, -, rfl⟩ := encodeWith_set.mp h
    rfl
  | frozenset =>
    obtain ⟨ys, zs, -, -, rfl⟩ := encodeWith_frozenset.mp h
    rfl
  | dict hk =>
    rcases (encodeWith_dict fun e he => (hk e he).plain.basic).mp h with
      ⟨keys, ys, -, ht, -, -, rfl⟩ | ⟨zs, -, -, rfl⟩
    · rw [Json.label, find?_tag ht]
      rfl
    · rfl

lemma atom_of_data {v w : Value} (hv : Atom v) (hw : Atom w) (h : encodeWith follow v = .ok data)
    (h' : encodeWith follow w = .ok data) : v = w := by
  have hread : Decodes none data v.heard := decodes_heard hv h
  have hheard := hread.unique (decodes_heard hw h')
  cases hv with
  | time ht =>
    cases hw with
    | time ht' =>
      rw [encodeWith] at h h'
      have htext := h.trans h'.symm
      simp only [tagged, Except.ok.injEq, Json.obj.injEq, List.cons.injEq, Prod.mk.injEq, Json.str.injEq, true_and,
        and_true] at htext
      rw [Iso.timeText_inj ht ht' htext]
    | _ => cases hheard
  | datetime hm =>
    cases hw with
    | datetime hm' =>
      rw [encodeWith] at h h'
      have htext := h.trans h'.symm
      simp only [tagged, Except.ok.injEq, Json.obj.injEq, List.cons.injEq, Prod.mk.injEq, Json.str.injEq, true_and,
        and_true] at htext
      rw [Iso.dateTimeText_inj hm hm' htext]
    | _ => cases hheard
  | _ =>
    cases hw with
    | time => cases hheard
    | datetime => cases hheard
    | _ => exact hheard

lemma forall₂_common {α β γ : Type} {r : α → γ → Prop} {s : β → γ → Prop} {q : α → β → Prop} {xs : List α}
    {ys : List β} {zs : List γ} (hx : List.Forall₂ r xs zs) (hy : List.Forall₂ s ys zs)
    (h : ∀ x ∈ xs, ∀ y ∈ ys, ∀ z, r x z → s y z → q x y) : List.Forall₂ q xs ys := by
  induction hx generalizing ys with
  | nil =>
    cases hy
    exact .nil
  | cons hxz _ rest =>
    cases hy with
    | cons hyz hy =>
      apply List.Forall₂.cons
      · exact h _ (.head _) _ (.head _) _ hxz hyz
      · exact rest hy fun x hx y hy => h x (.tail _ hx) y (.tail _ hy)

lemma same_of_elements {tag : String} {xs ws : List Value} (hx : SetData follow tag xs data)
    (hw : SetData follow tag ws data)
    (ih : ∀ x ∈ xs, ∀ w ∈ ws, ∀ y, encodeWith follow x = .ok y → encodeWith follow w = .ok y → Same x w) :
    ∃ us, List.Forall₂ Same xs us ∧ us.Perm ws := by
  obtain ⟨ys, zs, hys, hzs, rfl⟩ := hx
  obtain ⟨ys', zs', hys', hzs', hdata⟩ := hw
  obtain rfl : zs = zs' := by simpa [tagged] using hdata
  have hperm : ys.Perm ys' := (sortItems_eq_ok hzs).1.symm.trans (sortItems_eq_ok hzs').1
  obtain ⟨us, hus, hp⟩ := List.perm_comp_forall₂ hperm hys'.flip
  exact ⟨us, forall₂_common hys hus.flip fun x hx u hu => ih x hx u (hp.mem_iff.mp hu), hp⟩

lemma not_atom_of_label {v w : Value} (hv : v.label ∈ Value.containerLabels) (hl : v.label = w.label) : ¬ Atom w :=
  fun hw => hw.label_notMem (hl ▸ hv)

lemma zip_inj {α β : Type} {ks ls : List α} {ys zs : List β} (hk : ks.length = ys.length) (hl : ls.length = zs.length)
    (h : ks.zip ys = ls.zip zs) : ks = ls ∧ ys = zs := by
  have hfst := congrArg (List.map Prod.fst) h
  have hsnd := congrArg (List.map Prod.snd) h
  rw [List.map_fst_zip hk.le, List.map_fst_zip hl.le] at hfst
  rw [List.map_snd_zip hk.ge, List.map_snd_zip hl.ge] at hsnd
  exact ⟨hfst, hsnd⟩

lemma same_of_entries {es fs : List (Value × Value)} {zs : List Json} (he : List.Forall₂ (EntryData follow) es zs)
    (hf : List.Forall₂ (EntryData follow) fs zs)
    (ihk : ∀ e ∈ es, ∀ f ∈ fs, ∀ y, encodeWith follow e.1 = .ok y → encodeWith follow f.1 = .ok y → Same e.1 f.1)
    (ihv : ∀ e ∈ es, ∀ f ∈ fs, ∀ y, encodeWith follow e.2 = .ok y → encodeWith follow f.2 = .ok y → Same e.2 f.2) :
    List.Forall₂ (fun e f => Same e.1 f.1 ∧ Same e.2 f.2) es fs := by
  refine forall₂_common he hf fun e he f hf z hez hfz => ?_
  obtain ⟨a, b, ha, hb, rfl⟩ := hez
  obtain ⟨a', b', ha', hb', hz⟩ := hfz
  simp only [Json.arr.injEq, List.cons.injEq, and_true] at hz
  obtain ⟨rfl, rfl⟩ := hz
  exact ⟨ihk e he f hf a ha ha', ihv e he f hf b hb hb'⟩

lemma same_of_dict {es fs : List (Value × Value)} (hk : ∀ e ∈ es, Value.Basic e.1) (hk' : ∀ f ∈ fs, Value.Basic f.1)
    (h : encodeWith follow (.dict es) = .ok data) (h' : encodeWith follow (.dict fs) = .ok data)
    (ihk : ∀ e ∈ es, ∀ f ∈ fs, ∀ y, encodeWith follow e.1 = .ok y → encodeWith follow f.1 = .ok y → Same e.1 f.1)
    (ihv : ∀ e ∈ es, ∀ f ∈ fs, ∀ y, encodeWith follow e.2 = .ok y → encodeWith follow f.2 = .ok y → Same e.2 f.2) :
    Same (.dict es) (.dict fs) := by
  rcases (encodeWith_dict hk).mp h with ⟨keys, ys, hkeys, ht, -, hys, rfl⟩ | ⟨zs, -, hzs, rfl⟩ <;>
    rcases (encodeWith_dict hk').mp h' with ⟨keys', ys', hkeys', ht', -, hys', hdata⟩ | ⟨zs', -, hzs', hdata⟩
  · have hlen : ∀ {gs : List (Value × Value)} {ks : List String} {us : List Json}, gs.map Prod.fst = ks.map .str →
        List.Forall₂ (fun x y => encodeWith follow x = .ok y) (gs.map Prod.snd) us → ks.length = us.length := by
      intro gs ks us hks hus
      have hfst := congrArg List.length hks
      rw [List.length_map, List.length_map] at hfst
      rw [← hfst, ← hus.length_eq, List.length_map]
    obtain ⟨rfl, rfl⟩ := zip_inj (hlen hkeys hys) (hlen hkeys' hys') (Json.obj.inj hdata)
    have hvalues : List.Forall₂ Same (es.map Prod.snd) (fs.map Prod.snd) := by
      refine forall₂_common hys hys' ?_
      simp only [List.forall_mem_map]
      exact ihv
    have hsame : es.map Prod.fst = fs.map Prod.fst := hkeys.trans hkeys'.symm
    have hl := congrArg List.length hsame
    rw [List.length_map, List.length_map] at hl
    refine .dict hl (fun i e f he hf => ?_) fun i e f he hf => ?_
    · have hi := congrArg (fun ks => ks[i]?) hsame
      simp only [List.getElem?_map, he, hf, Option.map_some, Option.some.injEq] at hi
      rw [hi]
      exact .refl _
    · exact Value.getElem?_of_forall₂ hvalues i e.2 f.2 (by simp [he]) (by simp [hf])
  · have htag := find?_tag ht ys
    rw [Json.obj.inj hdata] at htag
    cases htag
  · have htag := find?_tag ht' ys'
    rw [← Json.obj.inj hdata] at htag
    cases htag
  · obtain rfl : zs = zs' := by simpa [tagged] using hdata
    exact .of_dict (same_of_entries hzs hzs' ihk ihv)

/-- Plain values with the same data are the same. The induction is on the first of them. -/
theorem same_of_data {v w : Value} (hv : Plain v) (hw : Plain w) (h : encodeWith follow v = .ok data)
    (h' : encodeWith follow w = .ok data) : Same v w := by
  induction hv using Plain.induct generalizing w data with
  | atom v hv =>
    have hlabel := (label_data (.atom hv) h).symm.trans (label_data hw h')
    cases hw with
    | atom hw =>
      rw [atom_of_data hv hw h h']
      exact .refl _
    | _ => exact absurd hv (not_atom_of_label (by simp [Value.label, Value.containerLabels]) hlabel.symm)
  | list xs hx ih =>
    have hlabel := (label_data (.list hx) h).symm.trans (label_data hw h')
    cases hw with
    | list hw =>
      obtain ⟨ys, hys, rfl⟩ := encodeWith_list.mp h
      obtain ⟨ys', hys', hdata⟩ := encodeWith_list.mp h'
      obtain rfl := Json.arr.inj hdata
      exact .of_list (forall₂_common hys hys' fun x hx w hm y hy hy' => ih x hx (hw w hm) hy hy')
    | atom hw => exact absurd hw (not_atom_of_label (by simp [Value.label, Value.containerLabels]) hlabel)
    | _ => simp [Value.label] at hlabel
  | tuple xs hx ih =>
    have hlabel := (label_data (.tuple hx) h).symm.trans (label_data hw h')
    cases hw with
    | tuple hw =>
      obtain ⟨ys, hys, rfl⟩ := encodeWith_tuple.mp h
      obtain ⟨ys', hys', hdata⟩ := encodeWith_tuple.mp h'
      obtain rfl : ys = ys' := by simpa [tagged] using hdata
      exact .of_tuple (forall₂_common hys hys' fun x hx w hm y hy hy' => ih x hx (hw w hm) hy hy')
    | atom hw => exact absurd hw (not_atom_of_label (by simp [Value.label, Value.containerLabels]) hlabel)
    | _ => simp [Value.label] at hlabel
  | set xs hx hd ih =>
    have hlabel := (label_data (.set hx hd) h).symm.trans (label_data hw h')
    cases hw with
    | set hw =>
      obtain ⟨us, hus, hp⟩ := same_of_elements (encodeWith_set.mp h) (encodeWith_set.mp h')
        fun x hx w hm y hy hy' => ih x hx (hw w hm).plain hy hy'
      exact .of_set hus hp
    | atom hw => exact absurd hw (not_atom_of_label (by simp [Value.label, Value.containerLabels]) hlabel)
    | _ => simp [Value.label] at hlabel
  | frozenset xs hx hd ih =>
    have hlabel := (label_data (.frozenset hx hd) h).symm.trans (label_data hw h')
    cases hw with
    | frozenset hw =>
      obtain ⟨us, hus, hp⟩ := same_of_elements (encodeWith_frozenset.mp h) (encodeWith_frozenset.mp h')
        fun x hx w hm y hy hy' => ih x hx (hw w hm).plain hy hy'
      exact .of_frozenset hus hp
    | atom hw => exact absurd hw (not_atom_of_label (by simp [Value.label, Value.containerLabels]) hlabel)
    | _ => simp [Value.label] at hlabel
  | dict es hk hd hv ihk ihv =>
    have hlabel := (label_data (.dict hk hd hv) h).symm.trans (label_data hw h')
    cases hw with
    | dict hk' hd' hv' =>
      refine same_of_dict (fun e he => (hk e he).plain.basic) (fun f hf => (hk' f hf).plain.basic) h h' ?_ ?_
      · exact fun e he f hf y hy hy' => ihk e he (hk' f hf).plain hy hy'
      · exact fun e he f hf y hy hy' => ihv e he (hv' f hf) hy hy'
    | atom hw => exact absurd hw (not_atom_of_label (by simp [Value.label, Value.containerLabels]) hlabel)
    | _ => simp [Value.label] at hlabel

end Codec

end CallSnapshot
