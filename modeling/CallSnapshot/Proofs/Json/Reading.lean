import CallSnapshot.Proofs.Codec.Wellformed
import CallSnapshot.Proofs.Number.Reading

/-! Data that are read from a text: no key comes twice, and numbers are of the format. -/

namespace CallSnapshot.Json

/-- A property that data read from a text have if their parts do. -/
structure Kept (P : Json → Prop) : Prop where
  str (s : String) : P (.str s)
  word : ∀ w ∈ words, P w.2
  number {cs rest : List Char} {data : Json} : readNumber cs = .ok (data, rest) → P data
  arr {items : List Json} : (∀ x ∈ items, P x) → P (.arr items)
  obj {members : List (String × Json)} : (∀ m ∈ members, P m.2) → P (.obj (merge members))

/-- Values, items and members that are read with so much fuel have the property. -/
structure Reads (P : Json → Prop) (fuel : ℕ) : Prop where
  value : ∀ cs data rest, readValue fuel cs = .ok (data, rest) → P data
  items : ∀ cs xs rest, readItems fuel cs = .ok (xs, rest) → ∀ x ∈ xs, P x
  members : ∀ cs ms rest, readMembers fuel cs = .ok (ms, rest) → ∀ m ∈ ms, P m.2

section Kept

variable {P : Json → Prop} (hP : Kept P)

include hP

lemma Kept.readWord? {cs rest : List Char} {data : Json} (h : readWord? cs = some (data, rest)) : P data := by
  obtain ⟨⟨w, v⟩, hmem, hw⟩ := List.exists_of_findSome?_eq_some h
  obtain ⟨r, -, hr⟩ := Option.map_eq_some_iff.mp hw
  cases hr
  exact hP.word _ hmem

lemma Kept.value_step {fuel : ℕ} (ih : Reads P fuel) {cs rest : List Char} {data : Json}
    (h : readValue (fuel + 1) cs = .ok (data, rest)) : P data := by
  unfold readValue at h
  split at h
  · cases h
  · obtain ⟨⟨s, r⟩, -, h⟩ := bind_eq_ok.mp h
    cases h
    exact hP.str s
  · split at h
    · cases h
      exact hP.arr (by simp)
    · obtain ⟨⟨xs, r⟩, hxs, h⟩ := bind_eq_ok.mp h
      cases h
      exact hP.arr (ih.items _ _ _ hxs)
  · split at h
    · cases h
      change P (.obj (merge []))
      exact hP.obj (by simp)
    · obtain ⟨⟨ms, r⟩, hms, h⟩ := bind_eq_ok.mp h
      cases h
      exact hP.obj (ih.members _ _ _ hms)
  · split at h
    · rename_i hword
      cases h
      exact hP.readWord? hword
    · exact hP.number h

omit hP in
lemma items_step {fuel : ℕ} (ih : Reads P fuel) {cs rest : List Char} {items : List Json}
    (h : readItems (fuel + 1) cs = .ok (items, rest)) : ∀ x ∈ items, P x := by
  unfold readItems at h
  obtain ⟨⟨x, r⟩, hx, h⟩ := bind_eq_ok.mp h
  have hx := ih.value _ _ _ hx
  dsimp only at h
  split at h
  · cases h
    simpa using hx
  · obtain ⟨⟨ys, r'⟩, hys, h⟩ := bind_eq_ok.mp h
    cases h
    exact List.forall_mem_cons.mpr ⟨hx, ih.items _ _ _ hys⟩
  · cases h

omit hP in
lemma members_step {fuel : ℕ} (ih : Reads P fuel) {cs rest : List Char} {members : List (String × Json)}
    (h : readMembers (fuel + 1) cs = .ok (members, rest)) : ∀ m ∈ members, P m.2 := by
  unfold readMembers at h
  split at h
  · obtain ⟨⟨key, r⟩, -, h⟩ := bind_eq_ok.mp h
    dsimp only at h
    split at h
    · obtain ⟨⟨x, r'⟩, hx, h⟩ := bind_eq_ok.mp h
      have hx := ih.value _ _ _ hx
      dsimp only at h
      split at h
      · cases h
        simpa using hx
      · obtain ⟨⟨ys, r''⟩, hys, h⟩ := bind_eq_ok.mp h
        cases h
        exact List.forall_mem_cons.mpr ⟨hx, ih.members _ _ _ hys⟩
      · cases h
    · cases h
  · cases h

lemma Kept.reads (fuel : ℕ) : Reads P fuel := by
  induction fuel with
  | zero => exact ⟨nofun, nofun, nofun⟩
  | succ fuel ih =>
    exact ⟨fun _ _ _ => hP.value_step ih, fun _ _ _ => items_step ih, fun _ _ _ => members_step ih⟩

lemma Kept.parse {text : String} {data : Json} (h : parse text = .ok data) : P data := by
  have htext : readText text.toList = .ok data := by
    rw [Json.parse] at h
    cases hr : readText text.toList with
    | error e => rw [hr] at h; cases h
    | ok v => rw [hr] at h; cases h; rfl
  unfold readText at htext
  split at htext
  · cases htext
  · obtain ⟨⟨v, rest⟩, hv, htext⟩ := bind_eq_ok.mp htext
    dsimp only at htext
    split at htext
    · cases htext
      exact (hP.reads _).value _ _ _ hv
    · cases htext

end Kept

lemma mem_of_mem_merge {m : String × Json} {members : List (String × Json)} (h : m ∈ merge members) :
    m ∈ members := ((foldl_put members [] List.nodup_nil).2 m h).resolve_left List.not_mem_nil

lemma kept_faithful : Kept Faithful where
  str _ := trivial
  word := by
    simp only [words, List.forall_mem_cons, List.not_mem_nil, IsEmpty.forall_iff, implies_true]
    exact ⟨trivial, trivial, trivial, trivial, trivial, trivial, trivial⟩
  number {cs rest data} h := by
    unfold readNumber at h
    split at h
    dsimp only at h
    split at h
    · cases h
    · split at h
      · split at h
        · cases h
        · cases h
          trivial
      · cases h
        exact Numeral.scale_valid _ _ _
  arr := faithful_arr.mpr
  obj {members} h :=
    faithful_obj.mpr ⟨(foldl_put members [] List.nodup_nil).1, fun m hm => h m (mem_of_mem_merge hm)⟩

/-- Whatever a text holds, the data that are read from it could be written in full. -/
theorem parse_faithful {text : String} {data : Json} (h : parse text = .ok data) : data.Faithful :=
  kept_faithful.parse h

lemma wholePart_digits {cs ds rest : List Char} (h : wholePart cs = some (ds, rest)) : Text.Digits ds := by
  unfold wholePart at h
  split at h
  · cases h
    simp [Text.Digits]
  · split at h
    · rename_i hc
      cases h
      refine List.forall_mem_cons.mpr ⟨hc, fun d hd => ?_⟩
      exact List.mem_takeWhile_imp hd
    · cases h
  · cases h

lemma digitsValue_lt {cs : List Char} (h : Text.Digits cs) : digitsValue cs < 10 ^ cs.length := by
  have hlt : ∀ d ∈ cs.map fun c => c.toNat - '0'.toNat, d < 10 := by
    rw [List.forall_mem_map]
    exact fun c hc => Text.forall_isDigit (P := fun c => c.toNat - '0'.toNat < 10) (by decide) (h c hc)
  simpa [digitsValue, Numeral.ofDigits] using Numeral.foldl_digits_lt hlt 0

lemma kept_printable : Kept Printable where
  str _ := trivial
  word := by
    simp only [words, List.forall_mem_cons, List.not_mem_nil, IsEmpty.forall_iff, implies_true]
    exact ⟨trivial, trivial, trivial, trivial, trivial, trivial, trivial⟩
  number {cs rest data} h := by
    unfold readNumber at h
    split at h
    rename_i negative body _
    dsimp only at h
    split at h
    · cases h
    · rename_i whole rest hwhole
      split at h
      · split at h
        · cases h
        · rename_i hlimit
          cases h
          have hlt := (digitsValue_lt (wholePart_digits hwhole)).trans_le
            (Nat.pow_le_pow_right (by decide) (not_lt.mp hlimit))
          change Numeral.Short _
          cases negative <;> simpa [Numeral.Short] using hlt
      · cases h
        trivial
  arr h := printableItems_iff.mpr h
  obj h := printableMembers_iff.mpr fun m hm => h m (mem_of_mem_merge hm)

/-- No text holds an integer that is too long to be written. -/
theorem parse_printable {text : String} {data : Json} (h : parse text = .ok data) : data.Printable :=
  kept_printable.parse h

end CallSnapshot.Json
