import CallSnapshot.Codec.Decode
import CallSnapshot.Proofs.Steps
import CallSnapshot.Proofs.Value.Basic

/-! Elements and entries that are put one after another: distinct ones stay as they come. -/

namespace CallSnapshot

namespace Codec

open Value (Distinct Element)

/-- The elements that stay when all are added to those found. -/
def gather (found xs : List Value) : List Value := xs.foldl (fun found x => addElement x found) found

lemma mem_gather {found xs : List Value} {x : Value} (h : x ∈ gather found xs) :
    x ∈ found ∨ x ∈ xs := by
  induction xs generalizing found with
  | nil => exact .inl h
  | cons y ys ih =>
    rcases ih h with h | h
    · simp only [addElement] at h
      split at h
      · exact .inl h
      · rcases List.mem_append.mp h with h | h
        · exact .inl h
        · exact .inr (by simp_all)
    · exact .inr (.tail _ h)

lemma gather_distinct {found xs : List Value} (h : Distinct (found ++ xs)) :
    gather found xs = found ++ xs := by
  induction xs generalizing found with
  | nil => simp [gather]
  | cons x xs ih =>
    have hx : (found.any fun y => y.eq x) = false := by
      rw [List.any_eq_false]
      intro y hy
      simp [(List.pairwise_append.mp h).2.2 y hy x (.head _)]
    have hadd : addElement x found = found ++ [x] := by simp [addElement, hx]
    rw [gather, List.foldl_cons, hadd, ← gather, ih (by simpa using h)]
    simp

section Entries

variable {k l : Value} {pre post : List (Value × Value)}

lemma putEntry_append (hl : l.eq k = true) (hpre : ∀ e ∈ pre, e.1.eq k = false) (y z : Value) :
    putEntry k z (pre ++ (l, y) :: post) = pre ++ (l, z) :: post := by
  induction pre with
  | nil => simp [putEntry, hl]
  | cons e pre ih =>
    simp only [List.forall_mem_cons] at hpre
    simp [putEntry, hpre.1, ih hpre.2]

lemma putEntry_new (hpre : ∀ e ∈ pre, e.1.eq k = false) (y : Value) :
    putEntry k y pre = pre ++ [(k, y)] := by
  induction pre with
  | nil => rfl
  | cons e pre ih =>
    simp only [List.forall_mem_cons] at hpre
    simp [putEntry, hpre.1, ih hpre.2]

lemma mem_putEntry {y : Value} {e : Value × Value} (h : e ∈ putEntry k y pre) :
    (e.1 = k ∨ e.1 ∈ pre.map Prod.fst) ∧ (e.2 = y ∨ e.2 ∈ pre.map Prod.snd) := by
  induction pre with
  | nil =>
    obtain rfl := List.mem_singleton.mp h
    exact ⟨.inl rfl, .inl rfl⟩
  | cons f pre ih =>
    rw [putEntry] at h
    split at h
    · rcases List.mem_cons.mp h with rfl | h
      · exact ⟨.inr (.head _), .inl rfl⟩
      · exact ⟨.inr (.tail _ (List.mem_map_of_mem h)), .inr (.tail _ (List.mem_map_of_mem h))⟩
    · rcases List.mem_cons.mp h with rfl | h
      · exact ⟨.inr (.head _), .inr (.head _)⟩
      · exact ⟨(ih h).1.imp_right (.tail _), (ih h).2.imp_right (.tail _)⟩

end Entries

/-- The entries that stay when all are put to those found. -/
def gatherEntries (found es : List (Value × Value)) : List (Value × Value) :=
  es.foldl (fun found e => putEntry e.1 e.2 found) found

lemma mem_gatherEntries {found es : List (Value × Value)} {e : Value × Value}
    (h : e ∈ gatherEntries found es) :
    (e.1 ∈ found.map Prod.fst ∨ e.1 ∈ es.map Prod.fst) ∧
      (e.2 ∈ found.map Prod.snd ∨ e.2 ∈ es.map Prod.snd) := by
  induction es generalizing found with
  | nil => exact ⟨.inl (List.mem_map_of_mem h), .inl (List.mem_map_of_mem h)⟩
  | cons f es ih =>
    have put : ∀ x ∈ putEntry f.1 f.2 found, _ := fun x hx => mem_putEntry hx
    obtain ⟨hk, hv⟩ := ih h
    constructor
    · rcases hk with hk | hk
      · obtain ⟨x, hx, hxe⟩ := List.mem_map.mp hk
        rcases (put x hx).1 with h' | h'
        · exact .inr (by simp [← hxe, h'])
        · exact .inl (hxe ▸ h')
      · exact .inr (.tail _ hk)
    · rcases hv with hv | hv
      · obtain ⟨x, hx, hxe⟩ := List.mem_map.mp hv
        rcases (put x hx).2 with h' | h'
        · exact .inr (by simp [← hxe, h'])
        · exact .inl (hxe ▸ h')
      · exact .inr (.tail _ hv)

lemma gatherEntries_distinct {found es : List (Value × Value)}
    (h : Distinct ((found ++ es).map Prod.fst)) : gatherEntries found es = found ++ es := by
  induction es generalizing found with
  | nil => simp [gatherEntries]
  | cons e es ih =>
    have hk : ∀ f ∈ found, f.1.eq e.1 = false := by
      intro f hf
      rw [List.map_append] at h
      exact (List.pairwise_append.mp h).2.2 f.1 (List.mem_map_of_mem hf) e.1 (.head _)
    rw [gatherEntries, List.foldl_cons, putEntry_new hk, ← gatherEntries, ih (by simpa using h)]
    simp

end Codec

end CallSnapshot
