import CallSnapshot.Proofs.Codec.Unfolding

/-!
Objects at other places. The data of a value do not depend on where in a heap its objects lie, so two
heaps can stand in one without touching each other.
-/

namespace CallSnapshot

/-- A value whose links lead to other places. -/
def Value.relocate (place : ℕ → ℕ) (v : Value) : Value := v.graft fun a => .link (place a)

namespace Heap

/-- The objects of a heap lie in another one, at places of their own. -/
structure Embeds (place : ℕ → ℕ) (heap whole : Heap) : Prop where
  injective : Function.Injective place
  objects : ∀ a, whole[place a]? = (heap[a]?).map (·.relocate place)

/-- A heap and another one behind it, as one. Links that lead nowhere do so still. -/
def besides (first second : Heap) (a : ℕ) : ℕ := if a < first.length then a else second.length + a

def behind (first : Heap) (a : ℕ) : ℕ := first.length + a

def beside (first second : Heap) : Heap :=
  first.map (·.relocate (first.besides second)) ++ second.map (·.relocate first.behind)

lemma Embeds.length_le {place : ℕ → ℕ} {heap whole : Heap} (h : Embeds place heap whole) :
    heap.length ≤ whole.length := by
  have hmaps : ∀ a ∈ Finset.range heap.length, place a ∈ Finset.range whole.length := by
    intro a ha
    have hobject := h.objects a
    rw [List.getElem?_eq_getElem (Finset.mem_range.mp ha)] at hobject
    exact Finset.mem_range.mpr (List.getElem?_eq_some_iff.mp hobject).1
  simpa using Finset.card_le_card_of_injOn place hmaps h.injective.injOn

variable {first second : Heap}

lemma embeds_besides : Embeds (first.besides second) first (first.beside second) where
  injective a b h := by
    unfold besides at h
    split at h <;> split at h <;> omega
  objects a := by
    by_cases ha : a < first.length
    · have hplace : first.besides second a = a := if_pos ha
      rw [beside, hplace, List.getElem?_append_left (by simpa using ha), List.getElem?_map]
    · have hplace : first.besides second a = second.length + a := if_neg ha
      rw [beside, hplace, List.getElem?_eq_none (by simp; omega), List.getElem?_eq_none (by omega)]
      rfl

lemma embeds_behind : Embeds first.behind second (first.beside second) where
  injective a b h := Nat.add_left_cancel h
  objects a := by
    have hplace : a = first.behind a - (first.map (·.relocate (first.besides second))).length := by
      rw [List.length_map, behind, Nat.add_sub_cancel_left]
    rw [beside, List.getElem?_append_right (by simp [behind]), ← hplace, List.getElem?_map]

end Heap

namespace Codec

open Value Heap

variable {place : ℕ → ℕ} {heap whole : Heap}

lemma encodeWith_relocate {f : ℕ → Except Fault Json} (v : Value) :
    encodeWith f (v.relocate place) = encodeWith (fun a => f (place a)) v := by
  have hmute : ∀ a, (Value.link (place a)).Mute := fun _ => ⟨rfl, nofun⟩
  rw [relocate, encodeWith_graft hmute]
  simp only [encodeWith]

lemma encodeLink_relocate (h : Embeds place heap whole) {fuel fuel' : ℕ} {trail : List ℕ}
    (hf : (beyond heap trail).card < fuel) (hf' : (beyond heap trail).card < fuel') (a : ℕ) :
    encodeLink whole fuel' (trail.map place) (place a) = encodeLink heap fuel trail a := by
  -- Both ways meet the same objects, so the fuel of each lasts for them.
  induction fuel generalizing fuel' trail a with
  | zero => exact absurd hf (Nat.not_lt_zero _)
  | succ fuel ih =>
    obtain ⟨fuel', rfl⟩ := Nat.exists_eq_add_one_of_ne_zero (Nat.ne_of_gt (Nat.zero_lt_of_lt hf'))
    rw [encodeLink, encodeLink, h.objects]
    by_cases ha : a ∈ trail
    · rw [if_pos (by simpa using ⟨a, ha, rfl⟩), if_pos (by simpa using ha)]
    · have ha' : place a ∉ trail.map place := fun hmem => by
        obtain ⟨b, hb, hplace⟩ := List.mem_map.mp hmem
        exact ha (h.injective hplace ▸ hb)
      rw [if_neg (by simpa using ha'), if_neg (by simpa using ha)]
      cases hv : heap[a]? with
      | none => rfl
      | some v =>
        have hlt := card_beyond_cons ha hv
        have hfuel : (beyond heap (a :: trail)).card < fuel := by omega
        have hfuel' : (beyond heap (a :: trail)).card < fuel' := by omega
        have hlinks : (fun b => encodeLink whole fuel' (place a :: trail.map place) (place b)) =
            encodeLink heap fuel (a :: trail) :=
          funext fun b => ih hfuel hfuel' b
        change encodeWith (encodeLink whole fuel' (place a :: trail.map place)) (v.relocate place) = _
        rw [encodeWith_relocate, hlinks]

/-- The data of a value are the same wherever its objects lie. -/
theorem encode_relocate (h : Embeds place heap whole) (v : Value) :
    encode whole (v.relocate place) = encode heap v := by
  have hlength := h.length_le
  have hcard : (beyond heap []).card = heap.length := by simp [beyond]
  have hfuel : (beyond heap []).card < heap.length + 1 := by omega
  have hfuel' : (beyond heap []).card < whole.length + 1 := by omega
  rw [encode, encode, encodeWith_relocate]
  congr 1
  exact funext (encodeLink_relocate h hfuel hfuel')

end Codec

end CallSnapshot
