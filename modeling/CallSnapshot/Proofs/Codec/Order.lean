import CallSnapshot.Codec.Encode
import CallSnapshot.Proofs.Json.Printable

/-!
Items ordered by their texts are the same items, and where no two of them share a text they come in one
order only.
-/

namespace CallSnapshot.Codec

open Json (Printable)

lemma insertKeyed_perm {α : Type} (item : String × α) (items : List (String × α)) :
    (insertKeyed item items).Perm (item :: items) := by
  induction items with
  | nil => exact .refl _
  | cons x xs ih =>
    rw [insertKeyed]
    split
    · exact .refl _
    · exact (ih.cons x).trans (.swap item x xs)

lemma sortKeyed_perm {α : Type} (items : List (String × α)) : (sortKeyed items).Perm items := by
  suffices h : ∀ sorted : List (String × α),
      (items.foldl (fun sorted item => insertKeyed item sorted) sorted).Perm (items ++ sorted) by
    simpa [sortKeyed] using h []
  induction items with
  | nil => exact fun sorted => .refl _
  | cons x xs ih =>
    intro sorted
    refine (ih _).trans ?_
    exact ((insertKeyed_perm x sorted).append_left xs).trans List.perm_middle

def labelled (x : Json) : String × Json := ((Json.print Json.sortedAscii x).toOption.getD "", x)

lemma keyed_eq_ok {items : List Json} {ks : List (String × Json)} (h : keyed items = .ok ks) :
    ks = items.map labelled ∧ ∀ x ∈ items, Printable x := by
  induction items generalizing ks with
  | nil =>
    cases h
    exact ⟨rfl, nofun⟩
  | cons x xs ih =>
    obtain ⟨t, ht, h⟩ := bind_eq_ok.mp h
    obtain ⟨rest, hr, h⟩ := bind_eq_ok.mp h
    cases h
    obtain ⟨rfl, h₂⟩ := ih hr
    have hlabel : labelled x = (t, x) := by rw [labelled, ht]; rfl
    exact ⟨by rw [List.map_cons, hlabel], List.forall_mem_cons.mpr ⟨Json.print_eq_ok.mp ⟨t, ht⟩, h₂⟩⟩

lemma keyed_eq_error {items : List Json} {e : Fault} (h : keyed items = .error e) : e = Json.printFault := by
  induction items with
  | nil => cases h
  | cons x xs ih =>
    rcases bind_eq_error.mp h with h | ⟨t, -, h⟩
    · exact Json.print_eq_error h
    · rcases bind_eq_error.mp h with h | ⟨rest, -, h⟩
      · exact ih h
      · cases h

lemma exists_keyed {items : List Json} (h : ∀ x ∈ items, Printable x) :
    ∃ ks, keyed items = .ok ks := by
  induction items with
  | nil => exact ⟨[], rfl⟩
  | cons x xs ih =>
    obtain ⟨hx, hxs⟩ := List.forall_mem_cons.mp h
    obtain ⟨t, ht⟩ := (Json.print_eq_ok (l := Json.sortedAscii)).mpr hx
    obtain ⟨ks, hks⟩ := ih hxs
    exact ⟨(t, x) :: ks, by rw [keyed, ht, ok_bind, hks, ok_bind]⟩

lemma sortItems_eq_ok {items sorted : List Json} (h : sortItems items = .ok sorted) :
    sorted.Perm items ∧ ∀ x ∈ items, Printable x := by
  obtain ⟨ks, hk, h⟩ := bind_eq_ok.mp h
  cases h
  obtain ⟨rfl, hp⟩ := keyed_eq_ok hk
  have hperm := (sortKeyed_perm (items.map labelled)).map Prod.snd
  rw [List.map_map] at hperm
  exact ⟨hperm.trans (.of_eq (List.map_id items)), hp⟩

lemma sortItems_eq_error {items : List Json} {e : Fault} (h : sortItems items = .error e) : e = Json.printFault := by
  rcases bind_eq_error.mp h with h | ⟨_, -, h⟩
  · exact keyed_eq_error h
  · cases h

lemma exists_sortItems {items : List Json} (h : ∀ x ∈ items, Printable x) :
    ∃ sorted, sortItems items = .ok sorted := by
  obtain ⟨ks, hks⟩ := exists_keyed h
  exact ⟨_, by rw [sortItems, hks, ok_bind]⟩

lemma insertKeyed_pairwise {α : Type} (item : String × α) {items : List (String × α)}
    (h : items.Pairwise (·.1 ≤ ·.1)) : (insertKeyed item items).Pairwise (·.1 ≤ ·.1) := by
  induction h with
  | nil => exact List.pairwise_singleton _ _
  | @cons x xs hx hxs ih =>
    rw [insertKeyed]
    split
    · rename_i hlt
      refine .cons (fun y hy => ?_) (.cons hx hxs)
      rcases List.mem_cons.mp hy with rfl | hy
      · exact hlt.le
      · exact hlt.le.trans (hx y hy)
    · rename_i hlt
      refine .cons (fun y hy => ?_) ih
      rcases List.mem_cons.mp ((insertKeyed_perm item xs).mem_iff.mp hy) with rfl | hy
      · exact not_lt.mp hlt
      · exact hx y hy

lemma sortKeyed_pairwise {α : Type} (items : List (String × α)) : (sortKeyed items).Pairwise (·.1 ≤ ·.1) := by
  suffices h : ∀ sorted : List (String × α), sorted.Pairwise (·.1 ≤ ·.1) →
      (items.foldl (fun sorted item => insertKeyed item sorted) sorted).Pairwise (·.1 ≤ ·.1) from h [] .nil
  induction items with
  | nil => exact fun sorted h => h
  | cons x xs ih => exact fun sorted h => ih _ (insertKeyed_pairwise x h)

/-- The order in which items come does not matter where no two of them have the same text. -/
theorem sortItems_perm {xs ys : List Json} (hp : xs.Perm ys) (hapart : ∀ x ∈ xs, ∀ y ∈ xs, ∀ t,
    Json.print Json.sortedAscii x = .ok t → Json.print Json.sortedAscii y = .ok t → x = y) :
    sortItems xs = sortItems ys := by
  unfold sortItems
  by_cases hall : ∀ x ∈ xs, Printable x
  · obtain ⟨ks, hk⟩ := exists_keyed hall
    obtain ⟨ls, hl⟩ := exists_keyed fun y hy => hall y (hp.mem_iff.mpr hy)
    rw [hk, hl, ok_bind, ok_bind, (keyed_eq_ok hk).1, (keyed_eq_ok hl).1]
    have hperm : (sortKeyed (xs.map labelled)).Perm (xs.map labelled) := sortKeyed_perm _
    have hperm' : (sortKeyed (ys.map labelled)).Perm (xs.map labelled) :=
      (sortKeyed_perm _).trans (hp.map labelled).symm
    have hsorted : sortKeyed (xs.map labelled) = sortKeyed (ys.map labelled) := by
      refine List.Perm.eq_of_pairwise ?_ (sortKeyed_pairwise _) (sortKeyed_pairwise _) (hperm.trans hperm'.symm)
      intro k l hk hl hkl hlk
      obtain ⟨x, hx, rfl⟩ := List.mem_map.mp (hperm.mem_iff.mp hk)
      obtain ⟨y, hy, rfl⟩ := List.mem_map.mp (hperm'.mem_iff.mp hl)
      obtain ⟨s, hs⟩ := Json.print_eq_ok.mpr (hall x hx)
      obtain ⟨t, ht⟩ := Json.print_eq_ok.mpr (hall y hy)
      have htext : (labelled x).1 = (labelled y).1 := le_antisymm hkl hlk
      rw [labelled, labelled, hs, ht] at htext
      obtain rfl : s = t := htext
      rw [hapart x hx y hy s hs ht]
    rw [hsorted]
  · have fails : ∀ {items : List Json}, (¬∀ x ∈ items, Printable x) → keyed items = .error Json.printFault := by
      intro items hnot
      cases hk : keyed items with
      | ok ks => exact absurd (keyed_eq_ok hk).2 hnot
      | error e => rw [keyed_eq_error hk]
    rw [fails hall, fails fun hall' => hall fun x hx => hall' x (hp.mem_iff.mp hx)]

end CallSnapshot.Codec
