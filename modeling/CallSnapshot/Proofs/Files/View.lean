import CallSnapshot.Files.Tree
import CallSnapshot.Proofs.Files.Path
import CallSnapshot.Proofs.Steps

/-! What is at the places of a tree of files after a change. -/

namespace CallSnapshot

lemma Path.below?_eq_some {dir names rest : List String} :
    Path.below? dir names = some rest ↔ names = dir ++ rest := by
  induction dir generalizing names with
  | nil => simp [Path.below?, eq_comm]
  | cons d ds ih =>
    cases names with
    | nil => simp [Path.below?]
    | cons n ns =>
      rw [Path.below?]
      by_cases h : d = n
      · simp [h, ih]
      · simp [h, Ne.symm h]

namespace Files

lemma isBelow_iff {dir place : Place} : isBelow dir place = true ↔ dir <+: place := by
  rw [isBelow, Option.isSome_iff_exists]
  simp only [Path.below?_eq_some]
  exact ⟨fun ⟨r, h⟩ => ⟨r, h.symm⟩, fun ⟨r, h⟩ => ⟨r, h.symm⟩⟩

variable {fs : Files} {p q dir : Place}

@[simp] lemma get?_nil (fs : Files) : fs.get? [] = some .directory := rfl

lemma get?_of_ne_nil (hq : q ≠ []) :
    fs.get? q = (fs.entries.find? (·.1 == q)).map Prod.snd := by
  rw [get?, if_neg (by simpa using hq)]

lemma find?_putEntry (p q : Place) (e : Entry) (es : List (Place × Entry)) :
    ((putEntry p e es).find? (·.1 == q)).map Prod.snd =
      if q = p then some e else (es.find? (·.1 == q)).map Prod.snd := by
  induction es with
  | nil =>
    by_cases h : q = p
    · simp [putEntry, h]
    · simp [putEntry, h, Ne.symm h]
  | cons x es ih =>
    rw [putEntry]
    by_cases hx : x.1 = p
    · by_cases h : q = p
      · simp [hx, h]
      · simp [hx, h, Ne.symm h]
    · by_cases h : x.1 = q
      · subst h
        simp [hx]
      · simp only [beq_iff_eq, hx, if_false, List.find?_cons, beq_eq_false_iff_ne.mpr h]
        exact ih

lemma get?_put (fs : Files) (hp : p ≠ []) (e : Entry) (q : Place) :
    (fs.put p e).get? q = if q = p then some e else fs.get? q := by
  by_cases hq : q = []
  · simp [hq, hp.symm]
  · rw [get?_of_ne_nil hq, get?_of_ne_nil hq, put, find?_putEntry]

lemma find?_filter {P : Place → Bool} (es : List (Place × Entry)) (q : Place) :
    (es.filter fun x => P x.1).find? (·.1 == q) = if P q then es.find? (·.1 == q) else none := by
  induction es with
  | nil => simp
  | cons x es ih =>
    by_cases hx : x.1 = q
    · subst hx
      by_cases hP : P x.1 = true
      · simp [hP]
      · simp [hP, ih]
    · by_cases hP : P x.1 = true
      · simp only [List.filter_cons, hP, if_true, List.find?_cons, beq_eq_false_iff_ne.mpr hx, ih]
      · rw [List.filter_cons, if_neg hP, ih, List.find?_cons, beq_eq_false_iff_ne.mpr hx]

lemma get?_erase (fs : Files) (hp : p ≠ []) (q : Place) :
    (fs.erase p).get? q = if q = p then none else fs.get? q := by
  by_cases hq : q = []
  · simp [hq, hp.symm]
  · have h := find?_filter (P := fun x => x != p) fs.entries q
    rw [get?_of_ne_nil hq, get?_of_ne_nil hq, erase, h]
    by_cases hqp : q = p <;> simp [hqp]

lemma get?_erase_cases (fs : Files) (p q : Place) :
    (fs.erase p).get? q = fs.get? q ∨ (q = p ∧ (fs.erase p).get? q = none) := by
  by_cases hq : q = []
  · exact .inl (by rw [hq, get?_nil, get?_nil])
  · rw [get?_of_ne_nil hq, get?_of_ne_nil hq, erase, find?_filter (P := fun x => x != p)]
    by_cases hqp : q = p
    · exact .inr ⟨hqp, by simp [hqp]⟩
    · exact .inl (by simp [hqp])

lemma get?_of_erase {e : Entry} (h : (fs.erase p).get? q = some e) : fs.get? q = some e := by
  rcases get?_erase_cases fs p q with heq | ⟨-, hnone⟩
  · rwa [heq] at h
  · rw [hnone] at h
    cases h

lemma read_eq_ok {b : Path} {c : List UInt8} :
    fs.read b = .ok c ↔ ∃ q, fs.placeOf b = .ok q ∧ fs.get? q = some (.file c) := by
  unfold read
  rw [bind_eq_ok]
  refine exists_congr fun q => ?_
  cases fs.get? q with
  | none => simp
  | some e => cases e <;> simp

lemma read_eq_ok_iff {b : Path} {c : List UInt8} : fs.read b = .ok c ↔ fs.entryAt? b = some (.file c) := by
  rw [read_eq_ok, entryAt?]
  cases fs.placeOf b <;> simp

lemma hasEntry_of_read {b : Path} {c : List UInt8} (h : fs.read b = .ok c) : fs.hasEntry b = true := by
  rw [hasEntry, read_eq_ok_iff.mp h]
  rfl

lemma write_eq_ok {gs : Files} {b : Path} {c : List UInt8} : fs.write b c = .ok gs ↔
    ∃ q, fs.placeOf b = .ok q ∧ fs.get? q ≠ some .directory ∧ gs = fs.put q (.file c) := by
  unfold write
  rw [bind_eq_ok]
  refine exists_congr fun q => ?_
  cases fs.get? q with
  | none => simp [eq_comm (a := gs)]
  | some e => cases e <;> simp [eq_comm (a := gs)]

lemma copy_eq_ok {gs : Files} {source target : Path} : fs.copy source target = .ok gs ↔
    ∃ c, fs.read source = .ok c ∧ fs.write target c = .ok gs := by
  unfold copy
  rw [bind_eq_ok]
  refine exists_congr fun c => ?_
  cases fs.read source <;> cases fs.write target c <;> simp [Except.mapError]

lemma remove_eq_ok {gs : Files} {b : Path} : fs.remove b = .ok gs ↔
    ∃ q e, fs.ownPlaceOf b = .ok q ∧ fs.get? q = some e ∧ e ≠ .directory ∧ gs = fs.erase q := by
  unfold remove
  rw [bind_eq_ok]
  refine exists_congr fun q => ?_
  cases fs.get? q with
  | none => simp
  | some e => cases e <;> simp [eq_comm (a := gs)]

lemma removeDirectory_eq_ok {gs : Files} {b : Path} : fs.removeDirectory b = .ok gs ↔
    ∃ q, fs.ownPlaceOf b = .ok q ∧ fs.get? q = some .directory ∧ fs.children q = [] ∧ gs = fs.erase q := by
  unfold removeDirectory
  rw [bind_eq_ok]
  refine exists_congr fun q => ?_
  cases fs.get? q with
  | none => simp
  | some e =>
    cases e with
    | directory => by_cases hempty : fs.children q = [] <;> simp [hempty, eq_comm (a := gs)]
    | _ => simp

lemma get?_eraseTree (fs : Files) (hd : dir ≠ []) (q : Place) :
    (fs.eraseTree dir).get? q = if dir <+: q then none else fs.get? q := by
  by_cases hq : q = []
  · subst hq
    simp [hd]
  · have h := find?_filter (P := fun x => !isBelow dir x) fs.entries q
    rw [get?_of_ne_nil hq, get?_of_ne_nil hq, eraseTree, h]
    by_cases hb : dir <+: q
    · simp [hb, isBelow_iff.mpr hb]
    · have : isBelow dir q = false := by rw [Bool.eq_false_iff, Ne, isBelow_iff]; exact hb
      simp [hb, this]

lemma isSome_get? (hq : q ≠ []) : (fs.get? q).isSome = true ↔ q ∈ fs.entries.map Prod.fst := by
  rw [get?_of_ne_nil hq, Option.isSome_map, List.find?_isSome]
  simp

lemma mem_of_get? {e : Entry} (hq : q ≠ []) (h : fs.get? q = some e) : (q, e) ∈ fs.entries := by
  rw [get?_of_ne_nil hq, Option.map_eq_some_iff] at h
  obtain ⟨⟨p, x⟩, hf, rfl⟩ := h
  have hp := List.find?_some hf
  simp only [beq_iff_eq] at hp
  exact hp ▸ List.mem_of_find?_eq_some hf

lemma mem_children {n : String} : n ∈ fs.children dir ↔ (fs.get? (dir ++ [n])).isSome = true := by
  rw [isSome_get? (by simp)]
  simp only [children, List.mem_filterMap, List.mem_map]
  constructor
  · rintro ⟨⟨p, e⟩, hm, h⟩
    refine ⟨_, hm, ?_⟩
    dsimp only at h ⊢
    split at h
    · cases h
      exact Path.below?_eq_some.mp ‹_›
    · cases h
  · rintro ⟨⟨p, e⟩, hm, rfl⟩
    refine ⟨_, hm, ?_⟩
    simp [Path.below?_eq_some.mpr rfl]

def Proper (n : String) : Prop := Path.IsName n ∧ n ≠ ".."

/-- Each place is kept once, below the root, lies in a directory and has proper names. -/
structure Sound (fs : Files) : Prop where
  nodup : (fs.entries.map Prod.fst).Nodup
  root : [] ∉ fs.entries.map Prod.fst
  closed : ∀ q n, (fs.get? (q ++ [n])).isSome = true → fs.get? q = some .directory
  named : ∀ q, (fs.get? q).isSome = true → ∀ n ∈ q, Proper n

namespace Sound

lemma above (h : Sound fs) {r : Place} (hr : r ≠ []) (hq : (fs.get? (q ++ r)).isSome = true) :
    fs.get? q = some .directory := by
  induction r using List.reverseRecOn with
  | nil => exact absurd rfl hr
  | append_singleton r n ih =>
    rw [← List.append_assoc] at hq
    have hd := h.closed _ _ hq
    by_cases hr : r = []
    · simpa [hr] using hd
    · exact ih hr (by simp [hd])

lemma get?_below_none (h : Sound fs) {r : Place} (hr : r ≠ []) (hq : fs.get? q ≠ some .directory) :
    fs.get? (q ++ r) = none := by
  rw [← Option.not_isSome_iff_eq_none]
  exact fun hs => hq (h.above hr hs)

lemma entry_iff (h : Sound fs) (hq : q ≠ []) {e : Entry} : fs.get? q = some e ↔ (q, e) ∈ fs.entries := by
  refine ⟨mem_of_get? hq, fun hm => ?_⟩
  rw [get?_of_ne_nil hq, Option.map_eq_some_iff]
  cases hf : fs.entries.find? (·.1 == q) with
  | none => exact absurd (List.find?_eq_none.mp hf _ hm) (by simp)
  | some x =>
    refine ⟨x, rfl, ?_⟩
    have hp := List.find?_some hf
    simp only [beq_iff_eq] at hp
    have := List.inj_on_of_nodup_map h.nodup (List.mem_of_find?_eq_some hf) hm hp
    rw [this]

end Sound

lemma putEntry_map (p : Place) (e : Entry) (es : List (Place × Entry)) :
    (putEntry p e es).map Prod.fst =
      if p ∈ es.map Prod.fst then es.map Prod.fst else es.map Prod.fst ++ [p] := by
  induction es with
  | nil => simp [putEntry]
  | cons x es ih =>
    rw [putEntry]
    by_cases hx : x.1 = p
    · simp [hx]
    · simp only [beq_iff_eq, hx, if_false, List.map_cons, ih, List.mem_cons, Ne.symm hx, false_or]
      split <;> simp

lemma Sound.put (h : Sound fs) {n : String} (hn : Proper n) (hd : fs.get? dir = some .directory)
    {e : Entry} (he : e = .directory ∨ fs.get? (dir ++ [n]) ≠ some .directory) :
    Sound (fs.put (dir ++ [n]) e) := by
  have hget := fun q => get?_put fs (p := dir ++ [n]) (by simp) e q
  refine ⟨?_, ?_, fun q m hs => ?_, fun q hs m hm => ?_⟩
  · simp only [Files.put, putEntry_map]
    split
    · exact h.nodup
    · rename_i hm
      refine List.nodup_append.mpr ⟨h.nodup, List.nodup_singleton _, ?_⟩
      rintro a ha b hb rfl
      exact hm (List.mem_singleton.mp hb ▸ ha)
  · simp only [Files.put, putEntry_map]
    split
    · exact h.root
    · simpa using h.root
  · rw [hget] at hs ⊢
    have hdir : fs.get? q = some .directory := by
      split at hs
      · rename_i heq
        obtain ⟨rfl, -⟩ := List.append_inj' heq rfl
        exact hd
      · exact h.closed q m hs
    split
    · rename_i heq
      rcases he with rfl | he
      · rfl
      · exact absurd (heq ▸ hdir) he
    · exact hdir
  · rw [hget] at hs
    split at hs
    · rename_i heq
      subst heq
      rcases List.mem_append.mp hm with hm | hm
      · exact h.named dir (by simp [hd]) m hm
      · rw [List.mem_singleton.mp hm]
        exact hn
    · exact h.named q hs m hm

lemma Sound.erase (h : Sound fs) (hp : p ≠ []) (hb : ∀ n, fs.get? (p ++ [n]) = none) :
    Sound (fs.erase p) := by
  have hget := fun q => get?_erase fs hp q
  refine ⟨h.nodup.sublist (List.filter_sublist.map _),
    fun hm => h.root ((List.filter_sublist.map _).subset hm), fun q m hs => ?_, fun q hs m hm => ?_⟩
  · rw [hget] at hs ⊢
    split at hs
    · cases hs
    · rw [if_neg, h.closed q m hs]
      rintro rfl
      rw [hb] at hs
      cases hs
  · rw [hget] at hs
    split at hs
    · cases hs
    · exact h.named q hs m hm

lemma Sound.eraseTree (h : Sound fs) (hd : dir ≠ []) : Sound (fs.eraseTree dir) := by
  have hget := fun q => get?_eraseTree fs hd q
  refine ⟨h.nodup.sublist (List.filter_sublist.map _),
    fun hm => h.root ((List.filter_sublist.map _).subset hm), fun q m hs => ?_, fun q hs m hm => ?_⟩
  · rw [hget] at hs ⊢
    split at hs
    · cases hs
    · rename_i hq
      rw [if_neg, h.closed q m hs]
      exact fun hp => hq (hp.trans (List.prefix_append q [m]))
  · rw [hget] at hs
    split at hs
    · cases hs
    · exact h.named q hs m hm

end Files

end CallSnapshot
