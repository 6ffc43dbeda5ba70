import CallSnapshot.Proofs.Value.Plain

/-! Paths read back from their texts. -/

namespace CallSnapshot

namespace Text

variable {mark : Char}

lemma splitAt_absent {p : List Char} (hp : mark ∉ p) : splitAt mark p = [p] := by
  induction p with
  | nil => rfl
  | cons c p ih =>
    simp only [List.mem_cons, not_or] at hp
    simp [splitAt, Ne.symm hp.1, ih hp.2]

lemma splitAt_append {p : List Char} (hp : mark ∉ p) (rest : List Char) :
    splitAt mark (p ++ mark :: rest) = p :: splitAt mark rest := by
  induction p with
  | nil => simp [splitAt]
  | cons c p ih =>
    simp only [List.mem_cons, not_or] at hp
    simp [splitAt, Ne.symm hp.1, ih hp.2]

lemma absent_of_mem_splitAt {cs p : List Char} (h : p ∈ splitAt mark cs) : mark ∉ p := by
  induction cs generalizing p with
  | nil => simp_all [splitAt]
  | cons c cs ih =>
    simp only [splitAt] at h
    split at h
    · rcases List.mem_cons.mp h with rfl | h
      · exact List.not_mem_nil
      · exact ih h
    · rename_i hc
      have hc : mark ≠ c := fun he => hc (by simp [he])
      split at h
      · simp_all
      · rename_i q qs hq
        rw [hq] at ih
        rcases List.mem_cons.mp h with rfl | h
        · simpa [hc] using ih List.mem_cons_self
        · exact ih (List.mem_cons_of_mem _ h)

lemma splitAt_intercalate {ps : List (List Char)} (hne : ps ≠ []) (h : ∀ p ∈ ps, mark ∉ p) :
    splitAt mark ([mark].intercalate ps) = ps := by
  induction ps with
  | nil => exact absurd rfl hne
  | cons p ps ih =>
    simp only [List.forall_mem_cons] at h
    cases ps with
    | nil => simpa using splitAt_absent h.1
    | cons q ps =>
      have hjoin : [mark].intercalate (p :: q :: ps) = p ++ mark :: [mark].intercalate (q :: ps) := by
        simp [List.intercalate]
      rw [hjoin, splitAt_append h.1, ih (by simp) h.2]

end Text

namespace Path

lemma parse_valid (s : String) : (parse s).Valid := by
  intro n hn
  obtain ⟨hm, hne⟩ := List.mem_filter.mp (show n ∈ namesOf s.toList from hn)
  simp only [Bool.and_eq_true, bne_iff_ne] at hne
  refine ⟨hne.1, hne.2, ?_⟩
  obtain ⟨cs, hcs, rfl⟩ := List.mem_map.mp hm
  rw [String.toList_ofList]
  exact Text.absent_of_mem_splitAt hcs

def body (names : List String) : List Char := ['/'].intercalate (names.map String.toList)

lemma namesOf_body {names : List String} (h : ∀ n ∈ names, IsName n) : namesOf (body names) = names := by
  cases names with
  | nil => rfl
  | cons n names =>
    have hsplit : Text.splitAt '/' (body (n :: names)) = (n :: names).map String.toList := by
      refine Text.splitAt_intercalate (by simp) fun p hp => ?_
      obtain ⟨m, hm, rfl⟩ := List.mem_map.mp hp
      exact (h m hm).2.2
    have hback : ((n :: names).map String.toList).map String.ofList = n :: names := by
      rw [List.map_map, List.map_congr_left (g := id), List.map_id]
      intro m _
      exact String.ofList_toList
    rw [namesOf, hsplit, hback, List.filter_eq_self]
    intro m hm
    simp [(h m hm).1, (h m hm).2.1]

lemma namesOf_slash (cs : List Char) : namesOf ('/' :: cs) = namesOf cs := by
  simp [namesOf, Text.splitAt]

lemma takeWhile_body {names : List String} (h : ∀ n ∈ names, IsName n) :
    (body names).takeWhile (· == '/') = [] := by
  cases names with
  | nil => rfl
  | cons n names =>
    obtain ⟨hne, -, hslash⟩ := h n List.mem_cons_self
    have hn : n.toList ≠ [] := by simpa using hne
    obtain ⟨c, cs, hcs⟩ := List.exists_cons_of_ne_nil hn
    have hc : c ≠ '/' := by
      rintro rfl
      simp [hcs] at hslash
    cases names <;> simp [body, List.intercalate, hcs, hc]

theorem parse_text {p : Path} (h : p.Valid) : parse p.text = p := by
  obtain ⟨root, names⟩ := p
  have hbody : (rootText root ++ "/".intercalate names).toList =
      (rootText root).toList ++ body names := by
    simp [String.toList_append, String.toList_intercalate, body]
  have hnames : namesOf (body names) = names := namesOf_body h
  have hhead := takeWhile_body h
  have hparse : ∀ s : String, s.toList = (rootText root).toList ++ body names →
      parse s = ⟨root, names⟩ := by
    intro s hs
    cases root with
    | relative => simp [parse, hs, rootText, rootOf, hhead, hnames]
    | single => simp [parse, hs, rootText, rootOf, hhead, namesOf_slash, hnames]
    | double => simp [parse, hs, rootText, rootOf, hhead, namesOf_slash, hnames]
  rw [text]
  split
  · rename_i hempty
    have hnil : (rootText root).toList ++ body names = [] := by
      rw [← hbody, String.isEmpty_iff.mp hempty]
      rfl
    obtain ⟨hroot, hnil⟩ := List.append_eq_nil_iff.mp hnil
    rw [hnil] at hnames
    obtain rfl : [] = names := hnames
    cases root with
    | relative => rfl
    | single => simp [rootText] at hroot
    | double => simp [rootText] at hroot
  · exact hparse _ hbody

end Path

end CallSnapshot
