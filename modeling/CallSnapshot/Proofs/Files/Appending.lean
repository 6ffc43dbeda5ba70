import CallSnapshot.Proofs.Files.Operations

/-!
A file to which something is added: paths lead where they did, and it is read with the addition. A file that
is made anew: its path leads to it, and what was written last is read from it.
-/

namespace CallSnapshot.Files

variable {fs gs : Files} {p : Path} {q : Place} {bs : List UInt8}

/-- The same directories and links, and files at the same places. -/
def Alike (fs gs : Files) : Prop :=
  ∀ q, gs.get? q = fs.get? q ∨ ∃ b c, fs.get? q = some (.file b) ∧ gs.get? q = some (.file c)

lemma Alike.walk_eq (h : Alike fs gs) (last : Bool) (links fuel : ℕ) (dir : Place) (names : List String) :
    walk gs last links fuel dir names = walk fs last links fuel dir names := by
  induction fuel generalizing links dir names with
  | zero => rfl
  | succ fuel ih =>
    cases names with
    | nil => rfl
    | cons n rest =>
      simp only [walk]
      split
      · exact ih _ _ _
      · rcases h (dir ++ [n]) with heq | ⟨b, c, hb, hc⟩
        · rw [heq]
          split
          · rfl
          · exact ih _ _ _
          · rfl
          · split
            · rfl
            · cases links with
              | zero => rfl
              | succ links => exact ih _ _ _
        · rw [hb, hc]

lemma linkLength_putEntry {c : List UInt8} {es : List (Place × Entry)}
    (h : (es.find? (·.1 == q)).map Prod.snd = some (.file bs)) :
    (putEntry q (.file c) es).map linkLength = es.map linkLength := by
  induction es with
  | nil => cases h
  | cons x es ih =>
    unfold putEntry
    by_cases hx : x.1 = q
    · have hfile : x.2 = .file bs := by simpa [List.find?_cons, hx] using h
      simp [hx, linkLength, hfile]
    · rw [if_neg (by simpa using hx), List.map_cons, List.map_cons, ih]
      rwa [List.find?_cons_of_neg (by simpa using hx)] at h

lemma ne_nil_of_file (h : fs.get? q = some (.file bs)) : q ≠ [] := by
  rintro rfl
  cases h

lemma placeOf_put_file (h : fs.get? q = some (.file bs)) (c : List UInt8) (p : Path) :
    (fs.put q (.file c)).placeOf p = fs.placeOf p := by
  have hq := ne_nil_of_file h
  have halike : Alike fs (fs.put q (.file c)) := by
    intro r
    rw [get?_put fs hq]
    split
    · rename_i hr
      exact .inr ⟨bs, c, hr ▸ h, rfl⟩
    · exact .inl rfl
  have hlimit : stepLimit (fs.put q (.file c)) p.names = stepLimit fs p.names := by
    rw [get?_of_ne_nil hq] at h
    have := linkLength_putEntry (c := c) h
    simp only [stepLimit]
    congr 3
  unfold placeOf
  rw [hlimit, halike.walk_eq]
  rfl

lemma append_read (h : fs.read p = .ok bs) (c : List UInt8) :
    ∃ gs, fs.append p c = .ok gs ∧ gs.read p = .ok (bs ++ c) := by
  obtain ⟨q, hp, hq⟩ := read_eq_ok.mp h
  refine ⟨fs.put q (.file (bs ++ c)), by simp [append, hp, hq, bind, Except.bind], ?_⟩
  refine read_eq_ok.mpr ⟨q, (placeOf_put_file hq _ p).trans hp, ?_⟩
  rw [get?_put fs (ne_nil_of_file hq), if_pos rfl]

def Vacant (fs : Files) (q : Place) : Prop := ∀ e, fs.get? q = some e → ∃ bs, e = .file bs

lemma Vacant.ne_nil (h : Vacant fs q) : q ≠ [] := by
  rintro rfl
  obtain ⟨bs, hbs⟩ := h _ rfl
  cases hbs

end CallSnapshot.Files
