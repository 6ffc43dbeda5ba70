import CallSnapshot.Text.Digit
import CallSnapshot.Text.Utf8
import Mathlib

/-! Lines of a text: where no line holds a line end of its own, they are found again as they were. -/

namespace CallSnapshot.Text

/-- No character ends a line. -/
def Unbroken (cs : List Char) : Prop := ∀ c ∈ cs, c ≠ '\n' ∧ c ≠ '\r'

lemma Unbroken.append {cs ds : List Char} (hc : Unbroken cs) (hd : Unbroken ds) : Unbroken (cs ++ ds) := by
  intro c h
  rcases List.mem_append.mp h with h | h
  · exact hc c h
  · exact hd c h

lemma Unbroken.cons {c : Char} {cs : List Char} (h : c ≠ '\n' ∧ c ≠ '\r') (hcs : Unbroken cs) :
    Unbroken (c :: cs) := by
  intro d hd
  rcases List.mem_cons.mp hd with rfl | hd
  · exact h
  · exact hcs d hd

def joinLines (ls : List (List Char)) : List Char := ls.flatMap (· ++ ['\n'])

lemma unifyLineEnds_cons {c : Char} (hc : c ≠ '\r') (cs : List Char) :
    unifyLineEnds (c :: cs) = c :: unifyLineEnds cs := by
  rw [unifyLineEnds]
  · exact fun _ h _ => hc h
  · exact hc

lemma unifyLineEnds_append {cs : List Char} (h : '\r' ∉ cs) (ds : List Char) :
    unifyLineEnds (cs ++ ds) = cs ++ unifyLineEnds ds := by
  induction cs with
  | nil => rfl
  | cons c cs ih =>
    obtain ⟨hc, hcs⟩ := not_or.mp (mt List.mem_cons.mpr h)
    rw [List.cons_append, unifyLineEnds_cons (Ne.symm hc), ih hcs, List.cons_append]

lemma unifyLineEnds_eq {cs : List Char} (h : '\r' ∉ cs) : unifyLineEnds cs = cs := by
  have := unifyLineEnds_append h []
  rwa [List.append_nil, unifyLineEnds, List.append_nil] at this

lemma splitLines_line {l : List Char} (h : '\n' ∉ l) (rest : List Char) :
    splitLines (l ++ '\n' :: rest) = (l ++ ['\n']) :: splitLines rest := by
  induction l with
  | nil => simp [splitLines]
  | cons c l ih =>
    have hc : c ≠ '\n' := fun he => h (he ▸ List.mem_cons_self)
    have hl : '\n' ∉ l := fun hm => h (List.mem_cons_of_mem c hm)
    simp [splitLines, hc, ih hl]

lemma splitLines_joinLines {ls : List (List Char)} (h : ∀ l ∈ ls, Unbroken l) :
    splitLines (unifyLineEnds (joinLines ls)) = ls.map (· ++ ['\n']) := by
  have hreturn : '\r' ∉ joinLines ls := by
    intro hm
    obtain ⟨l, hl, hm⟩ := List.mem_flatMap.mp hm
    rcases List.mem_append.mp hm with hm | hm
    · exact (h l hl _ hm).2 rfl
    · simp at hm
  rw [unifyLineEnds_eq hreturn]
  clear hreturn
  induction ls with
  | nil => rfl
  | cons l ls ih =>
    have hl : '\n' ∉ l := fun hm => (h l List.mem_cons_self _ hm).1 rfl
    have hcons : joinLines (l :: ls) = l ++ '\n' :: joinLines ls := by simp [joinLines]
    rw [hcons, splitLines_line hl, ih fun l' hl' => h l' (List.mem_cons_of_mem _ hl')]
    rfl

lemma trimChars_append_blank {ds : List Char} (h : ∀ c ∈ ds, isBlank c) (cs : List Char) :
    trimChars (cs ++ ds) = trimChars cs := by
  have hright : ∀ es, trimRight (es ++ ds) = trimRight es := by
    intro es
    rw [trimRight, trimRight, List.reverse_append, List.dropWhile_append,
      List.dropWhile_eq_nil_iff.mpr fun c hc => h c (List.mem_reverse.mp hc)]
    rfl
  unfold trimChars trimLeft
  rw [List.dropWhile_append]
  split
  · rename_i hnil
    rw [List.isEmpty_iff.mp hnil, List.dropWhile_eq_nil_iff.mpr h]
  · exact hright _

lemma trimChars_line (l : List Char) : trimChars (l ++ ['\n']) = trimChars l :=
  trimChars_append_blank (by simp [isBlank]) l

end CallSnapshot.Text
