import CallSnapshot.Json.Printer
import CallSnapshot.Proofs.Steps

/-! The data that have a text: those whose integers are not too long. -/

namespace CallSnapshot

namespace Numeral

def Short (n : ℤ) : Prop := n.natAbs < 10 ^ digitLimit

end Numeral

namespace Json

mutual

def Printable : Json → Prop
  | .int n => Numeral.Short n
  | .arr items => PrintableItems items
  | .obj members => PrintableMembers members
  | _ => True

def PrintableItems : List Json → Prop
  | [] => True
  | x :: xs => Printable x ∧ PrintableItems xs

def PrintableMembers : List (String × Json) → Prop
  | [] => True
  | (_, x) :: xs => Printable x ∧ PrintableMembers xs

end

lemma printableItems_iff {items : List Json} : PrintableItems items ↔ ∀ x ∈ items, Printable x := by
  induction items with
  | nil => simp [PrintableItems]
  | cons x xs ih => simp [PrintableItems, ih]

lemma printableMembers_iff {members : List (String × Json)} :
    PrintableMembers members ↔ ∀ m ∈ members, Printable m.2 := by
  induction members with
  | nil => simp [PrintableMembers]
  | cons m ms ih => simp [PrintableMembers, ih]

lemma intChars_eq_ok {n : ℤ} : (∃ cs, intChars n = .ok cs) ↔ Numeral.Short n := by
  have hd : (Nat.repr n.natAbs).toList.length ≤ Numeral.digitLimit ↔ Numeral.Short n := by
    rw [Nat.toList_repr, Nat.length_toDigits_le_iff (by decide) (by decide), Numeral.Short]
  rw [← hd, intChars]
  by_cases h : Numeral.digitLimit < (Nat.repr n.natAbs).toList.length
  · rw [if_pos h]
    exact ⟨nofun, fun h' => absurd h' (not_le.mpr h)⟩
  · rw [if_neg h]
    exact ⟨fun _ => not_lt.mp h, fun _ => ⟨_, rfl⟩⟩

lemma map_eq_ok {ε α β : Type} {f : α → β} {x : Except ε α} :
    (∃ b, x.map f = .ok b) ↔ ∃ a, x = .ok a := by
  cases x with
  | error e => exact ⟨nofun, nofun⟩
  | ok a => exact ⟨fun _ => ⟨a, rfl⟩, fun _ => ⟨f a, rfl⟩⟩

mutual

lemma chars_eq_ok (l : Layout) (depth : ℕ) :
    (data : Json) → ((∃ cs, l.chars depth data = .ok cs) ↔ data.Printable)
  | .null => by simp [Layout.chars, Printable]
  | .bool _ => by simp [Layout.chars, Printable]
  | .int n => by simpa [Layout.chars, Printable] using intChars_eq_ok
  | .float _ => by simp [Layout.chars, Printable]
  | .str _ => by simp [Layout.chars, Printable]
  | .arr items => by
    rw [Printable, ← itemChars_eq_ok l (depth + 1) items]
    simp [Layout.chars, bind_eq_ok]
  | .obj members => by
    rw [Printable, ← memberChars_eq_ok l (depth + 1) members]
    simp [Layout.chars, bind_eq_ok]

lemma itemChars_eq_ok (l : Layout) (depth : ℕ) :
    (items : List Json) → ((∃ cs, l.itemChars depth items = .ok cs) ↔ PrintableItems items)
  | [] => by simp [Layout.itemChars, PrintableItems]
  | x :: xs => by
    rw [PrintableItems, ← chars_eq_ok l depth x, ← itemChars_eq_ok l depth xs]
    simp [Layout.itemChars, bind_eq_ok]

lemma memberChars_eq_ok (l : Layout) (depth : ℕ) :
    (members : List (String × Json)) →
      ((∃ cs, l.memberChars depth members = .ok cs) ↔ PrintableMembers members)
  | [] => by simp [Layout.memberChars, PrintableMembers]
  | (k, x) :: xs => by
    rw [PrintableMembers, ← chars_eq_ok l depth x, ← memberChars_eq_ok l depth xs]
    simp [Layout.memberChars, bind_eq_ok]

end

/-- Integers are all that may have no text. -/
def printFault : Fault := ⟨.value, printLimitText⟩

lemma intChars_eq_error {n : ℤ} {e : Fault} (h : intChars n = .error e) : e = printFault := by
  unfold intChars at h
  dsimp only at h
  split at h <;> cases h
  rfl

mutual

lemma chars_eq_error (l : Layout) (depth : ℕ) {e : Fault} :
    (data : Json) → l.chars depth data = .error e → e = printFault
  | .int _, h => intChars_eq_error h
  | .arr items, h => by
    rcases bind_eq_error.mp h with h | ⟨_, _, h⟩
    · exact itemChars_eq_error l (depth + 1) items h
    · cases h
  | .obj members, h => by
    rcases bind_eq_error.mp h with h | ⟨_, _, h⟩
    · exact memberChars_eq_error l (depth + 1) members h
    · cases h
  | .null, h | .bool _, h | .float _, h | .str _, h => by cases h

lemma itemChars_eq_error (l : Layout) (depth : ℕ) {e : Fault} :
    (items : List Json) → l.itemChars depth items = .error e → e = printFault
  | [], h => by cases h
  | x :: xs, h => by
    rcases bind_eq_error.mp h with h | ⟨_, _, h⟩
    · exact chars_eq_error l depth x h
    · rcases bind_eq_error.mp h with h | ⟨_, _, h⟩
      · exact itemChars_eq_error l depth xs h
      · cases h

lemma memberChars_eq_error (l : Layout) (depth : ℕ) {e : Fault} :
    (members : List (String × Json)) → l.memberChars depth members = .error e → e = printFault
  | [], h => by cases h
  | (_, x) :: xs, h => by
    rcases bind_eq_error.mp h with h | ⟨_, _, h⟩
    · exact chars_eq_error l depth x h
    · rcases bind_eq_error.mp h with h | ⟨_, _, h⟩
      · exact memberChars_eq_error l depth xs h
      · cases h

end

lemma print_eq_error {l : Layout} {data : Json} {e : Fault} (h : print l data = .error e) : e = printFault := by
  unfold print at h
  cases hc : l.chars 0 data with
  | ok cs => rw [hc] at h; cases h
  | error e' =>
    rw [hc] at h
    cases h
    exact chars_eq_error l 0 data hc

lemma chars_of_print {l : Layout} {data : Json} {text : String} (h : print l data = .ok text) :
    l.chars 0 data = .ok text.toList := by
  unfold print at h
  cases hcs : l.chars 0 data with
  | error f =>
    rw [hcs] at h
    cases h
  | ok cs =>
    rw [hcs] at h
    cases h
    rw [String.toList_ofList]

theorem print_eq_ok {l : Layout} {data : Json} : (∃ s, print l data = .ok s) ↔ data.Printable := by
  rw [← chars_eq_ok l 0 data, print, map_eq_ok]

end Json

end CallSnapshot
