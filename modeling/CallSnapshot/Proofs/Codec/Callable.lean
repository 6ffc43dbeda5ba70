import CallSnapshot.Proofs.Codec.Decoding
import CallSnapshot.Proofs.Codec.Steady
import CallSnapshot.Text.Replace

/-!
Classes and functions, which are written by their names alone. Looked up again, a name leads to whatever
object lies under it by then, so that a function comes back as itself where its name still leads to it.
-/

namespace CallSnapshot.Codec

open Noting

/-- Classes and functions, with their names. -/
inductive Named : Value → Qualified → Prop
  | type (q : Qualified) : Named (.type q) q
  | function (q : Qualified) : Named (.function q) q

def callableData (q : Qualified) : Json := tagged "callable" [("name", .str q.text)]

def missingCallable (q : Qualified) : Value :=
  .dict [(.str classKey, .str "builtins:function"), (.str "name", .str q.text)]

/-- Modules and the objects in them, each of which is shown as some value. -/
structure Namespaces (Object : Type) where
  load : (module : String) → Except Fault Object
  member : Object → (name : String) → Except Fault Object
  value : Object → Value

namespace Namespaces

variable {Object : Type} (n : Namespaces Object)

def walk (module path : String) : Except Fault Object := do
  let parts := (Text.splitAt '.' path.toList).map String.ofList
  parts.foldlM n.member (← n.load module)

/-- An object lies under a name. Local names lead nowhere, and nothing is no object. -/
def Finds (q : Qualified) (o : Object) : Prop :=
  ∃ module path, splitName q.text = some (module, path) ∧ n.walk module path = .ok o ∧ n.value o ≠ .null

/-- A library gives what lies in the modules, under whatever name. -/
def Fills (lib : Library) : Prop :=
  ∀ module path, lib.resolve module path = (n.walk module path).map n.value

variable {n}

lemma Finds.unique {q : Qualified} {o p : Object} (ho : n.Finds q o) (hp : n.Finds q p) : o = p := by
  obtain ⟨_, _, hname, hwalk, -⟩ := ho
  obtain ⟨_, _, hname', hwalk', -⟩ := hp
  cases hname.symm.trans hname'
  exact Except.ok.inj (hwalk.symm.trans hwalk')

end Namespaces

variable {lib : Library} {q : Qualified}

lemma encode_named {c : Value} (heap : Heap) (h : Named c q) : encode heap c = .ok (callableData q) := by
  cases h <;> rfl

lemma decode_callableData (mode : Mode) (q : Qualified) : decode mode (callableData q) =
    decodeCallable mode [(tagKey, .str "callable"), ("name", .str q.text)] := by
  obtain ⟨fuel, hfuel⟩ := Nat.exists_eq_succ_of_ne_zero (size_pos (callableData q)).ne'
  rw [decode, hfuel, decodeTo]
  rfl

lemma start_callableData {found : Option Value} (h : (lib.find q.text).start.1 = .ok found) :
    (decode (some lib) (callableData q)).start.1 = .ok (found.getD (missingCallable q)) := by
  have hdecode : decode (some lib) (callableData q) =
      lib.find q.text >>= fun o => pure (o.getD (missingCallable q)) := decode_callableData (some lib) q
  rw [hdecode, (closed_find closed_steady lib q.text).start_bind fun _ => steady_pure _, h]
  rfl

section Looking

variable {Object : Type} {n : Namespaces Object}

lemma find_of_finds (hn : n.Fills lib) {o : Object} (h : n.Finds q o) :
    (lib.find q.text).start.1 = .ok (some (n.value o)) := by
  obtain ⟨module, path, hname, hwalk, hnull⟩ := h
  have hresolve : lib.resolve module path = .ok (n.value o) := by rw [hn, hwalk]; rfl
  simp only [Library.find, hname, hresolve]
  rfl

lemma find_of_not_finds (hn : n.Fills lib) (h : ∀ o, ¬ n.Finds q o) :
    (lib.find q.text).start.1 = .ok none := by
  unfold Library.find
  split
  · rfl
  · rename_i module path hname
    split
    · rfl
    · rename_i v hnull hresolve
      rw [hn] at hresolve
      cases hwalk : n.walk module path with
      | error f => simp [hwalk, Except.map] at hresolve
      | ok o =>
        have hv : n.value o = v := by simpa [hwalk, Except.map] using hresolve
        exact absurd ⟨module, path, hname, hwalk, hv ▸ fun hv => hnull (hv ▸ rfl)⟩ (h o)
    · rfl

end Looking

variable {Object : Type} {n : Namespaces Object}

/-- A class or a function is written by its name, and its name is all that is read again: what comes back
is the object that lies under the name by then, or a mark that nothing does. So it is the class or the
function itself or such a mark exactly if no other object lies under its name. -/
theorem callables_rebuilt (heap : Heap) (hn : n.Fills lib) {c : Object} (hc : Named (n.value c) q) :
    encode heap (n.value c) = .ok (callableData q) ∧
      (decode none (callableData q)).start.1 = .ok (missingCallable q) ∧
      ∃ found : Option Object, (∀ o, found = some o ↔ n.Finds q o) ∧
        (decode (some lib) (callableData q)).start.1 = .ok (found.elim (missingCallable q) n.value) ∧
        (found = some c ∨ found = none ↔ ∀ o, n.Finds q o → o = c) := by
  refine ⟨encode_named heap hc, by rw [decode_callableData]; rfl, ?_⟩
  by_cases h : ∃ o, n.Finds q o
  · obtain ⟨o, ho⟩ := h
    have hfound : ∀ p, some o = some p ↔ n.Finds q p := fun p =>
      ⟨fun hp => Option.some.inj hp ▸ ho, fun hp => congrArg some (ho.unique hp)⟩
    refine ⟨some o, hfound, start_callableData (find_of_finds hn ho), ?_⟩
    simp only [Option.some.injEq, reduceCtorEq, or_false]
    exact ⟨fun hoc p hp => (ho.unique hp).symm.trans hoc, fun h => h o ho⟩
  · have hnot : ∀ o, ¬ n.Finds q o := not_exists.mp h
    refine ⟨none, fun o => ⟨nofun, fun ho => absurd ho (hnot o)⟩,
      start_callableData (find_of_not_finds hn hnot), ?_⟩
    exact ⟨fun _ o ho => absurd ho (hnot o), fun _ => .inr rfl⟩

/-- A module (0) with a class (1) that has one method (2). There was another function (3), but its name
has been given to the method. -/
def boxes : Namespaces ℕ where
  load m := if m = "m" then .ok 0 else .error ⟨.missingModule, s!"No module named '{m}'"⟩
  member
    | 0, "Box" => .ok 1
    | 0, "size" => .ok 2
    | 1, "size" => .ok 2
    | _, name => .error ⟨.attribute, s!"no attribute '{name}'"⟩
  value
    | 0 => .described .ellipsis []
    | 1 => .type ⟨"m", "Box"⟩
    | 2 => .function ⟨"m", "Box.size"⟩
    | _ => .function ⟨"m", "size"⟩

def boxesLibrary : Library :=
  { Library.empty with resolve := fun module path => (boxes.walk module path).map boxes.value }

lemma fills_boxesLibrary : boxes.Fills boxesLibrary := fun _ _ => rfl

lemma finds_box_size : boxes.Finds ⟨"m", "Box.size"⟩ 2 := ⟨"m", "Box.size", by decide, by rfl, by simp [boxes]⟩

/-- The method comes back from its name, and no other object could. -/
theorem callables_rebuilt_method : boxes.Fills boxesLibrary ∧ Named (boxes.value 2) ⟨"m", "Box.size"⟩ ∧
    encode [] (boxes.value 2) = .ok (callableData ⟨"m", "Box.size"⟩) ∧
    (decode (some boxesLibrary) (callableData ⟨"m", "Box.size"⟩)).start.1 = .ok (boxes.value 2) ∧
    ∀ o, boxes.Finds ⟨"m", "Box.size"⟩ o → o = 2 := by
  have hnamed : Named (boxes.value 2) ⟨"m", "Box.size"⟩ := .function _
  obtain ⟨hencode, -, found, hfound, hdecode, honly⟩ := callables_rebuilt [] fills_boxesLibrary hnamed
  have hmethod : found = some 2 := (hfound 2).mpr finds_box_size
  rw [hmethod] at hdecode
  exact ⟨fills_boxesLibrary, hnamed, hencode, hdecode, honly.mp (.inl hmethod)⟩

/-- Another object may come back: the function whose name was given away does so as the method. -/
theorem rebuilt_otherwise : ¬ ∀ (n : Namespaces ℕ) (lib : Library) (c : ℕ) (q : Qualified),
    n.Fills lib → Named (n.value c) q →
      (decode (some lib) (callableData q)).start.1 = .ok (n.value c) ∨
        (decode (some lib) (callableData q)).start.1 = .ok (missingCallable q) := by
  intro h
  have hfinds : boxes.Finds ⟨"m", "size"⟩ 2 := ⟨"m", "size", by decide, by rfl, by simp [boxes]⟩
  have hdecode := start_callableData (find_of_finds fills_boxesLibrary hfinds)
  rcases h boxes boxesLibrary 3 ⟨"m", "size"⟩ fills_boxesLibrary (.function _) with hsame | hmissing
  · simp [hdecode, boxes] at hsame
  · simp [hdecode, boxes, missingCallable] at hmissing

end CallSnapshot.Codec
