import CallSnapshot.Codec.Decode
import CallSnapshot.Proofs.Noting

/-!
Decoding data is put together of steps that settle something, leave a note or fail: what goes from
steps to the whole is true of it. So it leaves notes, but what comes of it does not hang on those that
were left before.
-/

namespace CallSnapshot.Codec

open Noting

section Steps

variable {P : ∀ {α : Type}, Noting α → Prop} (hP : Closed P) {mode : Mode} {recur : Json → Noting Value}

include hP

lemma closed_find (lib : Library) (name : String) : P (lib.find name) := by
  unfold Library.find
  split
  · exact hP.pure _
  · split
    · exact hP.pure _
    · exact hP.pure _
    · exact hP.bind (hP.debug _ _) fun _ => hP.pure _

lemma closed_findData (lib : Library) (data : Json) : P (lib.findData data) := by
  unfold Library.findData
  split
  · exact closed_find hP lib _
  · exact hP.fail _ _

lemma closed_decodeCallable (members : List (String × Json)) : P (decodeCallable mode members) := by
  refine hP.bind (hP.settle _) fun name => ?_
  cases mode with
  | none => exact hP.pure _
  | some lib => exact hP.bind (closed_findData hP lib name) fun _ => hP.pure _

lemma closed_decodeEnum (members : List (String × Json)) (v : Value) : P (decodeEnum mode members v) := by
  have plain : P (do
      let cls ← settle (field members "class")
      let name ← settle (field members "name")
      pure (placeholder (ofJson cls) [("name", ofJson name), ("value", v)])) :=
    hP.bind (hP.settle _) fun _ => hP.bind (hP.settle _) fun _ => hP.pure _
  unfold decodeEnum
  cases mode with
  | none => exact plain
  | some lib =>
    refine hP.bind (hP.settle _) fun cls => hP.bind (closed_findData hP lib cls) fun found => ?_
    split
    · split
      · rename_i ms name _ _
        cases (ms.find? fun x => x.1 == name).map Prod.snd with
        | none => exact plain
        | some w => exact hP.pure w
      · split
        · exact plain
        · exact hP.fail _ _
      · exact plain
    · exact plain

lemma closed_decodeObject (members : List (String × Json)) (state : List (String × Value)) :
    P (decodeObject mode members state) := by
  have plain : P (do
      let cls ← settle (field members "class")
      pure (placeholder (ofJson cls) state)) := hP.bind (hP.settle _) fun _ => hP.pure _
  unfold decodeObject
  cases mode with
  | none => exact plain
  | some lib =>
    refine hP.bind (hP.settle _) fun cls => hP.bind (closed_findData hP lib cls) fun found => ?_
    split
    · split
      · exact hP.pure _
      · exact hP.bind (hP.debug _ _) fun _ => plain
    · exact plain

variable (hr : ∀ data, P (recur data))

include hr

lemma closed_decodeParts (data : Json) : P (decodeParts recur data) :=
  hP.bind (hP.settle _) fun items => hP.mapM hr items

lemma closed_decodeMembers (members : List (String × Json)) : P (decodeMembers recur members) := by
  induction members with
  | nil => exact hP.pure _
  | cons m members ih => exact hP.bind (hr m.2) fun _ => hP.bind ih fun _ => hP.pure _

lemma closed_decodeElements (items : List Json) (found : List Value) :
    P (decodeElements recur items found) := by
  induction items generalizing found with
  | nil => exact hP.pure _
  | cons x items ih => exact hP.bind (hr x) fun _ => hP.bind (hP.settle _) fun _ => ih _

lemma closed_decodeEntries (items : List Json) (found : List (Value × Value)) :
    P (decodeEntries recur items found) := by
  induction items generalizing found with
  | nil => exact hP.pure _
  | cons x items ih =>
    exact hP.bind (hP.settle _) fun p => hP.bind (hr p.1) fun _ => hP.bind (hP.settle _) fun _ =>
      hP.bind (hr p.2) fun _ => ih _

lemma closed_decodeTagged {tag : String} {members : List (String × Json)} {c : Noting Value}
    (h : decodeTagged mode recur tag members = some c) : P c := by
  -- each kind is put together from the computations above, and from fields that are there or not
  unfold decodeTagged at h
  split at h <;> cases h
  all_goals repeat' with_reducible first
    | exact hP.settle _
    | exact hP.pure _
    | exact hP.fail _ _
    | exact hr _
    | exact closed_decodeParts hP hr _
    | exact closed_decodeElements hP hr _ _
    | exact closed_decodeEntries hP hr _ _
    | exact closed_decodeMembers hP hr _
    | exact closed_decodeCallable hP _
    | exact closed_decodeEnum hP _ _
    | exact closed_decodeObject hP _ _
    | refine hP.bind ?_ fun _ => ?_
    | split

lemma closed_decodeNode (data : Json)
    (hw : ∀ members tag, data = .obj members → Json.find? tagKey members = some tag →
      (∀ s, tag = .str s → decodeTagged mode recur s members = none) → ∀ text, P (note (.warning text))) :
    P (decodeNode mode recur data) := by
  have members := fun ms => hP.bind (closed_decodeMembers hP hr ms) fun vs => hP.pure (dictOf vs)
  unfold decodeNode
  split
  · exact hP.bind (hP.mapM hr _) fun _ => hP.pure _
  · split
    · exact members _
    · rename_i ms _ tag htag
      dsimp only
      split
      · rename_i h
        split at h
        · exact closed_decodeTagged hP hr h
        · cases h
      · rename_i h
        refine hP.bind (hw ms tag rfl htag ?_ _) fun _ => members _
        rintro s rfl
        exact h
  · exact hP.pure _

end Steps

variable {mode : Mode} {recur : Json → Noting Value}

lemma steady_decodeTo (fuel : Nat) (data : Json) : Steady (decodeTo mode fuel data) := by
  induction fuel generalizing data with
  | zero => exact steady_pure _
  | succ fuel ih => exact closed_decodeNode closed_steady ih data fun _ _ _ _ _ _ => steady_note _

lemma steady_decode (data : Json) : Steady (decode mode data) := steady_decodeTo _ _

end CallSnapshot.Codec
