import CallSnapshot.Proofs.Codec.Steady

/-!
What the decoder looks at: under which tags an object is more than its members, which fields are read
of it there, and what data it goes on to as values.
-/

namespace CallSnapshot.Codec

open Noting

/-- The fields that are read of an object with a tag, where the tag is known. -/
def fieldsOf? (tag : String) : Option (List String) :=
  match tag with
  | "tuple" | "set" | "frozenset" | "dict" => some ["items"]
  | "float" | "datetime" | "date" | "time" | "decimal" | "uuid" | "path" => some ["value"]
  | "bytes" => some ["base64"]
  | "timedelta" => some ["seconds"]
  | "complex" => some ["real", "imag"]
  | "circular" => some []
  | "ndarray" => some ["data", "dtype", "shape"]
  | "generator" => some ["class"]
  | "repr" => some ["class", "repr"]
  | "callable" => some ["name"]
  | "enum" => some ["value", "class", "name"]
  | "object" => some ["state", "class"]
  | _ => none

def partsOf (data : Json) : List Json := (parts data).toOption.getD []

def keyAndValue (data : Json) : List Json := (pair data).toOption.elim [] fun p => [p.1, p.2]

def stateOf : Json → List Json
  | .obj state => state.map Prod.snd
  | _ => []

/-- The values among the fields of an object with a known tag. -/
def valuesUnder (tag : String) (members : List (String × Json)) : List Json :=
  let field := fun key => (Json.find? key members).toList
  match tag with
  | "tuple" | "set" | "frozenset" => (field "items").flatMap partsOf
  | "dict" => ((field "items").flatMap partsOf).flatMap keyAndValue
  | "complex" => field "real" ++ field "imag"
  | "ndarray" => field "data"
  | "enum" => field "value"
  | "object" => (field "state").flatMap stateOf
  | _ => []

/-- A tag that is known, and the fields that are read there. -/
def known? : Json → Option (String × List String)
  | .str tag => (fieldsOf? tag).map (tag, ·)
  | _ => none

/-- The data that the decoder goes on to from a node. -/
def visited : Json → List Json
  | .arr items => items
  | .obj members =>
    match (Json.find? tagKey members).bind known? with
    | some (tag, _) => valuesUnder tag members
    | none => members.map Prod.snd
  | _ => []

/-- The data that the decoder comes to as a value, from others. -/
inductive Reached : Json → Json → Prop
  | self (data : Json) : Reached data data
  | further {x y data : Json} (hy : y ∈ visited data) (hx : Reached x y) : Reached x data

/-- Where an object has a tag, it is a known one, and the fields that are read there are at hand. -/
def Tagged (data : Json) : Prop :=
  ∀ tag, data.get? tagKey = some tag → ∃ s fields, tag = .str s ∧ fieldsOf? s = some fields ∧
    ∀ f ∈ fields, ∃ x, data.get? f = some x

/-- So it is wherever the decoder comes to. -/
def WellTagged (data : Json) : Prop := ∀ x, Reached x data → Tagged x

namespace WellTagged

variable {data x : Json}

lemma tagged (h : WellTagged data) : Tagged data := h data (.self data)

lemma visited (h : WellTagged data) (hx : x ∈ visited data) : WellTagged x := fun y hy => h y (.further hx hy)

lemma of_visited (ht : Tagged data) (h : ∀ x ∈ Codec.visited data, WellTagged x) : WellTagged data := by
  intro x hx
  cases hx with
  | self => exact ht
  | further hy hx => exact h _ hy x hx

end WellTagged

section Congruence

variable {mode : Mode} {recur recur' : Json → Noting Value} {members : List (String × Json)}

lemma settle_bind_congr {α β : Type} {r : Except Fault α} {f g : α → Noting β} (h : ∀ a, r = .ok a → f a = g a) :
    (settle r >>= f) = (settle r >>= g) := by
  cases r with
  | ok a => exact h a rfl
  | error e => rfl

lemma field_bind_congr {β : Type} {key : String} {f g : Json → Noting β}
    (h : ∀ x ∈ (Json.find? key members).toList, f x = g x) :
    (settle (field members key) >>= f) = (settle (field members key) >>= g) := by
  refine settle_bind_congr fun x hx => h x ?_
  unfold field at hx
  split at hx
  · rename_i hfind
    cases hx
    simp [hfind]
  · cases hx

lemma mapM_congr {xs : List Json} (h : ∀ x ∈ xs, recur x = recur' x) : xs.mapM recur = xs.mapM recur' := by
  induction xs with
  | nil => rfl
  | cons x xs ih =>
    rw [List.forall_mem_cons] at h
    rw [List.mapM_cons, List.mapM_cons, h.1, ih h.2]

lemma decodeMembers_congr {ms : List (String × Json)} (h : ∀ x ∈ ms.map Prod.snd, recur x = recur' x) :
    decodeMembers recur ms = decodeMembers recur' ms := by
  induction ms with
  | nil => rfl
  | cons m ms ih =>
    rw [List.map_cons, List.forall_mem_cons] at h
    rw [decodeMembers, decodeMembers, h.1, ih h.2]

lemma decodeElements_congr {xs : List Json} (h : ∀ x ∈ xs, recur x = recur' x) (found : List Value) :
    decodeElements recur xs found = decodeElements recur' xs found := by
  induction xs generalizing found with
  | nil => rfl
  | cons x xs ih =>
    rw [List.forall_mem_cons] at h
    simp only [decodeElements, h.1, ih h.2]

lemma decodeEntries_congr {xs : List Json} (h : ∀ x ∈ xs.flatMap keyAndValue, recur x = recur' x)
    (found : List (Value × Value)) : decodeEntries recur xs found = decodeEntries recur' xs found := by
  induction xs generalizing found with
  | nil => rfl
  | cons x xs ih =>
    rw [List.flatMap_cons, List.forall_mem_append] at h
    refine settle_bind_congr fun p hp => ?_
    have hkv : keyAndValue x = [p.1, p.2] := by simp [keyAndValue, hp, Except.toOption]
    rw [hkv, List.forall_mem_cons, List.forall_mem_singleton] at h
    simp only [h.1.1, h.1.2, ih h.2]

lemma parts_bind_congr {β : Type} {f g : List Json → Noting β} (data : Json)
    (h : f (partsOf data) = g (partsOf data)) : (settle (parts data) >>= f) = (settle (parts data) >>= g) := by
  refine settle_bind_congr fun xs hxs => ?_
  simpa [partsOf, hxs, Except.toOption] using h

lemma decodeParts_congr {data : Json} (h : ∀ x ∈ partsOf data, recur x = recur' x) :
    decodeParts recur data = decodeParts recur' data := parts_bind_congr data (mapM_congr h)

lemma decodeTagged_congr {tag : String} (h : ∀ x ∈ valuesUnder tag members, recur x = recur' x) :
    decodeTagged mode recur tag members = decodeTagged mode recur' tag members := by
  unfold decodeTagged
  split <;> simp only [valuesUnder, List.forall_mem_append, List.forall_mem_flatMap] at h
  · refine congrArg some (field_bind_congr fun x hx => ?_)
    rw [decodeParts_congr (h x hx)]
  · refine congrArg some (field_bind_congr fun x hx => parts_bind_congr x ?_)
    rw [decodeElements_congr (h x hx)]
  · refine congrArg some (field_bind_congr fun x hx => parts_bind_congr x ?_)
    rw [decodeElements_congr (h x hx)]
  · refine congrArg some (field_bind_congr fun x hx => parts_bind_congr x ?_)
    rw [decodeEntries_congr fun y hy => ?_]
    obtain ⟨z, hz, hy⟩ := List.mem_flatMap.mp hy
    exact h x hx z hz y hy
  all_goals try rfl
  · refine congrArg some (field_bind_congr fun x hx => ?_)
    rw [h.1 x hx]
    refine bind_congr fun real => field_bind_congr fun y hy => ?_
    rw [h.2 y hy]
  · refine congrArg some (field_bind_congr fun x hx => ?_)
    rw [h x hx]
  · refine congrArg some (field_bind_congr fun x hx => ?_)
    rw [h x hx]
  · refine congrArg some (field_bind_congr fun x hx => ?_)
    cases x with
    | obj state =>
      dsimp only
      rw [decodeMembers_congr (h _ hx)]
    | _ => rfl

lemma decodeTagged_isSome (tag : String) :
    (decodeTagged mode recur tag members).isSome = (fieldsOf? tag).isSome := by
  unfold decodeTagged
  split <;> try rfl
  have hunknown : fieldsOf? tag = none := by rw [fieldsOf?] <;> assumption
  rw [hunknown]
  rfl

/-- No field is read but those that belong to the tag. -/
theorem decodeTagged_fields {tag : String} {fields : List String} (ht : fieldsOf? tag = some fields)
    {members' : List (String × Json)} (h : ∀ f ∈ fields, Json.find? f members = Json.find? f members') :
    decodeTagged mode recur tag members = decodeTagged mode recur tag members' := by
  have hfield : ∀ f ∈ fields, field members f = field members' f := fun f hf => by rw [field, field, h f hf]
  unfold decodeTagged
  split
  case h_15 | h_22 => rfl
  all_goals
    cases ht
    simp only [List.forall_mem_cons] at h hfield
    simp only [hfield, h, decodeEnum, decodeObject, decodeCallable, rebuildArray]

lemma known?_str (s : String) : known? (.str s) = (fieldsOf? s).map (s, ·) := rfl

lemma decodeTagged_eq_none {tag : String} (h : fieldsOf? tag = none) :
    decodeTagged mode recur tag members = none := by
  rw [← Option.isNone_iff_eq_none, ← Option.not_isSome, decodeTagged_isSome, h]
  rfl

/-- A node is decoded by way of the data that are visited from it, and of no other. -/
theorem decodeNode_congr {data : Json} (h : ∀ x ∈ visited data, recur x = recur' x) :
    decodeNode mode recur data = decodeNode mode recur' data := by
  cases data with
  | arr items =>
    rw [visited] at h
    simp only [decodeNode, mapM_congr h]
  | obj members =>
    rw [visited] at h
    cases htag : Json.find? tagKey members with
    | none =>
      rw [htag] at h
      simp only [decodeNode, htag, decodeMembers_congr h]
    | some tag =>
      rw [htag, Option.bind_some] at h
      cases tag with
      | str s =>
        rw [known?_str] at h
        cases hs : fieldsOf? s with
        | none =>
          rw [hs] at h
          simp only [decodeNode, htag, decodeTagged_eq_none hs, decodeMembers_congr h]
        | some fields =>
          rw [hs] at h
          obtain ⟨c, hc⟩ : ∃ c, decodeTagged mode recur s members = some c := by
            rw [← Option.isSome_iff_exists, decodeTagged_isSome, hs]
            rfl
          have hc' : decodeTagged mode recur' s members = some c := (decodeTagged_congr h).symm.trans hc
          simp only [decodeNode, htag, hc, hc']
      | _ => simp only [decodeNode, htag, decodeMembers_congr h]
  | _ => rfl

end Congruence

/-- Decoding data that are well tagged leaves no warning. -/
theorem quiet_decodeTo {mode : Mode} {data : Json} (h : WellTagged data) (fuel : Nat) :
    Quiet (decodeTo mode fuel data) := by
  classical
  induction fuel generalizing data with
  | zero => exact closed_quiet.pure _
  | succ fuel ih =>
    -- how data are decoded that are not visited makes no difference
    let recur := fun x => if WellTagged x then decodeTo mode fuel x else pure .null
    have hrecur : decodeNode mode (decodeTo mode fuel) data = decodeNode mode recur data :=
      decodeNode_congr fun x hx => (if_pos (h.visited hx)).symm
    rw [decodeTo, hrecur]
    refine closed_decodeNode closed_quiet (fun x => ?_) data ?_
    · dsimp only [recur]
      split
      · exact ih ‹_›
      · exact closed_quiet.pure _
    · rintro members tag rfl htag hunknown
      obtain ⟨s, fields, rfl, hs, -⟩ := h.tagged tag htag
      have hsome : (decodeTagged mode recur s members).isSome = (fieldsOf? s).isSome := decodeTagged_isSome s
      rw [hunknown s rfl, hs] at hsome
      cases hsome

end CallSnapshot.Codec
