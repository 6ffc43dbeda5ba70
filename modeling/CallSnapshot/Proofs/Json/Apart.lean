import CallSnapshot.Proofs.Json.RoundTrip

/-!
The ASCII text with sorted keys tells data apart. From the front of a text only one string can be taken,
and only one piece of data; so data with the same text are the same up to the order of their members.
-/

namespace CallSnapshot.Json

open Text

/-! Characters and strings. -/

lemma hexDigits_inj {m n : ℕ} {r r' : List Char} (hm : m < 0x10000) (hn : n < 0x10000)
    (h : hexDigits 4 m ++ r = hexDigits 4 n ++ r') : m = n ∧ r = r' := by
  obtain ⟨hdigits, hr⟩ := List.append_inj h (by rw [length_hexDigits, length_hexDigits])
  have hvalue := congrArg (fun cs => Numeral.ofDigits 16 (cs.filterMap (Numeral.digitIn 16))) hdigits
  simp only [Numeral.ofDigits_hexDigits] at hvalue
  exact ⟨by omega, hr⟩

lemma unitEscape_inj {m n : ℕ} {r r' : List Char} (hm : m < 0x10000) (hn : n < 0x10000)
    (h : unitEscape m ++ r = unitEscape n ++ r') : m = n ∧ r = r' :=
  hexDigits_inj hm hn (List.cons.inj (List.cons.inj h).2).2

lemma toNat_ne_highUnit {c d : Char} (hd : 0x10000 ≤ d.toNat) : c.toNat ≠ highUnit d := by
  have hbounds := highUnit_bounds hd
  have hvalid := toNat_not_surrogate c
  omega

lemma char_eq_of_units {c d : Char} (hc : 0x10000 ≤ c.toNat) (hd : 0x10000 ≤ d.toNat)
    (hhigh : highUnit c = highUnit d) (hlow : lowUnit c = lowUnit d) : c = d := by
  unfold highUnit at hhigh
  unfold lowUnit at hlow
  exact Char.toNat_inj.mp (by omega)

lemma Escape.unique {c d : Char} {e f r r' : List Char} (hc : Escape c e) (hd : Escape d f)
    (h : e ++ r = f ++ r') : c = d ∧ r = r' := by
  have hhigh : ∀ {d : Char}, 0x10000 ≤ d.toNat → highUnit d < 0x10000 := fun hd =>
    lt_trans (highUnit_bounds hd).2 (by decide)
  have hlow : ∀ d, lowUnit d < 0x10000 := fun d => lt_trans (lowUnit_bounds d).2 (by decide)
  cases hc with
  | letter e he hc =>
    cases hd with
    | letter f hf hd =>
      obtain ⟨rfl, rfl⟩ := List.cons.inj (List.cons.inj h).2
      rw [hc] at hd
      exact ⟨Option.some_inj.mp hd, rfl⟩
    | unit => exact absurd (List.cons.inj (List.cons.inj h).2).1 he
    | pair => exact absurd (List.cons.inj (List.cons.inj h).2).1 he
    | self hq hb => exact absurd (List.cons.inj h).1.symm hb
  | unit hc =>
    cases hd with
    | letter f hf hd => exact absurd (List.cons.inj (List.cons.inj h).2).1.symm hf
    | unit hd =>
      obtain ⟨hnat, rfl⟩ := unitEscape_inj hc hd h
      exact ⟨Char.toNat_inj.mp hnat, rfl⟩
    | pair hd =>
      rw [List.append_assoc] at h
      exact absurd (unitEscape_inj hc (hhigh hd) h).1 (toNat_ne_highUnit hd)
    | self hq hb => exact absurd (List.cons.inj h).1.symm hb
  | pair hc =>
    rw [List.append_assoc] at h
    cases hd with
    | letter f hf hd => exact absurd (List.cons.inj (List.cons.inj h).2).1.symm hf
    | unit hd => exact absurd (unitEscape_inj (hhigh hc) hd h).1.symm (toNat_ne_highUnit hc)
    | pair hd =>
      rw [List.append_assoc] at h
      obtain ⟨hhighs, h⟩ := unitEscape_inj (hhigh hc) (hhigh hd) h
      obtain ⟨hlows, rfl⟩ := unitEscape_inj (hlow c) (hlow d) h
      exact ⟨char_eq_of_units hc hd hhighs hlows, rfl⟩
    | self hq hb => exact absurd (List.cons.inj h).1.symm hb
  | self hq hb =>
    cases hd with
    | self => exact List.cons.inj h
    | letter | unit | pair => exact absurd (List.cons.inj h).1 hb

lemma Escape.head {c : Char} {e : List Char} (h : Escape c e) : ∃ a t, e = a :: t ∧ a ≠ '"' := by
  cases h with
  | self hq hb => exact ⟨c, [], rfl, hq⟩
  | letter | unit | pair => exact ⟨'\\', _, rfl, by decide⟩

lemma stringChars_unique {s t : String} {r r' : List Char} (h : stringChars true s ++ r = stringChars true t ++ r') :
    s = t ∧ r = r' := by
  have hbody : ∀ cs ds : List Char,
      cs.flatMap (escapeChar true) ++ '"' :: r = ds.flatMap (escapeChar true) ++ '"' :: r' → cs = ds ∧ r = r' := by
    intro cs
    induction cs with
    | nil =>
      intro ds hds
      cases ds with
      | nil => exact ⟨rfl, (List.cons.inj hds).2⟩
      | cons d ds =>
        obtain ⟨a, t, ht, ha⟩ := (escape_escapeChar true d).head
        rw [List.flatMap_cons, ht] at hds
        exact absurd (List.cons.inj hds).1.symm ha
    | cons c cs ih =>
      intro ds hds
      cases ds with
      | nil =>
        obtain ⟨a, t, ht, ha⟩ := (escape_escapeChar true c).head
        rw [List.flatMap_cons, ht] at hds
        exact absurd (List.cons.inj hds).1 ha
      | cons d ds =>
        rw [List.flatMap_cons, List.flatMap_cons, List.append_assoc, List.append_assoc] at hds
        obtain ⟨rfl, hrest⟩ := (escape_escapeChar true c).unique (escape_escapeChar true d) hds
        obtain ⟨rfl, hr⟩ := ih ds hrest
        exact ⟨rfl, hr⟩
  rw [stringChars_append, stringChars_append] at h
  obtain ⟨hchars, hr⟩ := hbody _ _ (List.cons.inj h).2
  exact ⟨String.toList_injective hchars, hr⟩

/-! Parts between brackets. -/

/-- The parts behind the first one, up to the closing bracket. -/
def spacedTrail (ps : List (List Char)) (closing : Char) (rest : List Char) : List Char :=
  ps.flatMap (", ".toList ++ ·) ++ closing :: rest

lemma spacedTrail_cons (p : List Char) (ps : List (List Char)) (closing : Char) (rest : List Char) :
    spacedTrail (p :: ps) closing rest = ',' :: ' ' :: (p ++ spacedTrail ps closing rest) := by
  simp [spacedTrail]

lemma enclose_nil (depth : ℕ) (opening closing : Char) (rest : List Char) :
    sortedAscii.enclose depth opening closing [] ++ rest = opening :: closing :: rest := rfl

lemma enclose_cons (depth : ℕ) (opening closing : Char) (p : List Char) (ps : List (List Char)) (rest : List Char) :
    sortedAscii.enclose depth opening closing (p :: ps) ++ rest = opening :: (p ++ spacedTrail ps closing rest) := by
  simp [Layout.enclose, sortedAscii, Layout.line, spacedTrail]

lemma stops_spacedTrail (ps : List (List Char)) {closing : Char} (h : closing = ']' ∨ closing = '\x7d')
    (rest : List Char) : Stops (spacedTrail ps closing rest) := by
  cases ps with
  | nil =>
    rintro c ⟨⟩
    exact .inr (h.imp_right .inl)
  | cons p ps =>
    rw [spacedTrail_cons]
    rintro c ⟨⟩
    exact .inl rfl

section Parts

variable {α β : Type} {text : α → List Char → Prop} {f : α → β} {closing : Char} {as bs : List α}
  {ps qs : List (List Char)} {r r' : List Char}

/-- The texts of the parts do not begin with the closing bracket, and from the front of a text only one part
can be taken, as far as `f` tells. -/
structure Splits (text : α → List Char → Prop) (f : α → β) (closing : Char) (as bs : List α) : Prop where
  head : ∀ a, a ∈ as ∨ a ∈ bs → ∀ p, text a p → ∃ c t, p = c :: t ∧ c ≠ closing
  unique : ∀ a ∈ as, ∀ b ∈ bs, ∀ p q r r', text a p → text b q → p ++ r = q ++ r' → Stops r → Stops r' →
    f a = f b ∧ r = r'

lemma Splits.tail {a b : α} (h : Splits text f closing (a :: as) (b :: bs)) : Splits text f closing as bs where
  head x hx := h.head x (hx.imp (List.mem_cons_of_mem a) (List.mem_cons_of_mem b))
  unique x hx y hy := h.unique x (List.mem_cons_of_mem a hx) y (List.mem_cons_of_mem b hy)

lemma Splits.spacedTrail (h : Splits text f closing as bs) (hclosing : closing = ']' ∨ closing = '\x7d')
    (ha : List.Forall₂ text as ps) (hb : List.Forall₂ text bs qs)
    (htext : spacedTrail ps closing r = spacedTrail qs closing r') : as.map f = bs.map f ∧ r = r' := by
  have hcomma : closing ≠ ',' := by rcases hclosing with rfl | rfl <;> decide
  induction ha generalizing bs qs with
  | nil =>
    cases hb with
    | nil => exact ⟨rfl, (List.cons.inj htext).2⟩
    | cons =>
      rw [spacedTrail_cons] at htext
      exact absurd (List.cons.inj htext).1 hcomma
  | cons hp ha ih =>
    cases hb with
    | nil =>
      rw [spacedTrail_cons] at htext
      exact absurd (List.cons.inj htext).1.symm hcomma
    | cons hq hb =>
      rw [spacedTrail_cons, spacedTrail_cons] at htext
      obtain ⟨hab, hrest⟩ := h.unique _ List.mem_cons_self _ List.mem_cons_self _ _ _ _ hp hq
        (List.cons.inj (List.cons.inj htext).2).2 (stops_spacedTrail _ hclosing r) (stops_spacedTrail _ hclosing r')
      obtain ⟨hmap, hr⟩ := ih h.tail hb hrest
      exact ⟨by rw [List.map_cons, List.map_cons, hab, hmap], hr⟩

lemma Splits.enclose (h : Splits text f closing as bs) (hclosing : closing = ']' ∨ closing = '\x7d')
    (ha : List.Forall₂ text as ps) (hb : List.Forall₂ text bs qs) {depth : ℕ} {opening : Char}
    (htext : sortedAscii.enclose depth opening closing ps ++ r = sortedAscii.enclose depth opening closing qs ++ r') :
    as.map f = bs.map f ∧ r = r' := by
  cases ha with
  | nil =>
    cases hb with
    | nil => exact ⟨rfl, (List.cons.inj (List.cons.inj htext).2).2⟩
    | cons hq hb =>
      obtain ⟨c, t, rfl, hc⟩ := h.head _ (.inr List.mem_cons_self) _ hq
      rw [enclose_nil, enclose_cons] at htext
      exact absurd (List.cons.inj (List.cons.inj htext).2).1.symm hc
  | cons hp ha =>
    cases hb with
    | nil =>
      obtain ⟨c, t, rfl, hc⟩ := h.head _ (.inl List.mem_cons_self) _ hp
      rw [enclose_nil, enclose_cons] at htext
      exact absurd (List.cons.inj (List.cons.inj htext).2).1 hc
    | cons hq hb =>
      rw [enclose_cons, enclose_cons] at htext
      obtain ⟨hab, hrest⟩ := h.unique _ List.mem_cons_self _ List.mem_cons_self _ _ _ _ hp hq
        (List.cons.inj htext).2 (stops_spacedTrail _ hclosing r) (stops_spacedTrail _ hclosing r')
      obtain ⟨hmap, hr⟩ := h.tail.spacedTrail hclosing ha hb hrest
      exact ⟨by rw [List.map_cons, List.map_cons, hab, hmap], hr⟩

end Parts

/-! Data in order. -/

mutual

def sorted : Json → Json
  | .arr items => .arr (sortedItems items)
  | .obj members => .obj (sortMembers (sortedMembers members))
  | data => data

def sortedItems : List Json → List Json
  | [] => []
  | x :: xs => x.sorted :: sortedItems xs

def sortedMembers : List (String × Json) → List (String × Json)
  | [] => []
  | (k, x) :: xs => (k, x.sorted) :: sortedMembers xs

end

lemma sortedItems_eq (items : List Json) : sortedItems items = items.map sorted := by
  induction items with
  | nil => rfl
  | cons x xs ih => rw [sortedItems, ih, List.map_cons]

lemma sortedMembers_eq (members : List (String × Json)) :
    sortedMembers members = members.map fun m => (m.1, m.2.sorted) := by
  induction members with
  | nil => rfl
  | cons m ms ih => rw [sortedMembers, ih, List.map_cons]

section Sorting

variable {α β : Type}

lemma insertMember_map (g : α → β) (m : String × α) (ms : List (String × α)) :
    insertMember (m.1, g m.2) (ms.map fun m => (m.1, g m.2)) = (insertMember m ms).map fun m => (m.1, g m.2) := by
  induction ms with
  | nil => rfl
  | cons n ns ih =>
    rw [List.map_cons, insertMember, insertMember, ih]
    split <;> rfl

lemma sortMembers_map (g : α → β) (ms : List (String × α)) :
    sortMembers (ms.map fun m => (m.1, g m.2)) = (sortMembers ms).map fun m => (m.1, g m.2) := by
  unfold sortMembers
  induction ms with
  | nil => rfl
  | cons m ms ih => rw [List.map_cons, List.foldr_cons, List.foldr_cons, ih, insertMember_map]

lemma mem_insertMember {m n : String × α} {ms : List (String × α)} : n ∈ insertMember m ms ↔ n = m ∨ n ∈ ms := by
  induction ms with
  | nil => simp [insertMember]
  | cons k ks ih =>
    rw [insertMember]
    split
    · simp
    · rw [List.mem_cons, ih, List.mem_cons]
      tauto

lemma mem_sortMembers {n : String × α} {ms : List (String × α)} : n ∈ sortMembers ms ↔ n ∈ ms := by
  unfold sortMembers
  induction ms with
  | nil => simp
  | cons m ms ih => rw [List.foldr_cons, mem_insertMember, ih, List.mem_cons]

lemma forall₂_sortMembers {r : α → β → Prop} {ms : List (String × α)} {ns : List (String × β)}
    (h : List.Forall₂ (fun m n => m.1 = n.1 ∧ r m.2 n.2) ms ns) :
    List.Forall₂ (fun m n => m.1 = n.1 ∧ r m.2 n.2) (sortMembers ms) (sortMembers ns) := by
  have hinsert : ∀ {m : String × α} {n : String × β} {ms ns}, m.1 = n.1 ∧ r m.2 n.2 →
      List.Forall₂ (fun m n => m.1 = n.1 ∧ r m.2 n.2) ms ns →
      List.Forall₂ (fun m n => m.1 = n.1 ∧ r m.2 n.2) (insertMember m ms) (insertMember n ns) := by
    intro m n ms ns hmn hall
    induction hall with
    | nil => exact .cons hmn .nil
    | cons hkl hall ih =>
      rw [insertMember, insertMember, hmn.1, hkl.1]
      split
      · exact .cons hmn (.cons hkl hall)
      · exact .cons hkl ih
  unfold sortMembers
  induction h with
  | nil => exact .nil
  | cons hmn _ ih => exact hinsert hmn ih

end Sorting

/-- The character that data begin with that are no single word or number. -/
def opening? : Json → Option Char
  | .str _ => some '"'
  | .arr _ => some '['
  | .obj _ => some '\x7b'
  | _ => none

def bracket? (c : Char) : Option Char := if c = '"' ∨ c = '[' ∨ c = '\x7b' then some c else none

@[elab_as_elim]
lemma induct {motive : Json → Prop} (single : ∀ x, x.opening? = none → motive x) (str : ∀ s, motive (.str s))
    (arr : ∀ items, (∀ x ∈ items, motive x) → motive (.arr items))
    (obj : ∀ members, (∀ m ∈ members, motive m.2) → motive (.obj members)) (data : Json) : motive data := by
  induction hsize : sizeOf data using Nat.strong_induction_on generalizing data with
  | _ n ih =>
    cases data with
    | null | bool | int | float => exact single _ rfl
    | str s => exact str s
    | arr items =>
      refine arr items fun x hx => ih (sizeOf x) ?_ x rfl
      have hlt := List.sizeOf_lt_of_mem hx
      rw [Json.arr.sizeOf_spec] at hsize
      omega
    | obj members =>
      refine obj members fun m hm => ih (sizeOf m.2) ?_ m.2 rfl
      have hlt := List.sizeOf_lt_of_mem hm
      have hpair : sizeOf m = 1 + sizeOf m.1 + sizeOf m.2 := rfl
      rw [Json.obj.sizeOf_spec] at hsize
      omega

section Texts

variable {depth : ℕ} {x y : Json} {cs ds r r' : List Char}

lemma chars_single (h : x.opening? = none) : sortedAscii.chars depth x = compact.chars depth x := by
  cases x <;> first | rfl | cases h

lemma bracket?_digit {c : Char} (hc : c.isDigit = true) : bracket? c = none :=
  Text.forall_isDigit (P := fun c => bracket? c = none) (by decide) hc

lemma bracket?_signed {c : Char} (hc : c.isDigit = true) (negative : Bool) (t : List Char) :
    ∃ a s, signed negative (c :: t) = a :: s ∧ bracket? a = none := by
  cases negative with
  | true => exact ⟨'-', _, rfl, by decide⟩
  | false => exact ⟨c, t, rfl, bracket?_digit hc⟩

lemma bracket?_chars (hx : x.Faithful) (h : sortedAscii.chars depth x = .ok cs) :
    ∃ c t, cs = c :: t ∧ bracket? c = x.opening? := by
  cases x with
  | null =>
    cases h
    exact ⟨'n', _, rfl, by decide⟩
  | bool b =>
    cases h
    cases b
    · exact ⟨'f', _, rfl, by decide⟩
    · exact ⟨'t', _, rfl, by decide⟩
  | int n =>
    obtain ⟨negative, c, ds, rfl, hc⟩ := intChars_head h
    exact bracket?_signed hc negative ds
  | float x =>
    cases h
    cases x with
    | nan => exact ⟨'N', _, rfl, by decide⟩
    | infinity s =>
      cases s
      · exact ⟨'I', _, rfl, by decide⟩
      · exact ⟨'-', _, rfl, by decide⟩
    | finite s m e =>
      obtain ⟨negative, c, ds, htext, hc⟩ := text_head (s := s) hx
      change ∃ c t, (Binary64.finite s m e).text.toList = c :: t ∧ bracket? c = none
      rw [htext]
      exact bracket?_signed hc negative ds
  | str s =>
    cases h
    exact ⟨'"', _, rfl, rfl⟩
  | arr items =>
    obtain ⟨parts, -, h⟩ := bind_eq_ok.mp h
    cases h
    cases parts <;> exact ⟨'[', _, rfl, rfl⟩
  | obj members =>
    obtain ⟨parts, -, h⟩ := bind_eq_ok.mp h
    cases h
    generalize List.map _ (if sortedAscii.sorted = true then sortMembers parts else parts) = parts
    cases parts <;> exact ⟨'\x7b', _, rfl, rfl⟩

/-- Two texts that begin with data, and go on alike, are of data of one kind. -/
lemma opening?_eq (hx : x.Faithful) (hy : y.Faithful) (h : sortedAscii.chars depth x = .ok cs)
    (h' : sortedAscii.chars depth y = .ok ds) (htext : cs ++ r = ds ++ r') : x.opening? = y.opening? := by
  obtain ⟨c, t, rfl, hc⟩ := bracket?_chars hx h
  obtain ⟨d, u, rfl, hd⟩ := bracket?_chars hy h'
  rw [← hc, ← hd, (List.cons.inj htext).1]

lemma single_unique (hx : x.Faithful) (hy : y.Faithful) (hsx : x.opening? = none) (hsy : y.opening? = none)
    (h : sortedAscii.chars depth x = .ok cs) (h' : sortedAscii.chars depth y = .ok ds) (htext : cs ++ r = ds ++ r')
    (hr : Stops r) (hr' : Stops r') : x = y ∧ r = r' := by
  rw [chars_single hsx] at h
  rw [chars_single hsy] at h'
  have hfuel : 2 * cs.length ≤ 2 * cs.length + 2 * ds.length := by omega
  have hfuel' : 2 * ds.length ≤ 2 * cs.length + 2 * ds.length := by omega
  have hread := readValue_chars Layout.legible_compact x hx h hr hfuel
  have hread' := readValue_chars Layout.legible_compact y hy h' hr' hfuel'
  rw [htext, hread'] at hread
  cases hread
  exact ⟨rfl, rfl⟩

lemma forall₂_itemChars {items : List Json} {parts : List (List Char)}
    (h : sortedAscii.itemChars depth items = .ok parts) :
    List.Forall₂ (fun x p => sortedAscii.chars depth x = .ok p) items parts := by
  induction items generalizing parts with
  | nil =>
    cases h
    exact .nil
  | cons x xs ih =>
    obtain ⟨p, hp, h⟩ := bind_eq_ok.mp h
    obtain ⟨ps, hps, h⟩ := bind_eq_ok.mp h
    cases h
    exact .cons hp (ih hps)

lemma forall₂_memberChars {members : List (String × Json)} {parts : List (String × List Char)}
    (h : sortedAscii.memberChars depth members = .ok parts) :
    List.Forall₂ (fun m p => m.1 = p.1 ∧ sortedAscii.chars depth m.2 = .ok p.2) members parts := by
  induction members generalizing parts with
  | nil =>
    cases h
    exact .nil
  | cons m ms ih =>
    obtain ⟨p, hp, h⟩ := bind_eq_ok.mp h
    obtain ⟨ps, hps, h⟩ := bind_eq_ok.mp h
    cases h
    exact .cons ⟨rfl, hp⟩ (ih hps)

/-- A member of an object in ASCII text. -/
def asciiMember (m : String × List Char) : List Char := stringChars true m.1 ++ ": ".toList ++ m.2

lemma chars_ne_closing (hx : x.Faithful) (h : sortedAscii.chars depth x = .ok cs) : ∃ c t, cs = c :: t ∧ c ≠ ']' := by
  obtain ⟨c, t, rfl, hc⟩ := bracket?_chars hx h
  refine ⟨c, t, rfl, ?_⟩
  cases hsingle : x.opening? with
  | none =>
    rw [chars_single hsingle] at h
    obtain ⟨d, u, heq, -, hd, -⟩ := begins_chars hx h
    rw [(List.cons.inj heq).1]
    exact hd
  | some b =>
    rw [hsingle] at hc
    rintro rfl
    cases hc

/-- From the front of a text only one piece of data can be taken, up to the order of members. -/
def Unique (x : Json) : Prop :=
  ∀ {depth : ℕ} {y : Json} {cs ds r r' : List Char}, x.Faithful → y.Faithful →
    sortedAscii.chars depth x = .ok cs → sortedAscii.chars depth y = .ok ds → cs ++ r = ds ++ r' →
    Stops r → Stops r' → x.sorted = y.sorted ∧ r = r'

lemma unique_arr {items : List Json} (ih : ∀ x ∈ items, Unique x) : Unique (.arr items) := by
  intro depth y cs ds r r' hx hy h h' htext hr hr'
  have hkind := opening?_eq hx hy h h' htext
  cases y with
  | arr items' =>
    obtain ⟨ps, hps, h⟩ := bind_eq_ok.mp h
    cases h
    obtain ⟨qs, hqs, h'⟩ := bind_eq_ok.mp h'
    cases h'
    rw [faithful_arr] at hx hy
    have hsplits : Splits (fun x p => sortedAscii.chars (depth + 1) x = .ok p) sorted ']' items items' := by
      constructor
      · intro x hmem p hp
        exact chars_ne_closing (hmem.elim (hx x) (hy x)) hp
      · intro a ha b hb p q s s' hp hq
        exact ih a ha (hx a ha) (hy b hb) hp hq
    obtain ⟨hmap, hrest⟩ := hsplits.enclose (.inl rfl) (forall₂_itemChars hps) (forall₂_itemChars hqs) htext
    exact ⟨by rw [sorted, sorted, sortedItems_eq, sortedItems_eq, hmap], hrest⟩
  | _ => cases hkind

lemma unique_obj {members : List (String × Json)} (ih : ∀ m ∈ members, Unique m.2) : Unique (.obj members) := by
  intro depth y cs ds r r' hx hy h h' htext hr hr'
  have hkind := opening?_eq hx hy h h' htext
  cases y with
  | obj members' =>
    obtain ⟨ps, hps, h⟩ := bind_eq_ok.mp h
    cases h
    obtain ⟨qs, hqs, h'⟩ := bind_eq_ok.mp h'
    cases h'
    rw [faithful_obj] at hx hy
    have hsplits : Splits (fun m p => ∃ q, sortedAscii.chars (depth + 1) m.2 = .ok q ∧ p = asciiMember (m.1, q))
        (fun m => (m.1, m.2.sorted)) '\x7d' (sortMembers members) (sortMembers members') := by
      constructor
      · rintro m - p ⟨q, -, rfl⟩
        exact ⟨'"', _, rfl, by decide⟩
      · rintro ⟨k, a⟩ ha ⟨l, b⟩ hb p q s s' ⟨p, hp, rfl⟩ ⟨q, hq, rfl⟩ hpq hs hs'
        rw [mem_sortMembers] at ha hb
        simp only [asciiMember, List.append_assoc] at hpq
        obtain ⟨rfl, hcolon⟩ := stringChars_unique hpq
        obtain ⟨hsorted, hrest⟩ := ih _ ha (hx.2 _ ha) (hy.2 _ hb) hp hq (List.append_cancel_left hcolon) hs hs'
        exact ⟨by rw [hsorted], hrest⟩
    have hparts : ∀ {members : List (String × Json)} {ps : List (String × List Char)},
        sortedAscii.memberChars (depth + 1) members = .ok ps → List.Forall₂
          (fun m p => ∃ q, sortedAscii.chars (depth + 1) m.2 = .ok q ∧ p = asciiMember (m.1, q))
          (sortMembers members) ((sortMembers ps).map asciiMember) := by
      intro members ps hps
      rw [List.forall₂_map_right_iff]
      refine (forall₂_sortMembers (r := fun x p => sortedAscii.chars (depth + 1) x = .ok p)
        (forall₂_memberChars hps)).imp ?_
      rintro ⟨k, a⟩ ⟨l, p⟩ ⟨hkl, hp⟩
      obtain rfl : k = l := hkl
      exact ⟨p, hp, rfl⟩
    obtain ⟨hmap, hrest⟩ := hsplits.enclose (.inr rfl) (hparts hps) (hparts hqs) htext
    refine ⟨?_, hrest⟩
    rw [sorted, sorted, sortedMembers_eq, sortedMembers_eq, sortMembers_map, sortMembers_map, hmap]
  | _ => cases hkind

lemma unique (x : Json) : Unique x := by
  induction x using induct with
  | single x hsx =>
    intro depth y cs ds r r' hx hy h h' htext hr hr'
    have hsy : y.opening? = none := (opening?_eq hx hy h h' htext).symm.trans hsx
    obtain ⟨rfl, hrest⟩ := single_unique hx hy hsx hsy h h' htext hr hr'
    exact ⟨rfl, hrest⟩
  | str s =>
    intro depth y cs ds r r' hx hy h h' htext hr hr'
    have hkind := opening?_eq hx hy h h' htext
    cases y with
    | str t =>
      cases h
      cases h'
      obtain ⟨rfl, hrest⟩ := stringChars_unique htext
      exact ⟨rfl, hrest⟩
    | _ => cases hkind
  | arr items ih => exact unique_arr ih
  | obj members ih => exact unique_obj ih

/-- Data with the same ASCII text are the same up to the order of their members. -/
theorem sorted_eq_of_print {x y : Json} {text : String} (hx : x.Faithful) (hy : y.Faithful)
    (h : print sortedAscii x = .ok text) (h' : print sortedAscii y = .ok text) : x.sorted = y.sorted := by
  have hend : Stops [] := by simp [Stops]
  exact (unique x hx hy (chars_of_print h) (chars_of_print h') rfl hend hend).1

end Texts

end CallSnapshot.Json
