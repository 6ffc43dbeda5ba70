import CallSnapshot.Proofs.Json.Numbers
import CallSnapshot.Proofs.Json.Printable
import CallSnapshot.Proofs.Json.Strings

/-!
Data are read back from their text as they were, where no key comes twice and keys are not sorted. Besides
commas and colons a text may have lines and spaces between its parts.
-/

namespace CallSnapshot.Json

open Numeral Text

mutual

/-- Data that a text holds in full: no key comes twice, and numbers are of the format. -/
def Faithful : Json → Prop
  | .float x => x.Valid
  | .arr items => FaithfulItems items
  | .obj members => (members.map Prod.fst).Nodup ∧ FaithfulMembers members
  | _ => True

def FaithfulItems : List Json → Prop
  | [] => True
  | x :: xs => Faithful x ∧ FaithfulItems xs

def FaithfulMembers : List (String × Json) → Prop
  | [] => True
  | (_, x) :: xs => Faithful x ∧ FaithfulMembers xs

end

lemma faithfulItems_iff {items : List Json} : FaithfulItems items ↔ ∀ x ∈ items, x.Faithful := by
  induction items with
  | nil => simp [FaithfulItems]
  | cons x xs ih => simp [FaithfulItems, ih]

lemma faithfulMembers_iff {members : List (String × Json)} :
    FaithfulMembers members ↔ ∀ m ∈ members, m.2.Faithful := by
  induction members with
  | nil => simp [FaithfulMembers]
  | cons m ms ih => simp [FaithfulMembers, ih]

lemma faithful_obj {members : List (String × Json)} :
    Faithful (.obj members) ↔ (members.map Prod.fst).Nodup ∧ ∀ m ∈ members, m.2.Faithful := by
  rw [Faithful, faithfulMembers_iff]

lemma faithful_arr {items : List Json} : Faithful (.arr items) ↔ ∀ x ∈ items, x.Faithful := by
  rw [Faithful, faithfulItems_iff]

section Merge

variable {α β : Type} [BEq α] [LawfulBEq α]

lemma put_absent {k : α} {ms : List (α × β)} (h : k ∉ ms.map Prod.fst) (v : β) :
    put k v ms = ms ++ [(k, v)] := by
  induction ms with
  | nil => rfl
  | cons m ms ih =>
    rw [List.map_cons, List.mem_cons, not_or] at h
    obtain ⟨k', v'⟩ := m
    rw [put, if_neg (by simpa using Ne.symm h.1), ih h.2, List.cons_append]

lemma merge_eq {ms : List (String × Json)} (h : (ms.map Prod.fst).Nodup) : merge ms = ms := by
  suffices hs : ∀ acc : List (String × Json), ((acc ++ ms).map Prod.fst).Nodup →
      ms.foldl (fun ms m => put m.1 m.2 ms) acc = acc ++ ms from hs [] h
  clear h
  induction ms with
  | nil => simp
  | cons m ms ih =>
    intro acc hacc
    obtain ⟨k, v⟩ := m
    have habsent : k ∉ acc.map Prod.fst := by
      rw [List.map_append, List.map_cons] at hacc
      exact fun hm => (List.nodup_append.mp hacc).2.2 _ hm _ List.mem_cons_self rfl
    change ms.foldl _ (put k v acc) = _
    rw [put_absent habsent, ih _ (by simpa using hacc), List.append_assoc]
    rfl

end Merge

def Blank (cs : List Char) : Prop := ∀ c ∈ cs, isSpace c = true

lemma Blank.skip {bs : List Char} (h : Blank bs) (t : List Char) : skip (bs ++ t) = skip t :=
  List.dropWhile_append_of_pos h

lemma Blank.append {bs cs : List Char} (hb : Blank bs) (hc : Blank cs) : Blank (bs ++ cs) := by
  intro c h
  rcases List.mem_append.mp h with h | h
  · exact hb c h
  · exact hc c h

lemma blank_spaces (k : ℕ) : Blank (List.replicate k ' ') := by
  intro c h
  rw [List.eq_of_mem_replicate h]
  rfl

def Begins (cs : List Char) : Prop :=
  ∃ c rest, cs = c :: rest ∧ isSpace c = false ∧ c ≠ ']' ∧ c ≠ '\uFEFF'

lemma Begins.skip {cs : List Char} (h : Begins cs) (t : List Char) : skip (cs ++ t) = cs ++ t := by
  obtain ⟨c, rest, rfl, hc, -⟩ := h
  simp [Json.skip, hc]

lemma begins_digit {c : Char} (hc : c.isDigit = true) (cs : List Char) : Begins (c :: cs) :=
  ⟨c, cs, rfl, Text.forall_isDigit (P := fun c => isSpace c = false ∧ c ≠ ']' ∧ c ≠ '\uFEFF') (by decide) hc⟩

lemma begins_stringChars (ascii : Bool) (s : String) (t : List Char) : Begins (stringChars ascii s ++ t) :=
  ⟨'"', _, rfl, rfl, by decide⟩

namespace Layout

/-- Layouts that keep the order of data, with nothing but spaces behind commas and colons. -/
structure Legible (l : Layout) : Prop where
  unsorted : l.sorted = false
  comma : ∃ k, l.comma.toList = ',' :: List.replicate k ' '
  colon : ∃ k, l.colon.toList = ':' :: List.replicate k ' '

lemma legible_compact : compact.Legible := ⟨rfl, ⟨0, rfl⟩, ⟨0, rfl⟩⟩

variable (l : Layout) (depth : ℕ)

lemma blank_line : Blank (l.line depth) := by
  unfold line
  cases l.indent with
  | none => simp [Blank]
  | some k =>
    intro c hc
    rcases List.mem_cons.mp hc with rfl | hc
    · rfl
    · exact blank_spaces _ c hc

def trail (ps : List (List Char)) (closing : Char) (rest : List Char) : List Char :=
  ps.flatMap (l.comma.toList ++ l.line (depth + 1) ++ ·) ++ (l.line depth ++ closing :: rest)

lemma enclose_cons (opening closing : Char) (p : List Char) (ps : List (List Char)) (rest : List Char) :
    l.enclose depth opening closing (p :: ps) ++ rest =
      opening :: (l.line (depth + 1) ++ (p ++ l.trail depth ps closing rest)) := by
  simp [enclose, trail]

lemma stops_trail (hl : l.Legible) (ps : List (List Char)) {closing : Char} (h : closing = ']' ∨ closing = '\x7d')
    (rest : List Char) : Stops (l.trail depth ps closing rest) := by
  cases ps with
  | nil =>
    rw [trail, List.flatMap_nil, List.nil_append, line]
    cases l.indent with
    | none =>
      rintro c ⟨⟩
      exact .inr (h.imp_right .inl)
    | some k =>
      rintro c ⟨⟩
      exact .inr (.inr (.inr rfl))
  | cons p ps =>
    obtain ⟨k, hcomma⟩ := hl.comma
    rw [trail, List.flatMap_cons, hcomma]
    rintro c ⟨⟩
    exact .inl rfl

variable {l}

lemma Legible.trail_cons (hl : l.Legible) (p : List Char) (ps : List (List Char)) (closing : Char) (rest : List Char) :
    ∃ bs, Blank bs ∧ l.trail depth (p :: ps) closing rest = ',' :: (bs ++ (p ++ l.trail depth ps closing rest)) := by
  obtain ⟨k, hcomma⟩ := hl.comma
  exact ⟨_, (blank_spaces k).append (l.blank_line (depth + 1)), by simp [trail, hcomma]⟩

end Layout

section Read

variable {fuel : ℕ} {rest p t : List Char} {x : Json} {xs : List Json}

lemma readValue_string (ascii : Bool) (s : String) (fuel : ℕ) (rest : List Char) :
    readValue (fuel + 1) (stringChars ascii s ++ rest) = .ok (.str s, rest) := by
  rw [stringChars_append, readValue.eq_3, readString_stringChars]
  rfl

lemma readValue_plain {c : Char} (hc : c ≠ '"' ∧ c ≠ '[' ∧ c ≠ '\x7b') :
    readValue (fuel + 1) (c :: t) =
      match readWord? (c :: t) with
      | some found => .ok found
      | none => readNumber (c :: t) := by
  refine readValue.eq_6 _ _ (by simp) ?_ ?_ ?_
  · rintro _ ⟨⟩
    exact hc.1 rfl
  · rintro _ ⟨⟩
    exact hc.2.1 rfl
  · rintro _ ⟨⟩
    exact hc.2.2 rfl

lemma readWord?_number {c : Char} (hc : c.isDigit = true) (negative : Bool) (t : List Char) :
    readWord? (signed negative (c :: t)) = none := by
  have hne : ∀ w ∈ ['n', 't', 'f', 'N', 'I', '-'], (w == c) = false := by
    intro w hw
    refine beq_eq_false_iff_ne.mpr ?_
    rintro rfl
    simp only [List.mem_cons, List.not_mem_nil, or_false] at hw
    rcases hw with rfl | rfl | rfl | rfl | rfl | rfl <;> cases hc
  simp only [List.forall_mem_cons, List.not_mem_nil, IsEmpty.forall_iff, implies_true, and_true] at hne
  obtain ⟨h₁, h₂, h₃, h₄, h₅, h₆⟩ := hne
  cases negative <;> simp [readWord?, words, signed, dropWord?, h₁, h₂, h₃, h₄, h₅, h₆]

lemma readValue_number {c : Char} (hc : c.isDigit = true) (negative : Bool) (t : List Char) :
    readValue (fuel + 1) (signed negative (c :: t)) = readNumber (signed negative (c :: t)) := by
  have hdigit := Text.forall_isDigit (P := fun c => c ≠ '"' ∧ c ≠ '[' ∧ c ≠ '\x7b') (by decide) hc
  have hword := readWord?_number hc negative t
  cases negative with
  | true =>
    refine (readValue_plain (by decide)).trans ?_
    change readWord? ('-' :: c :: t) = none at hword
    rw [hword]
    rfl
  | false =>
    refine (readValue_plain hdigit).trans ?_
    change readWord? (c :: t) = none at hword
    rw [hword]
    rfl

variable {bs : List Char}

lemma readValue_list (hb : Blank bs) (hp : Begins p) (h : readItems fuel (p ++ t) = .ok (xs, rest)) :
    readValue (fuel + 1) ('[' :: (bs ++ (p ++ t))) = .ok (.arr xs, rest) := by
  rw [readValue.eq_4, hb.skip, hp.skip]
  obtain ⟨c, cs, rfl, -, hc⟩ := hp
  split
  · rename_i heq
    exact absurd (List.cons.inj heq).1 hc.1
  · rw [h]
    rfl

lemma readItems_last (hb : Blank bs) (h : readValue fuel (p ++ (bs ++ ']' :: rest)) = .ok (x, bs ++ ']' :: rest)) :
    readItems (fuel + 1) (p ++ (bs ++ ']' :: rest)) = .ok ([x], rest) := by
  have hskip : skip (bs ++ ']' :: rest) = ']' :: rest := hb.skip _
  rw [readItems.eq_2, h, ok_bind]
  dsimp only
  rw [hskip]
  rfl

lemma readItems_next {q : List Char} (hb : Blank bs) (hq : Begins q)
    (h : readValue fuel (p ++ (',' :: (bs ++ (q ++ t)))) = .ok (x, ',' :: (bs ++ (q ++ t))))
    (hrest : readItems fuel (q ++ t) = .ok (xs, rest)) :
    readItems (fuel + 1) (p ++ (',' :: (bs ++ (q ++ t)))) = .ok (x :: xs, rest) := by
  rw [readItems.eq_2, h]
  change (readItems fuel (skip (bs ++ (q ++ t))) >>= fun y => .ok (x :: y.1, y.2)) = _
  rw [hb.skip, hq.skip, hrest]
  rfl

variable {k : String} {ms : List (String × Json)}

lemma readValue_object (hb : Blank bs) (hp : Begins p) (hquote : p.head? = some '"')
    (h : readMembers fuel (p ++ t) = .ok (ms, rest)) :
    readValue (fuel + 1) ('\x7b' :: (bs ++ (p ++ t))) = .ok (.obj (merge ms), rest) := by
  rw [readValue.eq_5, hb.skip, hp.skip]
  obtain ⟨c, cs, rfl, -⟩ := hp
  obtain rfl : c = '"' := Option.some.inj hquote
  change (readMembers fuel ('"' :: cs ++ t) >>= fun y => Except.ok (Json.obj (merge y.1), y.2)) = _
  rw [h]
  rfl

variable {l : Layout}

def Layout.memberText (l : Layout) (m : String × List Char) : List Char :=
  stringChars l.ascii m.1 ++ l.colon.toList ++ m.2

lemma begins_memberText (l : Layout) (m : String × List Char) : Begins (l.memberText m) := by
  unfold Layout.memberText
  rw [List.append_assoc]
  exact begins_stringChars _ _ _

lemma readMembers_member (hl : l.Legible) (hp : Begins p) (h : readValue fuel (p ++ t) = .ok (x, t)) :
    readMembers (fuel + 1) (l.memberText (k, p) ++ t) =
      match skip t with
      | '\x7d' :: rest => .ok ([(k, x)], rest)
      | ',' :: rest => do
        let (members, rest) ← readMembers fuel (skip rest)
        .ok ((k, x) :: members, rest)
      | rest => .error (.bad .comma rest.length) := by
  obtain ⟨n, hcolon⟩ := hl.colon
  have htext : l.memberText (k, p) ++ t = '"' :: (k.toList.flatMap (escapeChar l.ascii) ++
      '"' :: (':' :: (List.replicate n ' ' ++ (p ++ t)))) := by
    simp [Layout.memberText, stringChars, hcolon]
  rw [htext, readMembers.eq_2, readString_stringChars]
  change (readValue fuel (skip (List.replicate n ' ' ++ (p ++ t))) >>= _) = _
  rw [(blank_spaces n).skip, hp.skip, h]
  rfl

lemma readMembers_last (hl : l.Legible) (hp : Begins p) (hb : Blank bs)
    (h : readValue fuel (p ++ (bs ++ '\x7d' :: rest)) = .ok (x, bs ++ '\x7d' :: rest)) :
    readMembers (fuel + 1) (l.memberText (k, p) ++ (bs ++ '\x7d' :: rest)) = .ok ([(k, x)], rest) := by
  rw [readMembers_member hl hp h, hb.skip]
  rfl

lemma readMembers_next {q : List Char} (hl : l.Legible) (hp : Begins p) (hb : Blank bs) (hq : Begins q)
    (h : readValue fuel (p ++ (',' :: (bs ++ (q ++ t)))) = .ok (x, ',' :: (bs ++ (q ++ t))))
    (hrest : readMembers fuel (q ++ t) = .ok (ms, rest)) :
    readMembers (fuel + 1) (l.memberText (k, p) ++ (',' :: (bs ++ (q ++ t)))) = .ok ((k, x) :: ms, rest) := by
  rw [readMembers_member hl hp h]
  change (readMembers fuel (skip (bs ++ (q ++ t))) >>= fun y => .ok ((k, x) :: y.1, y.2)) = _
  rw [hb.skip, hq.skip, hrest]
  rfl

end Read

variable {l : Layout}

lemma chars_list {depth : ℕ} {items : List Json} {cs : List Char} (h : l.chars depth (.arr items) = .ok cs) :
    ∃ parts, l.itemChars (depth + 1) items = .ok parts ∧ cs = l.enclose depth '[' ']' parts := by
  rw [Layout.chars, bind_eq_ok] at h
  obtain ⟨parts, hparts, hcs⟩ := h
  cases hcs
  exact ⟨parts, hparts, rfl⟩

lemma chars_object (hl : l.Legible) {depth : ℕ} {members : List (String × Json)} {cs : List Char}
    (h : l.chars depth (.obj members) = .ok cs) :
    ∃ parts, l.memberChars (depth + 1) members = .ok parts ∧
      cs = l.enclose depth '\x7b' '\x7d' (parts.map l.memberText) := by
  rw [Layout.chars, bind_eq_ok] at h
  obtain ⟨parts, hparts, hcs⟩ := h
  rw [hl.unsorted] at hcs
  cases hcs
  exact ⟨parts, hparts, rfl⟩

lemma begins_signed (negative : Bool) {c : Char} (hc : c.isDigit = true) (cs : List Char) :
    Begins (signed negative (c :: cs)) := by
  cases negative with
  | true => exact ⟨'-', _, rfl, rfl, by decide⟩
  | false => exact begins_digit hc cs

lemma Leading.head {whole : List Char} (h : Binary64.Leading whole) :
    ∃ c cs, whole = c :: cs ∧ c.isDigit = true := by
  rcases h with rfl | ⟨hd, c, cs, rfl, -⟩
  · exact ⟨'0', [], rfl, rfl⟩
  · exact ⟨c, cs, rfl, hd c List.mem_cons_self⟩

lemma intChars_head {n : ℤ} {cs : List Char} (h : intChars n = .ok cs) :
    ∃ negative c ds, cs = signed negative (c :: ds) ∧ c.isDigit = true := by
  obtain ⟨c, ds, hds, hc⟩ := Leading.head (leading_toDigits n.natAbs)
  exact ⟨_, c, ds, by rw [← hds]; exact (intChars_signed h).1, hc⟩

lemma text_head {s : Bool} {m : ℕ} {e : ℤ} (h : (Binary64.finite s m e).Valid) :
    ∃ negative c ds, (Binary64.finite s m e).text.toList = signed negative (c :: ds) ∧ c.isDigit = true := by
  obtain ⟨whole, part, exponent, htext, hw, -⟩ := exists_laid h
  obtain ⟨c, ds, rfl, hc⟩ := Leading.head hw
  exact ⟨s, c, _, htext, hc⟩

lemma begins_enclose (l : Layout) (depth : ℕ) {opening : Char}
    (h : isSpace opening = false ∧ opening ≠ ']' ∧ opening ≠ '\uFEFF') (closing : Char) (parts : List (List Char)) :
    Begins (l.enclose depth opening closing parts) := by
  cases parts <;> exact ⟨opening, _, rfl, h⟩

lemma begins_chars {depth : ℕ} {data : Json} {cs : List Char} (hd : data.Faithful)
    (h : l.chars depth data = .ok cs) : Begins cs := by
  cases data with
  | null =>
    cases h
    exact ⟨'n', _, rfl, rfl, by decide⟩
  | bool b =>
    cases h
    cases b
    · exact ⟨'f', _, rfl, rfl, by decide⟩
    · exact ⟨'t', _, rfl, rfl, by decide⟩
  | int n =>
    obtain ⟨negative, c, ds, rfl, hc⟩ := intChars_head h
    exact begins_signed negative hc ds
  | float x =>
    cases h
    cases x with
    | nan => exact ⟨'N', _, rfl, rfl, by decide⟩
    | infinity s =>
      cases s
      · exact ⟨'I', _, rfl, rfl, by decide⟩
      · exact ⟨'-', _, rfl, rfl, by decide⟩
    | finite s m e =>
      obtain ⟨negative, c, ds, htext, hc⟩ := text_head (s := s) hd
      change Begins (Binary64.finite s m e).text.toList
      rw [htext]
      exact begins_signed negative hc ds
  | str s =>
    cases h
    exact ⟨'"', _, rfl, rfl, by decide⟩
  | arr items =>
    obtain ⟨parts, -, rfl⟩ := chars_list h
    exact begins_enclose l depth (by decide) _ _
  | obj members =>
    rw [Layout.chars, bind_eq_ok] at h
    obtain ⟨parts, -, hcs⟩ := h
    cases hcs
    exact begins_enclose l depth (by decide) _ _

lemma itemChars_cons {depth : ℕ} {x : Json} {xs : List Json} {parts : List (List Char)}
    (h : l.itemChars depth (x :: xs) = .ok parts) :
    ∃ p ps, parts = p :: ps ∧ l.chars depth x = .ok p ∧ l.itemChars depth xs = .ok ps := by
  rw [Layout.itemChars, bind_eq_ok] at h
  obtain ⟨p, hp, h⟩ := h
  rw [bind_eq_ok] at h
  obtain ⟨ps, hps, h⟩ := h
  cases h
  exact ⟨p, ps, rfl, hp, hps⟩

lemma memberChars_cons {depth : ℕ} {k : String} {x : Json} {xs : List (String × Json)}
    {parts : List (String × List Char)} (h : l.memberChars depth ((k, x) :: xs) = .ok parts) :
    ∃ p ps, parts = (k, p) :: ps ∧ l.chars depth x = .ok p ∧ l.memberChars depth xs = .ok ps := by
  rw [Layout.memberChars, bind_eq_ok] at h
  obtain ⟨p, hp, h⟩ := h
  rw [bind_eq_ok] at h
  obtain ⟨ps, hps, h⟩ := h
  cases h
  exact ⟨p, ps, rfl, hp, hps⟩

lemma length_trail_cons (hl : l.Legible) (depth : ℕ) (p : List Char) (ps : List (List Char)) (closing : Char) :
    p.length + (l.trail depth ps closing []).length + 1 ≤ (l.trail depth (p :: ps) closing []).length := by
  obtain ⟨bs, -, htrail⟩ := hl.trail_cons depth p ps closing []
  rw [htrail]
  simp only [List.length_cons, List.length_append]
  omega

lemma length_trail_pos (l : Layout) (depth : ℕ) (ps : List (List Char)) (closing : Char) :
    0 < (l.trail depth ps closing []).length := by
  simp [Layout.trail]

lemma length_enclose (l : Layout) (depth : ℕ) (opening closing : Char) (p : List Char) (ps : List (List Char)) :
    p.length + (l.trail depth ps closing []).length + 1 ≤ (l.enclose depth opening closing (p :: ps)).length := by
  have := l.enclose_cons depth opening closing p ps []
  rw [List.append_nil] at this
  rw [this]
  simp only [List.length_cons, List.length_append]
  omega

lemma readValue_digits {c : Char} (hc : c.isDigit = true) (negative : Bool) (ds : List Char) {rest : List Char}
    {fuel : ℕ} (hf : 2 * (signed negative (c :: ds)).length ≤ fuel) :
    readValue fuel (signed negative (c :: ds) ++ rest) = readNumber (signed negative (c :: ds) ++ rest) := by
  have happend : signed negative (c :: ds) ++ rest = signed negative (c :: (ds ++ rest)) := by
    cases negative <;> rfl
  obtain ⟨fuel, rfl⟩ : ∃ k, fuel = k + 1 := ⟨fuel - 1, by cases negative <;> simp [signed] at hf <;> omega⟩
  rw [happend]
  exact readValue_number hc negative _

lemma begins_items {depth : ℕ} {items : List Json} {p : List Char} {ps : List (List Char)}
    (hd : FaithfulItems items) (h : l.itemChars depth items = .ok (p :: ps)) : Begins p := by
  cases items with
  | nil => cases h
  | cons x xs =>
    obtain ⟨_, _, heq, hp, -⟩ := itemChars_cons h
    obtain ⟨rfl, rfl⟩ := List.cons.inj heq
    exact begins_chars hd.1 hp

mutual

lemma readValue_chars (hl : l.Legible) {depth : ℕ} {cs : List Char} : (data : Json) → data.Faithful →
    l.chars depth data = .ok cs → ∀ {rest : List Char} {fuel : ℕ}, Stops rest →
      2 * cs.length ≤ fuel → readValue fuel (cs ++ rest) = .ok (data, rest)
  | .null, _, h, rest, fuel, _, hf => by
    cases h
    obtain ⟨fuel, rfl⟩ : ∃ k, fuel = k + 1 := ⟨fuel - 1, by simp at hf; omega⟩
    exact readValue_plain (by decide)
  | .bool b, _, h, rest, fuel, _, hf => by
    cases h
    obtain ⟨fuel, rfl⟩ : ∃ k, fuel = k + 1 := ⟨fuel - 1, by cases b <;> simp at hf <;> omega⟩
    cases b
    · exact readValue_plain (by decide)
    · exact readValue_plain (by decide)
  | .int n, _, h, rest, fuel, hr, hf => by
    have hread := readNumber_intChars h hr
    obtain ⟨negative, c, ds, rfl, hc⟩ := intChars_head h
    exact (readValue_digits hc negative ds hf).trans hread
  | .float .nan, _, h, rest, fuel, _, hf => by
    cases h
    obtain ⟨fuel, rfl⟩ : ∃ k, fuel = k + 1 := ⟨fuel - 1, by simp [floatText] at hf; omega⟩
    exact readValue_plain (by decide)
  | .float (.infinity negative), _, h, rest, fuel, _, hf => by
    cases h
    obtain ⟨fuel, rfl⟩ : ∃ k, fuel = k + 1 := ⟨fuel - 1, by cases negative <;> simp [floatText] at hf <;> omega⟩
    cases negative
    · exact readValue_plain (by decide)
    · exact readValue_plain (by decide)
  | .float (.finite s m e), hd, h, rest, fuel, hr, hf => by
    cases h
    have hread := readNumber_text (s := s) hd hr
    obtain ⟨negative, c, ds, htext, hc⟩ := text_head (s := s) hd
    change 2 * (Binary64.finite s m e).text.toList.length ≤ fuel at hf
    change readValue fuel ((Binary64.finite s m e).text.toList ++ rest) = _
    rw [htext] at hread hf ⊢
    exact (readValue_digits hc negative ds hf).trans hread
  | .str s, _, h, rest, fuel, _, hf => by
    cases h
    obtain ⟨fuel, rfl⟩ : ∃ k, fuel = k + 1 := ⟨fuel - 1, by simp [stringChars] at hf; omega⟩
    exact readValue_string l.ascii s fuel rest
  | .arr items, hd, h, rest, fuel, _, hf => by
    obtain ⟨parts, hparts, rfl⟩ := chars_list h
    obtain ⟨fuel, rfl⟩ : ∃ k, fuel = k + 1 := ⟨fuel - 1, by cases parts <;> simp [Layout.enclose] at hf <;> omega⟩
    cases parts with
    | nil =>
      cases items with
      | nil => rfl
      | cons x xs =>
        obtain ⟨p, ps, hnil, -, -⟩ := itemChars_cons hparts
        cases hnil
    | cons p ps =>
      have hlen := length_enclose l depth '[' ']' p ps
      rw [l.enclose_cons]
      exact readValue_list (l.blank_line _) (begins_items hd hparts)
        (readItems_chars hl items hd hparts (by omega))
  | .obj members, ⟨hkeys, hd⟩, h, rest, fuel, _, hf => by
    obtain ⟨parts, hparts, rfl⟩ := chars_object hl h
    obtain ⟨fuel, rfl⟩ : ∃ k, fuel = k + 1 := ⟨fuel - 1, by cases parts <;> simp [Layout.enclose] at hf <;> omega⟩
    cases parts with
    | nil =>
      cases members with
      | nil => rfl
      | cons x xs =>
        obtain ⟨p, ps, hnil, -, -⟩ := memberChars_cons hparts
        cases hnil
    | cons m ms =>
      have hlen := length_enclose l depth '\x7b' '\x7d' (l.memberText m) (ms.map l.memberText)
      rw [List.map_cons] at hf
      rw [List.map_cons, l.enclose_cons, readValue_object (l.blank_line _) (begins_memberText l m) rfl
        (readMembers_chars hl members hd hparts (by omega)), merge_eq hkeys]

lemma readItems_chars (hl : l.Legible) {depth : ℕ} {p : List Char} {ps : List (List Char)} : (items : List Json) →
    FaithfulItems items → l.itemChars (depth + 1) items = .ok (p :: ps) →
      ∀ {rest : List Char} {fuel : ℕ}, 2 * (p.length + (l.trail depth ps ']' []).length) ≤ fuel →
        readItems fuel (p ++ l.trail depth ps ']' rest) = .ok (items, rest)
  | [], _, h, _, _, _ => by cases h
  | x :: xs, ⟨hx, hxs⟩, h, rest, fuel, hf => by
    obtain ⟨_, _, heq, hp, hps⟩ := itemChars_cons h
    obtain ⟨rfl, rfl⟩ := List.cons.inj heq
    have hpos := length_trail_pos l depth ps ']'
    obtain ⟨fuel, rfl⟩ : ∃ k, fuel = k + 1 := ⟨fuel - 1, by omega⟩
    have hvalue : readValue fuel (p ++ l.trail depth ps ']' rest) = .ok (x, l.trail depth ps ']' rest) :=
      readValue_chars hl x hx hp (l.stops_trail depth hl ps (.inl rfl) rest) (by omega)
    cases ps with
    | nil =>
      cases xs with
      | nil => exact readItems_last (l.blank_line depth) hvalue
      | cons y ys =>
        obtain ⟨q, qs, hnil, -, -⟩ := itemChars_cons hps
        cases hnil
    | cons q qs =>
      have hlen := length_trail_cons hl depth q qs ']'
      obtain ⟨bs, hb, htrail⟩ := hl.trail_cons depth q qs ']' rest
      rw [htrail] at hvalue ⊢
      exact readItems_next hb (begins_items hxs hps) hvalue (readItems_chars hl xs hxs hps (by omega))

lemma readMembers_chars (hl : l.Legible) {depth : ℕ} {m : String × List Char} {ms : List (String × List Char)} :
    (members : List (String × Json)) → FaithfulMembers members →
      l.memberChars (depth + 1) members = .ok (m :: ms) → ∀ {rest : List Char} {fuel : ℕ},
        2 * ((l.memberText m).length + (l.trail depth (ms.map l.memberText) '\x7d' []).length) ≤ fuel →
          readMembers fuel (l.memberText m ++ l.trail depth (ms.map l.memberText) '\x7d' rest) =
            .ok (members, rest)
  | [], _, h, _, _, _ => by cases h
  | (k, x) :: xs, ⟨hx, hxs⟩, h, rest, fuel, hf => by
    obtain ⟨p, _, heq, hp, hps⟩ := memberChars_cons h
    obtain ⟨rfl, rfl⟩ := List.cons.inj heq
    have hpos := length_trail_pos l depth (ms.map l.memberText) '\x7d'
    have hlen : p.length ≤ (l.memberText (k, p)).length := by
      simp only [Layout.memberText, List.length_append]
      omega
    obtain ⟨fuel, rfl⟩ : ∃ k, fuel = k + 1 := ⟨fuel - 1, by omega⟩
    have hvalue : readValue fuel (p ++ l.trail depth (ms.map l.memberText) '\x7d' rest) =
        .ok (x, l.trail depth (ms.map l.memberText) '\x7d' rest) :=
      readValue_chars hl x hx hp (l.stops_trail depth hl (ms.map l.memberText) (.inr rfl) rest) (by omega)
    cases ms with
    | nil =>
      cases xs with
      | nil => exact readMembers_last hl (begins_chars hx hp) (l.blank_line depth) hvalue
      | cons y ys =>
        obtain ⟨q, qs, hnil, -, -⟩ := memberChars_cons hps
        cases hnil
    | cons m' ms =>
      have hlen := length_trail_cons hl depth (l.memberText m') (ms.map l.memberText) '\x7d'
      obtain ⟨bs, hb, htrail⟩ := hl.trail_cons depth (l.memberText m') (ms.map l.memberText) '\x7d' rest
      rw [List.map_cons] at hf hvalue ⊢
      rw [htrail] at hvalue ⊢
      exact readMembers_next hl (begins_chars hx hp) hb (begins_memberText l m') hvalue
        (readMembers_chars hl xs hxs hps (by omega))

end

/-- Data are read back from their text. -/
theorem parse_print_legible (hl : l.Legible) {data : Json} (hd : data.Faithful) {text : String}
    (h : print l data = .ok text) : parse text = .ok data := by
  have hcs := chars_of_print h
  have hbegins := begins_chars hd hcs
  have hread : readValue (2 * text.toList.length + 2) text.toList = .ok (data, []) := by
    have hwhole : readValue (2 * text.toList.length + 2) (text.toList ++ []) = .ok (data, []) :=
      readValue_chars hl data hd hcs (by rintro _ ⟨⟩) (by omega)
    rwa [List.append_nil] at hwhole
  have hskip := hbegins.skip []
  rw [List.append_nil] at hskip
  have htext : readText text.toList = .ok data := by
    unfold readText
    split
    · rename_i heq
      obtain ⟨c, _, hc, -, -, hmark⟩ := hbegins
      exact absurd (List.cons.inj (hc.symm.trans heq)).1 hmark
    · rw [hskip, hread]
      rfl
  rw [parse, htext]
  rfl

/-- Data are read back from their compact text. -/
theorem parse_print {data : Json} (hd : data.Faithful) {line : String} (h : print compact data = .ok line) :
    parse line = .ok data := parse_print_legible Layout.legible_compact hd h

end CallSnapshot.Json
