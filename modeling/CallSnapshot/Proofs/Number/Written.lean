import CallSnapshot.Proofs.Text.Hex

/-! Decimal texts read back as the digits and the exponent that they were made of. -/

namespace CallSnapshot

open Nat (ofDigitChars toDigits)

open Text (Digits Ascii)

namespace Numeral

def charValue (c : Char) : ℕ := c.toNat - '0'.toNat

lemma ofDigits_charValue (cs : List Char) : ofDigits 10 (cs.map charValue) = ofDigitChars 10 cs 0 := by
  rw [ofDigits, List.foldl_map]
  rfl

/-- What may follow the digits of a decimal: nothing, or an exponent. -/
def Tail (tail : List Char) : Prop := ∀ c, tail.head? = some c → c = 'e' ∨ c = 'E'

lemma Tail.no_digit {tail : List Char} (h : Tail tail) :
    tail.takeWhile Char.isDigit = [] ∧ tail.dropWhile Char.isDigit = tail := by
  cases tail with
  | nil => exact ⟨rfl, rfl⟩
  | cons c tail => rcases h c rfl with rfl | rfl <;> exact ⟨rfl, rfl⟩

lemma takeWhile_digits {ds tail : List Char} (hd : Digits ds)
    (h : tail.takeWhile Char.isDigit = []) : (ds ++ tail).takeWhile Char.isDigit = ds := by
  rw [List.takeWhile_append_of_pos hd, h, List.append_nil]

lemma dropWhile_digits {ds tail : List Char} (hd : Digits ds)
    (h : tail.dropWhile Char.isDigit = tail) : (ds ++ tail).dropWhile Char.isDigit = tail := by
  rw [List.dropWhile_append_of_pos hd, h]

lemma readDecimalParts_whole {ds t : List Char} (hd : Digits ds) (hne : ds ≠ []) (ht : Tail t) :
    readDecimalParts (ds ++ t) = (readExponent t).map fun e => (ds.map charValue, e) := by
  have htake := takeWhile_digits hd ht.no_digit.1
  have hdrop := dropWhile_digits hd ht.no_digit.2
  have hempty : ds.isEmpty = false := by simpa using hne
  simp only [readDecimalParts, htake, hdrop]
  split
  · rcases ht '.' rfl with h | h <;> simp at h
  · simp [hempty]
    rfl

lemma readDecimalParts_point {ds part t : List Char} (hd : Digits ds) (hne : ds ≠ [])
    (hp : Digits part) (ht : Tail t) :
    readDecimalParts (ds ++ '.' :: (part ++ t)) =
      (readExponent t).map fun e => ((ds ++ part).map charValue, e - (part.length : ℤ)) := by
  have htake : (ds ++ '.' :: (part ++ t)).takeWhile Char.isDigit = ds := takeWhile_digits hd rfl
  have hdrop : (ds ++ '.' :: (part ++ t)).dropWhile Char.isDigit = '.' :: (part ++ t) :=
    dropWhile_digits hd rfl
  have htake' := takeWhile_digits hp ht.no_digit.1
  have hdrop' := dropWhile_digits hp ht.no_digit.2
  have hempty : ds.isEmpty = false := by simpa using hne
  simp only [readDecimalParts, htake, hdrop, htake', hdrop', hempty, Bool.false_and,
    Bool.false_eq_true, if_false]
  rfl

lemma readExponent_nil : readExponent [] = some 0 := rfl

lemma readExponent_signed {mark : Char} (hm : mark = 'e' ∨ mark = 'E') {ds : List Char} (hd : Digits ds)
    (hne : ds ≠ []) (negative : Bool) :
    readExponent (mark :: (if negative then '-' else '+') :: ds) =
      some (if negative then -(ofDigitChars 10 ds 0 : ℤ) else ofDigitChars 10 ds 0) := by
  have hmark : (mark == 'e' || mark == 'E') = true := by rcases hm with rfl | rfl <;> rfl
  have hall : ds.all Char.isDigit = true := List.all_eq_true.mpr hd
  have hempty : ds.isEmpty = false := by simpa using hne
  have hvalue : ofDigits 10 (ds.map fun c => c.toNat - '0'.toNat) = ofDigitChars 10 ds 0 :=
    ofDigits_charValue ds
  cases negative <;>
    simp only [readExponent, hmark, if_true, if_false, Bool.false_eq_true, splitSign, hall, hempty,
      Bool.not_true, Bool.or_false, hvalue]

/-- The characters of number texts: digits, signs, marks and the letters of the names. -/
def Written (cs : List Char) : Prop :=
  ∀ c ∈ cs, c.isDigit = true ∨ c ∈ ['-', '+', '.', 'e', 'E', 'I', 'n', 'f', 'i', 't', 'y', 'N', 'a', 's']

lemma Written.char {cs : List Char} (h : Written cs) {c : Char} (hc : c ∈ cs) :
    c.toNat < 128 ∧ Text.isBlank c = false ∧ Text.isAsciiBlank c = false ∧ c ≠ '_' := by
  have marks : ∀ d ∈ ['-', '+', '.', 'e', 'E', 'I', 'n', 'f', 'i', 't', 'y', 'N', 'a', 's'],
      d.toNat < 128 ∧ Text.isBlank d = false ∧ Text.isAsciiBlank d = false ∧ d ≠ '_' := by
    simp only [List.forall_mem_cons, List.not_mem_nil, IsEmpty.forall_iff, implies_true]
    decide
  rcases h c hc with hd | hd
  · exact Text.forall_isDigit (P := fun c => c.toNat < 128 ∧ Text.isBlank c = false ∧
      Text.isAsciiBlank c = false ∧ c ≠ '_') (by decide) hd
  · exact marks c hd

lemma Written.digits {cs : List Char} (h : Digits cs) : Written cs := fun c hc => .inl (h c hc)

lemma Written.append {cs ds : List Char} (hc : Written cs) (hd : Written ds) : Written (cs ++ ds) := by
  intro c h
  rcases List.mem_append.mp h with h | h
  · exact hc c h
  · exact hd c h

lemma Written.trim {cs : List Char} (h : Written cs) : Text.trim (String.ofList cs) = String.ofList cs := by
  have hblank : ∀ c ∈ cs, Text.isBlank c = false := fun c hc => (h.char hc).2.1
  rw [Text.trim, String.toList_ofList, Text.trimChars, Text.trimLeft, Text.trimRight,
    Uuid.dropWhile_absent hblank, Uuid.dropWhile_absent (by simpa using hblank), List.reverse_reverse]

lemma Written.toNumeral {cs : List Char} (h : Written cs) : Text.toNumeral (String.ofList cs) = cs :=
  Uuid.toNumeral_ascii fun _ hc => (h.char hc).1

end Numeral

namespace Decimal

open Numeral

lemma plain_ofList {cs : List Char} (h : Written cs) : plain (String.ofList cs) = cs := by
  rw [plain, h.trim, h.toNumeral, List.filter_eq_self]
  exact fun c hc => by simpa using (h.char hc).2.2.2

lemma digits_split (digits k : ℕ) :
    ∃ whole part, Iso.digits (k + 1) digits = whole ++ part ∧ whole ≠ [] ∧ part.length = k ∧
      Digits whole ∧ Digits part ∧ ofDigitChars 10 (whole ++ part) 0 = digits := by
  have hlen : k < (Iso.digits (k + 1) digits).length := by
    simp only [Iso.digits_eq, List.length_append, List.length_replicate]
    omega
  have hdigits := Iso.digits_digits (k + 1) digits
  have hvalue := Iso.ofDigitChars_digits (k + 1) digits
  set ds := Iso.digits (k + 1) digits
  refine ⟨ds.take (ds.length - k), ds.drop (ds.length - k), (List.take_append_drop _ _).symm,
    ?_, ?_, fun c hc => hdigits c (List.mem_of_mem_take hc),
    fun c hc => hdigits c (List.mem_of_mem_drop hc), ?_⟩
  · rw [Ne, List.take_eq_nil_iff]
    rintro (h | h)
    · omega
    · simp [h] at hlen
  · rw [List.length_drop]
    omega
  · rw [List.take_append_drop, hvalue]

/-- What is shown of a finite number: digits with a point or an exponent. -/
structure Shown (cs : List Char) (digits : ℕ) (exponent : ℤ) : Prop where
  head : ∃ c rest, cs = c :: rest ∧ c.isDigit = true
  written : Written cs
  parts : ∃ ns, readDecimalParts cs = some (ns, exponent) ∧ ofDigits 10 ns = digits

lemma shown_whole (digits : ℕ) : Shown (toDigits 10 digits) digits 0 := by
  have hd := Text.digits_toDigits digits
  have hne : toDigits 10 digits ≠ [] := Nat.toDigits_ne_nil
  have hread := readDecimalParts_whole (t := []) hd hne (by simp [Tail])
  rw [List.append_nil, readExponent_nil] at hread
  obtain ⟨c, rest, hc⟩ := List.exists_cons_of_ne_nil hne
  refine ⟨⟨c, rest, hc, hd c (by simp [hc])⟩, .digits hd, _, hread, ?_⟩
  rw [ofDigits_charValue, Nat.ofDigitChars_ten_toDigits]

lemma Shown.of_whole {w rest : List Char} {digits : ℕ} {exponent : ℤ} (hw : Digits w)
    (hne : w ≠ []) (hr : Written rest)
    (hp : ∃ ns, readDecimalParts (w ++ rest) = some (ns, exponent) ∧ ofDigits 10 ns = digits) :
    Shown (w ++ rest) digits exponent := by
  obtain ⟨c, cs, rfl⟩ := List.exists_cons_of_ne_nil hne
  exact ⟨⟨c, cs ++ rest, rfl, hw c List.mem_cons_self⟩, (Written.digits hw).append hr, hp⟩

lemma written_point {part : List Char} (h : Written part) : Written ('.' :: part) := by
  intro c hc
  rcases List.mem_cons.mp hc with rfl | hc
  · exact .inr (by simp)
  · exact h c hc

lemma shown_point (digits k : ℕ) :
    Shown ((Iso.digits (k + 1) digits).take ((Iso.digits (k + 1) digits).length - k) ++
      '.' :: (Iso.digits (k + 1) digits).drop ((Iso.digits (k + 1) digits).length - k))
      digits (-(k : ℤ)) := by
  obtain ⟨whole, part, heq, hne, hlen, hw, hp, hvalue⟩ := digits_split digits k
  have hk : (whole ++ part).length - k = whole.length := by
    rw [List.length_append, hlen]
    omega
  rw [heq, hk, List.take_left, List.drop_left]
  refine .of_whole hw hne (written_point (.digits hp)) ?_
  have hread := readDecimalParts_point (t := []) hw hne hp (by simp [Tail])
  rw [List.append_nil, readExponent_nil] at hread
  refine ⟨(whole ++ part).map charValue, hread.trans (by simp [hlen]), ?_⟩
  rw [ofDigits_charValue, hvalue]

/-- Digits behind a point, where there are any. -/
def fraction : List Char → List Char
  | [] => []
  | c :: rest => '.' :: c :: rest

lemma shown_exponent {mark : Char} (hm : mark = 'e' ∨ mark = 'E') {c : Char} {rest ds : List Char}
    {e : ℤ} {digits : ℕ} (hd : Digits (c :: rest)) (hvalue : ofDigitChars 10 (c :: rest) 0 = digits)
    (hds : Digits ds) (hne : ds ≠ []) (he : ofDigitChars 10 ds 0 = e.natAbs) :
    Shown (c :: fraction rest ++ mark :: (if e < 0 then '-' else '+') :: ds) digits
      (e - (rest.length : ℤ)) := by
  have hexp := readExponent_signed hm hds hne (decide (e < 0))
  have hvalue' : (if e < 0 then -((e.natAbs : ℕ) : ℤ) else (e.natAbs : ℕ)) = e := by
    split <;> omega
  have htail : Tail (mark :: (if e < 0 then '-' else '+') :: ds) := by
    intro c hc
    obtain rfl := Option.some.inj hc
    exact hm
  simp only [decide_eq_true_eq] at hexp
  rw [he, hvalue'] at hexp
  have hwritten : Written (mark :: (if e < 0 then '-' else '+') :: ds) := by
    intro c hc
    rcases List.mem_cons.mp hc with rfl | hc
    · rcases hm with rfl | rfl <;> exact .inr (by simp)
    · rcases List.mem_cons.mp hc with rfl | hc
      · split <;> exact .inr (by simp)
      · exact .inl (hds c hc)
  have hc : Digits [c] := fun d hdc => hd d (by simp_all)
  cases rest with
  | nil =>
    refine .of_whole (w := [c]) hc (by simp) hwritten ?_
    have hread := readDecimalParts_whole hc (by simp) htail
    rw [hexp] at hread
    exact ⟨[c].map charValue, hread.trans (by simp), by rw [ofDigits_charValue, hvalue]⟩
  | cons d rest =>
    have hrest : Digits (d :: rest) := fun x hx => hd x (List.mem_cons_of_mem _ hx)
    refine .of_whole (w := [c]) hc (by simp)
      (written_point ((Written.digits hrest).append hwritten)) ?_
    have hread := readDecimalParts_point hc (by simp) hrest htail
    rw [hexp] at hread
    exact ⟨_, hread, by rw [ofDigits_charValue]; exact hvalue⟩

lemma shown_finiteText (digits : ℕ) (e : ℤ) : Shown (finiteText digits e).toList digits e := by
  by_cases hpos : (e ≤ 0 && -6 ≤ leading digits e) = true
  · by_cases he : e = 0
    · subst he
      have htext : (finiteText digits 0).toList = toDigits 10 digits := by
        simp only [finiteText, if_pos hpos]
        simp
      rw [htext]
      exact shown_whole digits
    · have hk : e = -((-e).toNat : ℤ) := by
        have : e ≤ 0 := by simpa using (Bool.and_eq_true_iff.mp hpos).1
        omega
      have hpoint := shown_point digits (-e).toNat
      rw [← hk] at hpoint
      have hne : (e == 0) = false := by simpa using he
      simp only [finiteText, if_pos hpos, hne, Bool.false_eq_true, if_false, String.toList_ofList]
      exact hpoint
  · obtain ⟨c, rest, hc⟩ := List.exists_cons_of_ne_nil (Nat.toDigits_ne_nil (n := digits) (b := 10))
    have hdigits : Digits (c :: rest) := hc ▸ Text.digits_toDigits digits
    have hvalue : ofDigitChars 10 (c :: rest) 0 = digits := by
      rw [← hc, Nat.ofDigitChars_ten_toDigits]
    have hshown := shown_exponent (.inr rfl) hdigits hvalue
      (Text.digits_toDigits (leading digits e).natAbs) Nat.toDigits_ne_nil
      (e := leading digits e) Nat.ofDigitChars_ten_toDigits
    have hcount : digitCount digits = rest.length + 1 := by
      rw [digitCount, ← String.length_toList, Nat.toList_repr, hc, List.length_cons]
    have hexp : leading digits e - (rest.length : ℤ) = e := by
      rw [leading, hcount]
      push_cast
      ring
    rw [hexp] at hshown
    have htext : (finiteText digits e).toList = c :: fraction rest ++
        'E' :: (if leading digits e < 0 then '-' else '+') ::
          toDigits 10 (leading digits e).natAbs := by
      simp only [finiteText, if_neg hpos, Nat.toList_repr, hc, String.toList_append,
        String.toList_ofList]
      cases rest <;> by_cases hneg : leading digits e < 0 <;> simp [fraction, hneg]
    rw [htext]
    exact hshown

lemma lowered_digit {c : Char} (hc : c.isDigit = true) : c.toLower = c :=
  Text.forall_isDigit (P := fun c => c.toLower = c) (by decide) hc

lemma lowered_head {c : Char} {r : List Char} (hc : c.isDigit = true) :
    (lowered (c :: r)).toList = c :: r.map Char.toLower := by
  simp [lowered, lowered_digit hc]

lemma digit_ne {c d : Char} (hc : c.isDigit = true) (hd : d.isDigit = false) : c ≠ d := by
  rintro rfl
  rw [hc] at hd
  cases hd

lemma splitSign_sign (s : Bool) {c : Char} {r : List Char} (hm : c ≠ '-') (hp : c ≠ '+') :
    splitSign ((signText s).toList ++ c :: r) = (s, c :: r) := by
  cases s <;> simp [signText, splitSign, hm, hp]

lemma written_sign (s : Bool) : Written (signText s).toList := by
  intro c hc
  cases s <;> simp_all [signText]

lemma parse?_finite {s : Bool} {digits : ℕ} {e : ℤ} {cs : List Char} (h : Shown cs digits e)
    (hv : (Decimal.finite s digits e).Valid) :
    parse? (String.ofList ((signText s).toList ++ cs)) = some (.finite s digits e) := by
  obtain ⟨⟨c, rest, rfl, hc⟩, hwritten, ns, hread, hvalue⟩ := h
  have hplain := plain_ofList ((written_sign s).append hwritten)
  have hsign := splitSign_sign s (r := rest) (digit_ne hc rfl) (digit_ne hc rfl)
  have hlow := lowered_head (r := rest) hc
  have hname : ∀ name : String, name.toList.head? = some 'i' → (lowered (c :: rest) == name) = false := by
    intro name hname
    rw [beq_eq_false_iff_ne]
    rintro rfl
    rw [hlow] at hname
    exact digit_ne hc rfl (Option.some.inj hname)
  simp only [parse?, hplain, hsign, hname "inf" rfl, hname "infinity" rfl, hlow, Bool.or_self,
    Bool.false_eq_true, if_false]
  split
  · rename_i heq
    exact absurd (List.cons.inj heq).1 (digit_ne hc rfl)
  · rename_i heq
    exact absurd (List.cons.inj heq).1 (digit_ne hc rfl)
  · rw [hread]
    simp only [hvalue]
    exact hv

lemma lowered_digits {cs : List Char} (h : Digits cs) : cs.map Char.toLower = cs := by
  conv_rhs => rw [← List.map_id cs]
  exact List.map_congr_left fun c hc => lowered_digit (h c hc)

lemma payload?_digits {cs : List Char} (h : Digits cs) :
    payload? cs = some (ofDigitChars 10 cs 0) := by
  rw [payload?, if_pos (List.all_eq_true.mpr h)]
  exact congrArg some (ofDigits_charValue cs)

def payloadChars (payload : ℕ) : List Char := if payload = 0 then [] else toDigits 10 payload

lemma payloadChars_digits (payload : ℕ) : Digits (payloadChars payload) := by
  unfold payloadChars
  split
  · simp [Digits]
  · exact Text.digits_toDigits payload

lemma payloadChars_value (payload : ℕ) : ofDigitChars 10 (payloadChars payload) 0 = payload := by
  unfold payloadChars
  split
  · simp_all
  · exact Nat.ofDigitChars_ten_toDigits

lemma text_nan (s q : Bool) (payload : ℕ) :
    (Decimal.nan s q payload).text = String.ofList ((signText s).toList ++
      ((if q then ['s', 'N', 'a', 'N'] else ['N', 'a', 'N']) ++ payloadChars payload)) := by
  rw [← String.toList_inj, String.toList_ofList]
  cases q <;> by_cases h : payload = 0 <;>
    simp [text, payloadChars, h, String.toList_append]

lemma parse?_nan (s q : Bool) (payload : ℕ) :
    parse? (Decimal.nan s q payload).text = some (.nan s q payload) := by
  have hdigits := payloadChars_digits payload
  have hname : Written (if q then ['s', 'N', 'a', 'N'] else ['N', 'a', 'N']) := by
    intro c hc
    cases q <;> simp only [if_true, if_false, Bool.false_eq_true] at hc <;> simp at hc ⊢ <;> tauto
  have hpayload := payload?_digits hdigits
  rw [payloadChars_value] at hpayload
  rw [text_nan, parse?, plain_ofList ((written_sign s).append (hname.append (.digits hdigits)))]
  have hlow : ∀ cs : List Char, lowered (cs ++ payloadChars payload) =
      String.ofList (cs.map Char.toLower ++ payloadChars payload) := by
    intro cs
    rw [lowered, List.map_append, lowered_digits hdigits]
  have hne : ∀ (cs : List Char) (name : String), cs.head? ≠ name.toList.head? →
      (String.ofList cs == name) = false := by
    rintro cs name h
    rw [beq_eq_false_iff_ne]
    rintro rfl
    simp at h
  cases q with
  | true =>
    have hsign := splitSign_sign s (c := 's') (r := 'N' :: 'a' :: 'N' :: payloadChars payload)
      (by decide) (by decide)
    have hl : lowered ('s' :: 'N' :: 'a' :: 'N' :: payloadChars payload) =
        String.ofList ('s' :: 'n' :: 'a' :: 'n' :: payloadChars payload) := hlow ['s', 'N', 'a', 'N']
    simp only [if_true, List.cons_append, List.nil_append, hsign, hl]
    rw [hne _ "inf" (by simp), hne _ "infinity" (by simp)]
    simp [hpayload]
  | false =>
    have hsign := splitSign_sign s (c := 'N') (r := 'a' :: 'N' :: payloadChars payload)
      (by decide) (by decide)
    have hl : lowered ('N' :: 'a' :: 'N' :: payloadChars payload) =
        String.ofList ('n' :: 'a' :: 'n' :: payloadChars payload) := hlow ['N', 'a', 'N']
    simp only [if_false, Bool.false_eq_true, List.cons_append, List.nil_append, hsign, hl]
    rw [hne _ "inf" (by simp), hne _ "infinity" (by simp)]
    simp [hpayload]

theorem parse?_text {d : Decimal} (h : d.Valid) : parse? d.text = some d := by
  cases d with
  | finite s digits e =>
    have htext : (Decimal.finite s digits e).text =
        String.ofList ((signText s).toList ++ (finiteText digits e).toList) := by
      rw [← String.toList_inj, String.toList_ofList, text, String.toList_append]
    rw [htext]
    exact parse?_finite (shown_finiteText digits e) h
  | infinity s => cases s <;> decide
  | nan s q payload => exact parse?_nan s q payload

end Decimal

end CallSnapshot
