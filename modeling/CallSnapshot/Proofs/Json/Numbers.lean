import CallSnapshot.Json.Reader
import CallSnapshot.Json.Printer
import CallSnapshot.Proofs.Number.Layout
import CallSnapshot.Proofs.Number.Shortest

/-! Numbers in JSON text are read as they were before they were written. -/

namespace CallSnapshot.Json

open Nat (ofDigitChars toDigits)

open Binary64 Numeral Text

/-- What may stand behind a value in text: nothing, or what ends or parts values, or a line end. -/
def Stops (rest : List Char) : Prop := ∀ c, rest.head? = some c → c = ',' ∨ c = ']' ∨ c = '\x7d' ∨ c = '\n'

def Undigited (cs : List Char) : Prop := ∀ c, cs.head? = some c → c.isDigit = false

lemma Undigited.takeWhile {cs : List Char} (h : Undigited cs) : cs.takeWhile Char.isDigit = [] := by
  cases cs with
  | nil => rfl
  | cons c cs => simp [h c rfl]

lemma Undigited.dropWhile {cs : List Char} (h : Undigited cs) : cs.dropWhile Char.isDigit = cs := by
  cases cs with
  | nil => rfl
  | cons c cs => simp [h c rfl]

lemma Stops.undigited {rest : List Char} (h : Stops rest) : Undigited rest := by
  intro c hc
  rcases h c hc with rfl | rfl | rfl | rfl <;> rfl

variable {whole part rest t : List Char} {exponent : Option ℤ}

lemma wholePart_leading (hw : Leading whole) (ht : Undigited t) :
    wholePart (whole ++ t) = some (whole, t) := by
  rcases hw with rfl | ⟨hd, c, cs, rfl, hc⟩
  · rfl
  · have hcs : Digits cs := fun x hx => hd x (List.mem_cons_of_mem _ hx)
    rw [List.cons_append]
    unfold wholePart
    split
    · rename_i heq
      exact absurd (List.cons.inj heq).1 hc
    · rename_i heq
      obtain ⟨rfl, rfl⟩ := List.cons.inj heq
      rw [if_pos (hd c List.mem_cons_self), takeWhile_digits hcs ht.takeWhile,
        dropWhile_digits hcs ht.dropWhile]
    · rename_i heq
      cases heq

lemma fractionPart_fraction (hp : Digits part) (ht : Undigited t) (hpoint : t.head? ≠ some '.') :
    fractionPart (Decimal.fraction part ++ t) = (part, t) := by
  cases part with
  | nil =>
    rw [Decimal.fraction, List.nil_append]
    unfold fractionPart
    split
    · exact absurd rfl hpoint
    · rfl
  | cons c part =>
    have hcs : Digits part := fun x hx => hp x (List.mem_cons_of_mem _ hx)
    rw [Decimal.fraction, List.cons_append, List.cons_append, fractionPart,
      if_pos (hp c List.mem_cons_self), takeWhile_digits hcs ht.takeWhile,
      dropWhile_digits hcs ht.dropWhile]

lemma exponentPart_exponentText (hr : Stops rest) :
    exponentPart (exponent.elim [] exponentText ++ rest) = (exponent, rest) := by
  cases exponent with
  | none =>
    change exponentPart rest = (none, rest)
    unfold exponentPart
    split
    · rw [if_neg]
      rcases hr _ rfl with rfl | rfl | rfl | rfl <;> decide
    · rfl
  | some e =>
    have hd : Digits (Iso.digits 2 e.natAbs) := Iso.digits_digits 2 _
    have hvalue : ofDigits 10 ((Iso.digits 2 e.natAbs).map fun c => c.toNat - '0'.toNat) = e.natAbs :=
      (ofDigits_charValue _).trans (Iso.ofDigitChars_digits 2 _)
    have hne : (Iso.digits 2 e.natAbs).isEmpty = false := by
      rw [Iso.digits_eq, List.isEmpty_eq_false_iff]
      simp [Nat.toDigits_ne_nil]
    have htext : exponentText e = 'e' :: (if e < 0 then '-' else '+') :: Iso.digits 2 e.natAbs := rfl
    have hsign : splitSign ((if e < 0 then '-' else '+') :: (Iso.digits 2 e.natAbs ++ rest)) =
        (decide (e < 0), Iso.digits 2 e.natAbs ++ rest) := by
      by_cases h : e < 0 <;> simp [h, splitSign]
    simp only [Option.elim_some, htext, List.cons_append, exponentPart, beq_self_eq_true, Bool.true_or,
      if_true, hsign, takeWhile_digits hd hr.undigited.takeWhile,
      dropWhile_digits hd hr.undigited.dropWhile, hne, Bool.false_eq_true, if_false, hvalue,
      decide_eq_true_eq, Prod.mk.injEq, Option.some.injEq, and_true]
    split <;> omega

def signed (negative : Bool) (cs : List Char) : List Char := if negative then '-' :: cs else cs

lemma tail_head (hr : Stops rest) {c : Char} (hc : (exponent.elim [] exponentText ++ rest).head? = some c) :
    c = 'e' ∨ c = ',' ∨ c = ']' ∨ c = '\x7d' ∨ c = '\n' := by
  cases exponent with
  | none => exact .inr (hr c hc)
  | some e => exact .inl (Option.some.inj hc).symm

lemma digitsValue_eq (cs : List Char) : digitsValue cs = ofDigitChars 10 cs 0 := ofDigits_charValue cs

/-- What is read of a number behind its sign. -/
def readUnsigned (negative : Bool) (left : ℕ) (body : List Char) : Except ReadError (Json × List Char) :=
  match wholePart body with
  | none => .error (.bad .value left)
  | some (whole, rest) =>
    let (part, rest) := fractionPart rest
    let (exponent, rest) := exponentPart rest
    if part.isEmpty && exponent.isNone then
      if digitLimit < whole.length then .error (.tooLong whole.length)
      else
        let n : ℤ := digitsValue whole
        .ok (.int (if negative then -n else n), rest)
    else
      let x := scale negative (digitsValue (whole ++ part)) (exponent.getD 0 - part.length)
      .ok (.float x, rest)

lemma readNumber_unsigned {cs : List Char} (h : cs.head? ≠ some '-') :
    readNumber cs = readUnsigned false cs.length cs := by
  unfold readNumber
  split
  · rename_i heq
    split at heq
    · exact absurd rfl h
    · cases heq
      rfl

lemma readNumber_signed (negative : Bool) (exponent : Option ℤ) (hw : Leading whole) (hp : Digits part) (hr : Stops rest) :
    readNumber (signed negative (laid whole part exponent ++ rest)) =
      if part.isEmpty && exponent.isNone then
        if digitLimit < whole.length then .error (.tooLong whole.length)
        else .ok (.int (if negative then -(ofDigitChars 10 whole 0 : ℤ) else ofDigitChars 10 whole 0), rest)
      else .ok (.float (scale negative (ofDigitChars 10 (whole ++ part) 0)
        (exponent.getD 0 - part.length)), rest) := by
  have htail : Undigited (exponent.elim [] exponentText ++ rest) := by
    intro c hc
    rcases tail_head hr hc with rfl | rfl | rfl | rfl | rfl <;> rfl
  have hpoint : (exponent.elim [] exponentText ++ rest).head? ≠ some '.' := by
    intro hc
    rcases tail_head hr hc with h | h | h | h | h <;> cases h
  have hbehind : Undigited (Decimal.fraction part ++ (exponent.elim [] exponentText ++ rest)) := by
    cases part with
    | nil => exact htail
    | cons c part =>
      intro d hd
      obtain rfl := Option.some.inj hd
      rfl
  have hwhole := wholePart_leading hw hbehind
  have hread : readNumber (signed negative (laid whole part exponent ++ rest)) =
      readUnsigned negative (signed negative (laid whole part exponent ++ rest)).length
        (laid whole part exponent ++ rest) := by
    cases negative with
    | true => rfl
    | false =>
      refine readNumber_unsigned ?_
      rcases hw with rfl | ⟨hd, c, _, rfl, -⟩
      · simp [laid, signed]
      · have hc := hd c List.mem_cons_self
        rintro h
        obtain rfl := Option.some.inj h
        cases hc
  rw [hread]
  simp only [readUnsigned, laid, List.append_assoc, hwhole, fractionPart_fraction hp htail hpoint,
    exponentPart_exponentText hr, digitsValue_eq]

lemma leading_toDigits (n : ℕ) : Leading (toDigits 10 n) := by
  rcases Nat.eq_zero_or_pos n with rfl | hn
  · exact .inl rfl
  · exact .inr ⟨digits_toDigits n, toDigits_head hn.ne'⟩

lemma intChars_signed {n : ℤ} {cs : List Char} (h : intChars n = .ok cs) :
    cs = signed (decide (n < 0)) (toDigits 10 n.natAbs) ∧ (toDigits 10 n.natAbs).length ≤ digitLimit := by
  unfold intChars at h
  rw [Nat.toList_repr] at h
  dsimp only at h
  split at h
  · cases h
  · cases h
    exact ⟨by simp [signed], by omega⟩

lemma readNumber_intChars {n : ℤ} {cs : List Char} (h : intChars n = .ok cs) (hr : Stops rest) :
    readNumber (cs ++ rest) = .ok (.int n, rest) := by
  obtain ⟨rfl, hlen⟩ := intChars_signed h
  have hnil : Digits [] := by simp [Digits]
  have hread := readNumber_signed (decide (n < 0)) none (leading_toDigits n.natAbs) hnil hr
  have htext : signed (decide (n < 0)) (toDigits 10 n.natAbs) ++ rest =
      signed (decide (n < 0)) (laid (toDigits 10 n.natAbs) [] none ++ rest) := by
    unfold signed laid
    split <;> simp [Decimal.fraction]
  simp only [htext, hread, List.isEmpty_nil, Option.isNone_none, Bool.and_self, if_true, not_lt.mpr hlen,
    if_false, Nat.ofDigitChars_ten_toDigits, decide_eq_true_eq, Except.ok.injEq, Prod.mk.injEq,
    Json.int.injEq, and_true]
  split <;> omega

lemma exists_laid {s : Bool} {m : ℕ} {e : ℤ} (h : (Binary64.finite s m e).Valid) :
    ∃ whole part exponent, (Binary64.finite s m e).text.toList = signed s (laid whole part exponent) ∧
      Leading whole ∧ Digits part ∧ (part ≠ [] ∨ exponent.isSome = true) ∧
      scale s (ofDigitChars 10 (whole ++ part) 0) (exponent.getD 0 - part.length) = .finite s m e := by
  rcases valid_cases h with ⟨rfl, rfl⟩ | h
  · exact ⟨['0'], ['0'], none, by cases s <;> rfl, .inl rfl, by simp [Digits], .inl (by simp), rfl⟩
  · obtain ⟨digits, p, hs⟩ : ∃ digits p, shortest m e = (digits, p) := ⟨_, _, rfl⟩
    obtain ⟨hnear, hsmall⟩ := h.shortest_near hs
    have hdigits : digits ≠ 0 := by
      rintro rfl
      have := (h.near_bounds hnear).1
      rw [Nat.cast_zero, zero_mul] at this
      exact absurd this (not_le.mpr (by positivity))
    obtain ⟨whole, part, exponent, htext, hw, hp, hsome, j, hj, z, hvalue, hexp⟩ := laid_layout hdigits p
    refine ⟨whole, part, exponent, ?_, hw, hp, hsome, ?_⟩
    · simp only [text, render, if_neg h.pos.ne', hs, htext, String.toList_ofList]
      rfl
    · have hten : (10 : ℚ) ≠ 0 := by norm_num
      have hden : ((ofDigitChars 10 (whole ++ part) 0 : ℕ) : ℚ) * 10 ^ (exponent.getD 0 - part.length) =
          digits * 10 ^ p := by
        have hcast : ((ofDigitChars 10 (whole ++ part) 0 : ℕ) : ℚ) * 10 ^ (z : ℤ) = digits * 10 ^ (j : ℤ) := by
          rw [zpow_natCast, zpow_natCast]
          exact_mod_cast hvalue
        rw [hexp, show p + z - j = (z : ℤ) + (p - j) by ring, zpow_add₀ hten, ← mul_assoc, hcast, mul_assoc,
          ← zpow_add₀ hten]
        congr 2
        ring
      refine scale_near s h ?_ (hden ▸ hnear)
      calc ofDigitChars 10 (whole ++ part) 0 ≤ ofDigitChars 10 (whole ++ part) 0 * 10 ^ z :=
            Nat.le_mul_of_pos_right _ (by positivity)
        _ = digits * 10 ^ j := hvalue
        _ ≤ 10 ^ 21 * 10 ^ 17 := Nat.mul_le_mul hsmall.le (Nat.pow_le_pow_right (by decide) hj)
        _ < 10 ^ 60 := by norm_num

lemma readNumber_text {s : Bool} {m : ℕ} {e : ℤ} (h : (Binary64.finite s m e).Valid) (hr : Stops rest) :
    readNumber ((Binary64.finite s m e).text.toList ++ rest) = .ok (.float (.finite s m e), rest) := by
  obtain ⟨whole, part, exponent, htext, hw, hp, hsome, hvalue⟩ := exists_laid h
  have hsigned : signed s (laid whole part exponent) ++ rest = signed s (laid whole part exponent ++ rest) := by
    cases s <;> rfl
  rw [htext, hsigned, readNumber_signed s _ hw hp hr, if_neg, hvalue]
  rcases hsome with hpart | hexponent
  · simp [hpart]
  · simp [Option.isNone_eq_false_iff.mpr hexponent]

end CallSnapshot.Json
