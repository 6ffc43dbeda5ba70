import CallSnapshot.Proofs.Number.Written

/-!
The usual text of a number: a whole part without zeros in front, a fraction and an exponent, of which
one is always there, and together they denote the digits that the text was made of.
-/

namespace CallSnapshot.Binary64

open Nat (ofDigitChars toDigits)

open Numeral Text

/-- The digits before a point: a zero, or digits without a zero in front. -/
def Leading (whole : List Char) : Prop := whole = ['0'] ∨ (Digits whole ∧ ∃ c cs, whole = c :: cs ∧ c ≠ '0')

lemma Leading.digits {whole : List Char} (h : Leading whole) : Digits whole := by
  rcases h with rfl | ⟨h, -⟩
  · simp [Digits]
  · exact h

/-- The text of a whole part, a fraction and an exponent, where there are such. -/
def laid (whole part : List Char) (exponent : Option ℤ) : List Char :=
  whole ++ (Decimal.fraction part ++ exponent.elim [] exponentText)

/-- A text with a fraction or an exponent that denotes `digits * 10 ^ p`. -/
def Laid (cs : List Char) (digits : ℕ) (p : ℤ) : Prop :=
  ∃ whole part exponent, cs = laid whole part exponent ∧ Leading whole ∧ Digits part ∧
    (part ≠ [] ∨ exponent.isSome = true) ∧
    ∃ j : ℕ, j ≤ 17 ∧ ∃ z : ℕ, ofDigitChars 10 (whole ++ part) 0 * 10 ^ z = digits * 10 ^ j ∧
      exponent.getD 0 - part.length = p + z - j

section Zeros

variable {cs : List Char}

lemma dropTrailingZeros_append (cs : List Char) :
    ∃ z, cs = dropTrailingZeros cs ++ List.replicate z '0' := by
  have hsplit := List.takeWhile_append_dropWhile (p := (· == '0')) (l := cs.reverse)
  refine ⟨(cs.reverse.takeWhile (· == '0')).length, ?_⟩
  have hzeros : cs.reverse.takeWhile (· == '0') =
      List.replicate (cs.reverse.takeWhile (· == '0')).length '0' :=
    List.eq_replicate_iff.mpr ⟨rfl, fun c hc => by simpa using List.mem_takeWhile_imp hc⟩
  rw [dropTrailingZeros, ← List.reverse_replicate, ← hzeros, ← List.reverse_append, hsplit,
    List.reverse_reverse]

lemma ofDigitChars_zeros (cs : List Char) (z : ℕ) :
    ofDigitChars 10 (cs ++ List.replicate z '0') 0 = ofDigitChars 10 cs 0 * 10 ^ z := by
  rw [Nat.ofDigitChars_append, Nat.ofDigitChars_replicate_zero, mul_comm]

lemma ofDigitChars_zeros_append (cs : List Char) (z : ℕ) :
    ofDigitChars 10 (List.replicate z '0' ++ cs) 0 = ofDigitChars 10 cs 0 := by
  rw [Nat.ofDigitChars_append, Nat.ofDigitChars_replicate_zero, mul_zero]

lemma toDigits_head {n : ℕ} (hn : n ≠ 0) : ∃ c cs, toDigits 10 n = c :: cs ∧ c ≠ '0' := by
  induction n using Nat.strongRecOn with
  | ind n ih =>
    rcases Nat.lt_or_ge n 10 with h | h
    · exact ⟨_, [], Nat.toDigits_of_lt_base h, fun hz => hn (Nat.digitChar_eq_zero.mp hz)⟩
    · obtain ⟨c, cs, hcs, hc⟩ := ih (n / 10) (by omega) (by omega)
      exact ⟨c, cs ++ [(n % 10).digitChar], by rw [Nat.toDigits_of_base_le (by decide) h, hcs]; rfl, hc⟩

lemma significant {digits : ℕ} (hd : digits ≠ 0) : ∃ c rest z,
    dropTrailingZeros (Nat.repr digits).toList = c :: rest ∧ c ≠ '0' ∧ Digits (c :: rest) ∧
      (Nat.repr digits).length = rest.length + 1 + z ∧
      ofDigitChars 10 (c :: rest) 0 * 10 ^ z = digits := by
  obtain ⟨z, hz⟩ := dropTrailingZeros_append (toDigits 10 digits)
  obtain ⟨c, cs, hcs, hc⟩ := toDigits_head hd
  have hdigits := digits_toDigits digits
  rw [hz] at hdigits
  obtain ⟨d, rest, hds⟩ : ∃ d rest, dropTrailingZeros (toDigits 10 digits) = d :: rest := by
    refine List.exists_cons_of_ne_nil fun hnil => hc ?_
    rw [hnil, List.nil_append, hcs] at hz
    exact List.eq_of_mem_replicate (hz ▸ List.mem_cons_self)
  rw [hds] at hz hdigits
  refine ⟨d, rest, z, by rw [Nat.toList_repr, hds], ?_, fun x hx => hdigits x (List.mem_append_left _ hx), ?_, ?_⟩
  · rw [hcs] at hz
    rwa [← (List.cons.inj hz).1]
  · rw [← String.length_toList, Nat.toList_repr, hz]
    simp only [List.length_append, List.length_cons, List.length_replicate]
  · rw [← ofDigitChars_zeros, ← hz, Nat.ofDigitChars_ten_toDigits]

end Zeros

section Forms

variable {c : Char} {rest : List Char} {z digits k : ℕ} {p : ℤ}

lemma digits_zeros (k : ℕ) : Digits (List.replicate k '0') := fun c hc => by
  rw [List.eq_of_mem_replicate hc]
  rfl

lemma digits_append {cs ds : List Char} (h : Digits cs) (h' : Digits ds) : Digits (cs ++ ds) := fun c hc =>
  (List.mem_append.mp hc).elim (h c) (h' c)

lemma laid_below_one (hdigits : Digits (c :: rest)) (hvalue : ofDigitChars 10 (c :: rest) 0 * 10 ^ z = digits)
    (hk : ((rest.length + 1 + z : ℕ) : ℤ) + p = -k) :
    Laid ('0' :: '.' :: List.replicate k '0' ++ c :: rest) digits p := by
  refine ⟨['0'], List.replicate k '0' ++ c :: rest, none, ?_, .inl rfl,
    digits_append (digits_zeros k) hdigits, .inl (by simp), 0, by omega, z, ?_, ?_⟩
  · cases k <;> simp [laid, Decimal.fraction, List.replicate_succ]
  · rw [List.singleton_append, ← List.cons_append, ← List.replicate_succ,
      ofDigitChars_zeros_append, hvalue, pow_zero, mul_one]
  · simp only [List.length_append, List.length_replicate, List.length_cons, Option.getD_none]
    push_cast at hk ⊢
    omega

lemma laid_whole (hc : c ≠ '0') (hdigits : Digits (c :: rest))
    (hvalue : ofDigitChars 10 (c :: rest) 0 * 10 ^ z = digits)
    (hk : ((rest.length + 1 + z : ℕ) : ℤ) + p = k) (hlen : rest.length + 1 ≤ k) (hle : k ≤ 16) :
    Laid (c :: rest ++ List.replicate (k - (rest.length + 1)) '0' ++ ['.', '0']) digits p := by
  refine ⟨c :: rest ++ List.replicate (k - (rest.length + 1)) '0', ['0'], none, ?_,
    .inr ⟨digits_append hdigits (digits_zeros _), c, _, rfl, hc⟩, digits_zeros 1, .inl (by simp),
    k - (rest.length + 1) + 1, by omega, z, ?_, ?_⟩
  · simp [laid, Decimal.fraction]
  · rw [List.append_assoc, ← List.replicate_succ', ofDigitChars_zeros, ← hvalue]
    ring
  · simp only [List.length_cons, List.length_nil, Option.getD_none]
    push_cast at hk ⊢
    omega

lemma laid_pointed (hc : c ≠ '0') (hdigits : Digits (c :: rest))
    (hvalue : ofDigitChars 10 (c :: rest) 0 * 10 ^ z = digits)
    (hk : ((rest.length + 1 + z : ℕ) : ℤ) + p = (k + 1 : ℕ)) (hlt : k < rest.length) :
    Laid (c :: rest.take k ++ '.' :: rest.drop k) digits p := by
  have hdrop : rest.drop k ≠ [] := by
    rw [Ne, List.drop_eq_nil_iff]
    omega
  refine ⟨c :: rest.take k, rest.drop k, none, ?_, .inr ⟨fun x hx => hdigits x ?_, c, _, rfl, hc⟩,
    fun x hx => hdigits x (List.mem_cons_of_mem _ (List.mem_of_mem_drop hx)), .inl hdrop, 0, by omega, z, ?_, ?_⟩
  · obtain ⟨d, ds, hds⟩ := List.exists_cons_of_ne_nil hdrop
    simp [laid, hds, Decimal.fraction]
  · rw [← List.take_succ_cons] at hx
    exact List.mem_of_mem_take hx
  · rw [List.cons_append, List.take_append_drop, hvalue, pow_zero, mul_one]
  · rw [List.length_drop, Option.getD_none]
    push_cast at hk ⊢
    omega

lemma laid_exponent (hc : c ≠ '0') (hdigits : Digits (c :: rest))
    (hvalue : ofDigitChars 10 (c :: rest) 0 * 10 ^ z = digits) :
    Laid (laid [c] rest (some (((rest.length + 1 + z : ℕ) : ℤ) + p - 1))) digits p := by
  refine ⟨[c], rest, some (((rest.length + 1 + z : ℕ) : ℤ) + p - 1), rfl,
    .inr ⟨fun x hx => hdigits x (by simp_all), c, [], rfl, hc⟩,
    fun x hx => hdigits x (List.mem_cons_of_mem _ hx), .inr rfl, 0, by omega, z, ?_, ?_⟩
  · rw [List.singleton_append, hvalue, pow_zero, mul_one]
  · rw [Option.getD_some]
    push_cast
    omega

end Forms

lemma laid_layout {digits : ℕ} (hd : digits ≠ 0) (p : ℤ) : Laid (layout true digits p) digits p := by
  obtain ⟨c, rest, z, hds, hc, hdigits, hlen, hvalue⟩ := significant hd
  unfold layout
  rw [hds, hlen]
  dsimp only
  split
  · rename_i hrange
    simp only [Bool.and_eq_true, decide_eq_true_eq] at hrange
    split
    · exact laid_below_one hdigits hvalue (by omega)
    · rename_i hpoint
      obtain ⟨k, hk⟩ := Int.eq_ofNat_of_zero_le (not_le.mp hpoint).le
      rw [hk, Int.toNat_natCast, List.length_cons]
      split
      · rename_i hshort
        exact laid_whole hc hdigits hvalue hk hshort (by omega)
      · rename_i hlong
        obtain ⟨l, rfl⟩ : ∃ l, k = l + 1 := ⟨k - 1, by omega⟩
        exact laid_pointed hc hdigits hvalue hk (by omega)
  · have hlaid := laid_exponent (p := p) hc hdigits hvalue
    cases rest with
    | nil => simpa [laid, Decimal.fraction] using hlaid
    | cons d ds => simpa [laid, Decimal.fraction] using hlaid

end CallSnapshot.Binary64
