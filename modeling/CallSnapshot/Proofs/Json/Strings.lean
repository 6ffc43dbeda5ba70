import CallSnapshot.Json.Printer
import CallSnapshot.Json.Reader
import CallSnapshot.Proofs.Text.Hex
import CallSnapshot.Proofs.Text.Lines

/-! Strings in JSON text, in ASCII or not: each character is read from its own escape. -/

namespace CallSnapshot.Json

open Text

def highUnit (c : Char) : ℕ := 0xd800 + (c.toNat - 0x10000) / 0x400

def lowUnit (c : Char) : ℕ := 0xdc00 + (c.toNat - 0x10000) % 0x400

/-- The forms that a character has in a text. -/
inductive Escape (c : Char) : List Char → Prop where
  | letter (e : Char) (he : e ≠ 'u') (h : escaped? e = some c) : Escape c ['\\', e]
  | unit (h : c.toNat < 0x10000) : Escape c (unitEscape c.toNat)
  | pair (h : 0x10000 ≤ c.toNat) : Escape c (unitEscape (highUnit c) ++ unitEscape (lowUnit c))
  | self (hq : c ≠ '"') (hb : c ≠ '\\') (h : ¬c.toNat < 0x20) : Escape c [c]

lemma escape_escapeChar (ascii : Bool) (c : Char) : Escape c (escapeChar ascii c) := by
  unfold escapeChar
  simp only [beq_iff_eq]
  split
  · rename_i h
    exact h ▸ .letter '"' (by decide) rfl
  split
  · rename_i h
    exact h ▸ .letter '\\' (by decide) rfl
  split
  · rename_i h
    exact h ▸ .letter 'n' (by decide) rfl
  split
  · rename_i h
    exact h ▸ .letter 'r' (by decide) rfl
  split
  · rename_i h
    exact h ▸ .letter 't' (by decide) rfl
  split
  · rename_i h
    exact h ▸ .letter 'f' (by decide) rfl
  split
  · rename_i h
    exact h ▸ .letter 'b' (by decide) rfl
  split
  · rename_i h
    exact .unit (h.trans (by decide))
  split
  · split
    · exact .unit ‹_›
    · exact .pair (not_lt.mp ‹_›)
  · exact .self ‹_› ‹_› ‹_›

lemma toNat_not_surrogate (c : Char) : c.toNat < 0xd800 ∨ 0xdfff < c.toNat := by
  rcases c.valid with h | ⟨h, -⟩
  · exact .inl h
  · exact .inr h

lemma toNat_lt (c : Char) : c.toNat < 0x110000 := by
  rcases c.valid with h | ⟨-, h⟩
  · exact lt_trans h (by decide)
  · exact h

lemma highUnit_bounds {c : Char} (h : 0x10000 ≤ c.toNat) : 0xd800 ≤ highUnit c ∧ highUnit c < 0xdc00 := by
  have hlt := toNat_lt c
  unfold highUnit
  omega

lemma lowUnit_bounds (c : Char) : 0xdc00 ≤ lowUnit c ∧ lowUnit c < 0xe000 := by
  unfold lowUnit
  omega

lemma hexFour?_hexDigits {n : ℕ} (hn : n < 0x10000) : hexFour? (hexDigits 4 n) = some n := by
  have hvalue : ∀ d < 16, hexValue? (hexDigit d) = some d := by decide
  have hdigit : ∀ k, hexValue? (hexDigit (k % 16)) = some (k % 16) := fun k =>
    hvalue _ (Nat.mod_lt k (by decide))
  have hdigits : hexDigits 4 n = [hexDigit (n / 16 / 16 / 16 % 16), hexDigit (n / 16 / 16 % 16),
    hexDigit (n / 16 % 16), hexDigit (n % 16)] := rfl
  rw [hdigits]
  simp only [hexFour?, hdigit, Option.bind_eq_bind, Option.bind_some, Option.some.injEq]
  omega

lemma unicodeEscape_unit {n : ℕ} (hn : n < 0x10000) (hhigh : isHighSurrogate n = false) {rest : List Char}
    (hr : rest ≠ []) : unicodeEscape (hexDigits 4 n ++ rest) = .ok (Char.ofNat n, rest) := by
  have hlen : (hexDigits 4 n).length = 4 := rfl
  have hpos := List.length_pos_of_ne_nil hr
  unfold unicodeEscape
  rw [if_neg (by rw [List.length_append, hlen]; omega), List.take_left' hlen, List.drop_left' hlen,
    hexFour?_hexDigits hn]
  dsimp only
  split
  · simp [hhigh]
  · rfl

lemma unicodeEscape_pair {c : Char} (hc : 0x10000 ≤ c.toNat) {rest : List Char} (hr : rest ≠ []) :
    unicodeEscape (hexDigits 4 (highUnit c) ++ '\\' :: 'u' :: (hexDigits 4 (lowUnit c) ++ rest)) = .ok (c, rest) := by
  have hlen : ∀ n, (hexDigits 4 n).length = 4 := fun _ => rfl
  have hpos := List.length_pos_of_ne_nil hr
  obtain ⟨hhigh, hhigh'⟩ := highUnit_bounds hc
  obtain ⟨hlow, hlow'⟩ := lowUnit_bounds c
  have hsurrogates : isHighSurrogate (highUnit c) = true ∧ isLowSurrogate (lowUnit c) = true := by
    simp [isHighSurrogate, isLowSurrogate, hhigh, hhigh', hlow, hlow']
  have hlonger : 4 < (hexDigits 4 (lowUnit c) ++ rest).length := by
    rw [List.length_append, hlen]
    omega
  have hchar : Char.ofNat (0x10000 + (highUnit c - 0xd800) * 0x400 + (lowUnit c - 0xdc00)) = c := by
    have hnat : 0x10000 + (highUnit c - 0xd800) * 0x400 + (lowUnit c - 0xdc00) = c.toNat := by
      unfold highUnit lowUnit
      omega
    rw [hnat, Char.ofNat_toNat]
  unfold unicodeEscape
  rw [if_neg (by rw [List.length_append, hlen]; simp only [List.length_cons]; omega), List.take_left' (hlen _),
    List.drop_left' (hlen _), hexFour?_hexDigits (hhigh'.trans (by decide))]
  simp only [hsurrogates, decide_eq_true hlonger, Bool.and_self, if_true, List.take_left' (hlen _),
    List.drop_left' (hlen _), hexFour?_hexDigits (hlow'.trans (by decide)), hchar]

lemma stringBody_escape {c : Char} {e : List Char} (h : Escape c e) {rest : List Char} (hr : rest ≠ [])
    (opening fuel : ℕ) {cs t : List Char} (hrest : stringBody opening fuel rest = .ok (cs, t)) :
    stringBody opening (fuel + 1) (e ++ rest) = .ok (c :: cs, t) := by
  cases h with
  | letter e he h =>
    change stringBody opening (fuel + 1) ('\\' :: e :: rest) = _
    rw [stringBody.eq_6 _ _ _ _ he, h, hrest]
    rfl
  | unit h =>
    have hhigh : isHighSurrogate c.toNat = false := by
      have := toNat_not_surrogate c
      simp only [isHighSurrogate, Bool.and_eq_false_iff, decide_eq_false_iff_not]
      omega
    change stringBody opening (fuel + 1) ('\\' :: 'u' :: (hexDigits 4 c.toNat ++ rest)) = _
    rw [stringBody.eq_5, unicodeEscape_unit h hhigh hr, Char.ofNat_toNat]
    change (stringBody opening fuel rest >>= fun x => .ok (c :: x.1, x.2)) = _
    rw [hrest]
    rfl
  | pair h =>
    rw [List.append_assoc]
    change stringBody opening (fuel + 1)
      ('\\' :: 'u' :: (hexDigits 4 (highUnit c) ++ '\\' :: 'u' :: (hexDigits 4 (lowUnit c) ++ rest))) = _
    rw [stringBody.eq_5, unicodeEscape_pair h hr]
    change (stringBody opening fuel rest >>= fun x => .ok (c :: x.1, x.2)) = _
    rw [hrest]
    rfl
  | self hq hb h =>
    change stringBody opening (fuel + 1) (c :: rest) = _
    rw [stringBody.eq_7 _ _ _ _ hq hb, if_neg h, hrest]
    rfl

lemma Escape.length_pos {c : Char} {e : List Char} (h : Escape c e) : 0 < e.length := by
  cases h <;> simp [unitEscape]

lemma stringBody_escaped (ascii : Bool) (cs t : List Char) (opening : ℕ) {fuel : ℕ}
    (hf : (cs.flatMap (escapeChar ascii)).length < fuel) :
    stringBody opening fuel (cs.flatMap (escapeChar ascii) ++ '"' :: t) = .ok (cs, t) := by
  induction cs generalizing fuel with
  | nil => rw [List.flatMap_nil, List.nil_append, stringBody.eq_3 _ _ _ (by omega)]
  | cons c cs ih =>
    have hpos := (escape_escapeChar ascii c).length_pos
    rw [List.flatMap_cons, List.length_append] at hf
    obtain ⟨fuel, rfl⟩ : ∃ k, fuel = k + 1 := ⟨fuel - 1, by omega⟩
    rw [List.flatMap_cons, List.append_assoc]
    exact stringBody_escape (escape_escapeChar ascii c) (by simp) opening fuel (ih (by omega))

lemma stringChars_append (ascii : Bool) (s : String) (r : List Char) :
    stringChars ascii s ++ r = '"' :: (s.toList.flatMap (escapeChar ascii) ++ '"' :: r) := by
  simp [stringChars]

lemma readString_stringChars (ascii : Bool) (s : String) (t : List Char) :
    readString (s.toList.flatMap (escapeChar ascii) ++ '"' :: t) = .ok (s, t) := by
  unfold readString
  rw [stringBody_escaped _ _ _ _ (by rw [List.length_append]; omega)]
  change Except.ok (String.ofList s.toList, t) = _
  rw [String.ofList_toList]

lemma unbroken_unitEscape (n : ℕ) : Unbroken (unitEscape n) :=
  .cons (by decide) (.cons (by decide) (forall_hexDigits (P := fun c => c ≠ '\n' ∧ c ≠ '\r') (by decide) 4 n))

lemma Escape.unbroken {c : Char} {e : List Char} (h : Escape c e) : Unbroken e := by
  cases h with
  | letter e he h =>
    have hline : e ≠ '\n' ∧ e ≠ '\r' := by constructor <;> (rintro rfl; cases h)
    exact .cons (by decide) (.cons hline (by simp [Unbroken]))
  | unit h => exact unbroken_unitEscape _
  | pair h => exact (unbroken_unitEscape _).append (unbroken_unitEscape _)
  | self hq hb h =>
    have hline : c ≠ '\n' ∧ c ≠ '\r' := by constructor <;> (rintro rfl; exact h (by decide))
    exact .cons hline (by simp [Unbroken])

lemma unbroken_stringChars (ascii : Bool) (s : String) : Unbroken (stringChars ascii s) := by
  refine .append (.cons (by decide) fun c hc => ?_) (.cons (by decide) (by simp [Unbroken]))
  obtain ⟨d, -, hd⟩ := List.mem_flatMap.mp hc
  exact (escape_escapeChar ascii d).unbroken c hd

end CallSnapshot.Json
