import CallSnapshot.Text.Base64
import CallSnapshot.Text.Utf8
import CallSnapshot.Time.Iso
import Mathlib

/-! Digits read back as the number that was written, and ASCII text as its own bytes. -/

namespace CallSnapshot

open Nat (ofDigitChars toDigits)

namespace Text

lemma byteArray_loop (bs : ByteArray) (n i : ℕ) (r : List UInt8) (h : bs.size - i = n) :
    ByteArray.toList.loop bs i r = r.reverse ++ bs.data.toList.drop i := by
  have hsize : bs.data.toList.length = bs.size := by rw [Array.length_toList, ByteArray.size]
  induction n generalizing i r with
  | zero =>
    rw [ByteArray.toList.loop, if_neg (by omega), List.drop_eq_nil_of_le (by omega), List.append_nil]
  | succ n ih =>
    have hi : i < bs.data.toList.length := by omega
    have hget : bs.get! i = bs.data.toList[i] := by
      rw [Array.getElem_toList]
      exact getElem!_pos bs.data i (by simpa using hi)
    rw [ByteArray.toList.loop, if_pos (by omega), ih (i + 1) _ (by omega), hget,
      List.drop_eq_getElem_cons hi, List.reverse_cons, List.append_assoc, List.singleton_append]

lemma encodeUtf8_eq (s : String) : encodeUtf8 s = s.toList.flatMap String.utf8EncodeChar := by
  rw [encodeUtf8, ByteArray.toList, byteArray_loop _ _ 0 [] rfl, String.toUTF8_eq_toByteArray,
    ← String.utf8Encode_toList, List.utf8Encode, List.data_toByteArray]
  rfl

def Ascii (cs : List Char) : Prop := ∀ c ∈ cs, c.toNat < 128

lemma encodeUtf8_ascii {cs : List Char} (h : Ascii cs) :
    encodeUtf8 (String.ofList cs) = cs.map fun c => UInt8.ofNat c.toNat := by
  rw [encodeUtf8_eq, String.toList_ofList]
  induction cs with
  | nil => rfl
  | cons c cs ih =>
    have hc : c.toNat ≤ 127 := Nat.le_of_lt_succ (h c List.mem_cons_self)
    rw [List.flatMap_cons, ih fun d hd => h d (List.mem_cons_of_mem _ hd), List.map_cons]
    simp [String.utf8EncodeChar, hc]

lemma bytes_ascii {cs : List Char} (h : Ascii cs) : Iso.bytes (String.ofList cs) = cs := by
  change (encodeUtf8 (String.ofList cs)).map _ = cs
  rw [encodeUtf8_ascii h, List.map_map, List.map_congr_left (g := id), List.map_id]
  intro c hc
  have hlt : c.toNat < 256 := lt_trans (h c hc) (by decide)
  change Char.ofNat (c.toNat % 256) = c
  rw [Nat.mod_eq_of_lt hlt, Char.ofNat_toNat]

lemma forall_isDigit {P : Char → Prop} (h : ∀ n < 10, P (Char.ofNat (48 + n))) {c : Char}
    (hc : c.isDigit = true) : P c := by
  simp only [Char.isDigit, Bool.and_eq_true, decide_eq_true_eq, ge_iff_le, UInt32.le_iff_toNat_le] at hc
  obtain ⟨hlow, hhigh⟩ := hc
  change 48 ≤ c.toNat at hlow
  change c.toNat ≤ 57 at hhigh
  have := h (c.toNat - 48) (by omega)
  rwa [Nat.add_sub_cancel' hlow, Char.ofNat_toNat] at this

lemma isDigit_lt {c : Char} (h : c.isDigit = true) : c.toNat < 128 :=
  forall_isDigit (P := fun c => c.toNat < 128) (by decide) h

def Digits (cs : List Char) : Prop := ∀ c ∈ cs, c.isDigit = true

lemma Digits.ascii {cs : List Char} (h : Digits cs) : Ascii cs := fun c hc => isDigit_lt (h c hc)

lemma digits_toDigits (n : ℕ) : Digits (toDigits 10 n) := fun _ hc =>
  Nat.isDigit_of_mem_toDigits (by decide) (by decide) hc

end Text

namespace Iso

open Text

variable {w n : ℕ}

lemma digits_eq (w n : ℕ) :
    digits w n = List.replicate (w - (toDigits 10 n).length) '0' ++ toDigits 10 n := by
  rw [digits, Binary64.pad, Nat.toList_repr]

lemma digits_digits (w n : ℕ) : Digits (digits w n) := by
  intro c hc
  rw [digits_eq] at hc
  rcases List.mem_append.mp hc with hc | hc
  · rw [List.eq_of_mem_replicate hc]
    rfl
  · exact digits_toDigits n c hc

lemma length_digits (hw : 0 < w) (h : n < 10 ^ w) : (digits w n).length = w := by
  have := (Nat.length_toDigits_le_iff (b := 10) (n := n) (by decide) hw).mpr h
  rw [digits_eq, List.length_append, List.length_replicate]
  omega

lemma ofDigitChars_digits (w n : ℕ) : ofDigitChars 10 (digits w n) 0 = n := by
  rw [digits_eq, Nat.ofDigitChars_append, Nat.ofDigitChars_replicate_zero, mul_zero,
    Nat.ofDigitChars_ten_toDigits]

lemma takeNumber_append {ds : List Char} (hd : Digits ds) (value : ℕ) (rest : List Char) :
    takeNumber ds.length value (ds ++ rest) = some (ofDigitChars 10 ds value, rest) := by
  induction ds generalizing value with
  | nil => rfl
  | cons c ds ih =>
    have hc : c.isDigit = true := hd c List.mem_cons_self
    rw [List.length_cons, List.cons_append, takeNumber, if_pos hc,
      ih (fun d h => hd d (List.mem_cons_of_mem _ h)), Nat.ofDigitChars_cons, mul_comm value 10]

lemma takeNumber_digits (hw : 0 < w) (h : n < 10 ^ w) (rest : List Char) :
    takeNumber w 0 (digits w n ++ rest) = some (n, rest) := by
  have := takeNumber_append (digits_digits w n) 0 rest
  rwa [length_digits hw h, ofDigitChars_digits] at this

end Iso

end CallSnapshot

/-! Bytes read back from their letters. -/

namespace CallSnapshot.Base64

lemma value?_letter {n : ℕ} (h : n < 64) : value? (letter n) = some n := by
  have all : ∀ m < 64, value? (letter m) = some m := by decide
  exact all n h

lemma letter_ne_pad {n : ℕ} (h : n < 64) : letter n ≠ '=' := by
  have all : ∀ m < 64, letter m ≠ '=' := by decide
  exact all n h

lemma letter_ascii {n : ℕ} (h : n < 64) : (letter n).toNat < 128 := by
  have all : ∀ m < 64, (letter m).toNat < 128 := by decide
  exact all n h

lemma decodeFrom_letter {n : ℕ} (h : n < 64) (r : Reading) (rest : List Char) :
    decodeFrom r (letter n :: rest) = match r.filled with
      | 0 => decodeFrom ⟨1, n, 0, r.count⟩ rest
      | 1 => (decodeFrom ⟨2, n % 16, 0, r.count + 1⟩ rest).map
          (UInt8.ofNat (r.leftover * 4 + n / 16) :: ·)
      | 2 => (decodeFrom ⟨3, n % 4, 0, r.count + 1⟩ rest).map
          (UInt8.ofNat (r.leftover * 16 + n / 4) :: ·)
      | _ => (decodeFrom ⟨0, 0, 0, r.count + 1⟩ rest).map
          (UInt8.ofNat (r.leftover * 64 + n) :: ·) := by
  obtain ⟨filled, left, pads, count⟩ := r
  match filled with
  | 0 | 1 | 2 | _ + 3 => simp [decodeFrom, letter_ne_pad h, value?_letter h]

lemma ofNat_eq {b : UInt8} {n : ℕ} (h : n = b.toNat) : UInt8.ofNat n = b := by
  rw [h, UInt8.ofNat_toNat]

lemma decodeFrom_encode (bs : List UInt8) (count : ℕ) :
    decodeFrom ⟨0, 0, 0, count⟩ (encode bs) = .ok bs := by
  induction bs using encode.induct generalizing count with
  | case1 => rfl
  | case2 a =>
    have ha := a.toNat_lt
    have h₁ : a.toNat / 4 < 64 := by omega
    have h₂ : a.toNat % 4 * 16 < 64 := by omega
    have hpad : ∀ left count, decodeFrom ⟨2, left, 0, count⟩ ['=', '='] = .ok [] := by
      intro left count
      simp [decodeFrom]
    simp only [encode, decodeFrom_letter h₁, decodeFrom_letter h₂, hpad]
    rw [ofNat_eq (b := a) (by omega)]
    rfl
  | case3 a b =>
    have ha := a.toNat_lt
    have hb := b.toNat_lt
    have h₁ : a.toNat / 4 < 64 := by omega
    have h₂ : a.toNat % 4 * 16 + b.toNat / 16 < 64 := by omega
    have h₃ : b.toNat % 16 * 4 < 64 := by omega
    have hpad : ∀ left count, decodeFrom ⟨3, left, 0, count⟩ ['='] = .ok [] := by
      intro left count
      simp [decodeFrom]
    simp only [encode, decodeFrom_letter h₁, decodeFrom_letter h₂, decodeFrom_letter h₃, hpad]
    rw [ofNat_eq (b := a) (by omega), ofNat_eq (b := b) (by omega)]
    rfl
  | case4 a b c rest ih =>
    have ha := a.toNat_lt
    have hb := b.toNat_lt
    have hc := c.toNat_lt
    have h₁ : a.toNat / 4 < 64 := by omega
    have h₂ : a.toNat % 4 * 16 + b.toNat / 16 < 64 := by omega
    have h₃ : b.toNat % 16 * 4 + c.toNat / 64 < 64 := by omega
    have h₄ : c.toNat % 64 < 64 := by omega
    simp only [encode, decodeFrom_letter h₁, decodeFrom_letter h₂, decodeFrom_letter h₃,
      decodeFrom_letter h₄, ih]
    rw [ofNat_eq (b := a) (by omega), ofNat_eq (b := b) (by omega), ofNat_eq (b := c) (by omega)]
    rfl

lemma encode_ascii (bs : List UInt8) : Text.Ascii (encode bs) := by
  have pad : '='.toNat < 128 := by decide
  induction bs using encode.induct with
  | case1 => simp [encode, Text.Ascii]
  | case2 a =>
    have ha := a.toNat_lt
    simp only [encode, Text.Ascii, List.forall_mem_cons]
    exact ⟨letter_ascii (by omega), letter_ascii (by omega), pad, pad, by simp⟩
  | case3 a b =>
    have ha := a.toNat_lt
    have hb := b.toNat_lt
    simp only [encode, Text.Ascii, List.forall_mem_cons]
    exact ⟨letter_ascii (by omega), letter_ascii (by omega), letter_ascii (by omega), pad, by simp⟩
  | case4 a b c rest ih =>
    have ha := a.toNat_lt
    have hb := b.toNat_lt
    have hc := c.toNat_lt
    simp only [encode, Text.Ascii, List.forall_mem_cons]
    exact ⟨letter_ascii (by omega), letter_ascii (by omega), letter_ascii (by omega),
      letter_ascii (by omega), ih⟩

theorem decode_encode (bs : List UInt8) : decode (String.ofList (encode bs)) = .ok bs := by
  have hascii : (encode bs).all (fun c => c.toNat < 128) = true :=
    List.all_eq_true.mpr fun c hc => decide_eq_true (encode_ascii bs c hc)
  rw [decode, String.toList_ofList, if_pos hascii, decodeFrom_encode]

end CallSnapshot.Base64
