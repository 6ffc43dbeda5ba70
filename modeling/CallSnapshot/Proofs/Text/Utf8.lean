import CallSnapshot.Proofs.Text.Digits

/-!
Text is read back from its bytes, also where these are cut within a character: what is before the
cut character is read, and the rest is said to be unfinished.
-/

namespace CallSnapshot.Text

def bytesOf (cs : List Char) : List UInt8 := cs.flatMap String.utf8EncodeChar

lemma bytesOf_cons (c : Char) (cs : List Char) : bytesOf (c :: cs) = String.utf8EncodeChar c ++ bytesOf cs := rfl

lemma bytesOf_append (cs ds : List Char) : bytesOf (cs ++ ds) = bytesOf cs ++ bytesOf ds :=
  List.flatMap_append

def fits (lead seen : ℕ) (b : UInt8) : Bool :=
  (if seen == 1 then secondRange lead else (0x80, 0xbf)).1 ≤ b.toNat &&
    b.toNat ≤ (if seen == 1 then secondRange lead else (0x80, 0xbf)).2

lemma follow_cons (lead k seen v : ℕ) (b : UInt8) (rest : List UInt8) :
    follow lead (k + 1) seen v (b :: rest) =
      if fits lead seen b then follow lead k (seen + 1) (v * 64 + b.toNat % 64) rest
      else .error (.invalidContinuation, seen) := rfl

lemma follow_append {lead k seen v w : ℕ} {tail : List UInt8}
    (h : follow lead k seen v tail = .ok (w, [])) (rest : List UInt8) :
    follow lead k seen v (tail ++ rest) = .ok (w, rest) := by
  induction k generalizing seen v tail with
  | zero =>
    cases h
    rfl
  | succ k ih =>
    cases tail with
    | nil => cases h
    | cons b tail =>
      rw [List.cons_append]
      rw [follow_cons] at h ⊢
      split at h
      · rename_i hb
        rw [if_pos hb]
        exact ih h
      · cases h

lemma follow_cut {lead k seen v w : ℕ} {tail cut : List UInt8}
    (h : follow lead k seen v tail = .ok (w, [])) (hp : cut <+: tail) (hne : cut ≠ tail) :
    ∃ n, follow lead k seen v cut = .error (.unexpectedEnd, n) := by
  induction k generalizing seen v tail cut with
  | zero =>
    cases h
    exact absurd (List.prefix_nil.mp hp) hne
  | succ k ih =>
    cases cut with
    | nil => exact ⟨seen, rfl⟩
    | cons b cut =>
      obtain ⟨_, tail, rfl⟩ := List.exists_cons_of_ne_nil (l := tail) (by
        rintro rfl
        cases List.prefix_nil.mp hp)
      obtain ⟨rfl, hcut⟩ := List.cons_prefix_cons.mp hp
      rw [follow_cons] at h ⊢
      split at h
      · rename_i hb
        rw [if_pos hb]
        exact ih h hcut fun he => hne (by rw [he])
      · cases h

lemma toNat_byte {n : ℕ} (h : n < 256) : (UInt8.ofNat n).toNat = n := by
  rw [UInt8.toNat_ofNat']
  exact Nat.mod_eq_of_lt h

lemma fits_later {lead seen n : ℕ} (hs : seen ≠ 1) (h : n < 64) :
    fits lead seen (UInt8.ofNat (n + 128)) = true := by
  simp only [fits, beq_iff_eq, hs, if_false, toNat_byte (show n + 128 < 256 by omega), Bool.and_eq_true,
    decide_eq_true_eq]
  omega

lemma fits_second {lead n : ℕ} (h : n < 64) (h₁ : lead = 0xe0 → 32 ≤ n) (h₂ : lead = 0xed → n < 32)
    (h₃ : lead = 0xf0 → 16 ≤ n) (h₄ : lead = 0xf4 → n < 16) :
    fits lead 1 (UInt8.ofNat (n + 128)) = true := by
  simp only [fits, beq_self_eq_true, if_true, toNat_byte (show n + 128 < 256 by omega), secondRange,
    beq_iff_eq, Bool.and_eq_true, decide_eq_true_eq]
  split_ifs <;> dsimp only <;> omega

lemma utf8EncodeChar_cases (c : Char) :
    (c.toNat < 128 ∧ String.utf8EncodeChar c = [UInt8.ofNat c.toNat]) ∨
      ∃ lead tail k, String.utf8EncodeChar c = lead :: tail ∧ tail.length = k + 1 ∧
        followers? lead.toNat = some (k + 1) ∧
        follow lead.toNat (k + 1) 1 (lead.toNat % 2 ^ (6 - (k + 1))) tail = .ok (c.toNat, []) := by
  have hv : c.toNat < 0xd800 ∨ 0xdfff < c.toNat ∧ c.toNat < 0x110000 := c.valid
  unfold String.utf8EncodeChar
  simp only [show c.val.toNat = c.toNat from rfl]
  generalize c.toNat = v at hv
  split
  · exact .inl ⟨by omega, rfl⟩
  · refine .inr ?_
    split
    · have hlead : (UInt8.ofNat (v / 64 % 32 + 192)).toNat = v / 64 + 192 := by
        rw [toNat_byte (by omega)]
        omega
      refine ⟨_, _, 0, rfl, rfl, ?_, ?_⟩
      · rw [hlead, followers?, if_neg (by omega), if_pos (by simp; omega)]
      · rw [hlead, follow_cons, if_pos (fits_second (by omega) (by omega) (by omega) (by omega) (by omega)),
          toNat_byte (by omega), follow]
        congr 2
        omega
    · split
      · have hlead : (UInt8.ofNat (v / 4096 % 16 + 224)).toNat = v / 4096 + 224 := by
          rw [toNat_byte (by omega)]
          omega
        refine ⟨_, _, 1, rfl, rfl, ?_, ?_⟩
        · rw [hlead, followers?, if_neg (by omega), if_neg (by simp), if_pos (by simp; omega)]
        · rw [hlead, follow_cons, if_pos (fits_second (by omega) (by omega) (by omega) (by omega) (by omega)),
            follow_cons, if_pos (fits_later (by omega) (by omega)), toNat_byte (by omega),
            toNat_byte (by omega), follow]
          congr 2
          omega
      · have hlead : (UInt8.ofNat (v / 262144 % 8 + 240)).toNat = v / 262144 + 240 := by
          rw [toNat_byte (by omega)]
          omega
        refine ⟨_, _, 2, rfl, rfl, ?_, ?_⟩
        · rw [hlead, followers?, if_neg (by omega), if_neg (by simp), if_neg (by simp),
            if_pos (by simp; omega)]
        · rw [hlead, follow_cons, if_pos (fits_second (by omega) (by omega) (by omega) (by omega) (by omega)),
            follow_cons, if_pos (fits_later (by omega) (by omega)),
            follow_cons, if_pos (fits_later (by omega) (by omega)), toNat_byte (by omega),
            toNat_byte (by omega), toNat_byte (by omega), follow]
          congr 2
          omega

lemma decodeChars_char (c : Char) (fuel i : ℕ) (rest : List UInt8) :
    decodeChars (fuel + 1) i (String.utf8EncodeChar c ++ rest) =
      (decodeChars fuel (i + (String.utf8EncodeChar c).length) rest).map (c :: ·) := by
  rcases utf8EncodeChar_cases c with ⟨hc, he⟩ | ⟨lead, tail, k, he, hlength, hk, hfollow⟩
  · have hlead : (UInt8.ofNat c.toNat).toNat = c.toNat := toNat_byte (by omega)
    rw [he, List.singleton_append, decodeChars]
    simp only [hlead, followers?, hc, if_true, Char.ofNat_toNat, List.length_singleton]
  · rw [he, List.cons_append, decodeChars]
    simp only [hk, follow_append hfollow rest, Char.ofNat_toNat, List.length_cons, hlength]
    rfl

lemma decodeChars_cut {c : Char} {cut : List UInt8} (hp : cut <+: String.utf8EncodeChar c)
    (hne : cut ≠ []) (hlt : cut ≠ String.utf8EncodeChar c) (fuel i : ℕ) :
    ∃ n b, decodeChars (fuel + 1) i cut = .error ⟨.unexpectedEnd, i, n, b⟩ := by
  obtain ⟨b, cut, rfl⟩ := List.exists_cons_of_ne_nil hne
  rcases utf8EncodeChar_cases c with ⟨hc, he⟩ | ⟨lead, tail, k, he, hlength, hk, hfollow⟩
  · rw [he] at hp hlt
    obtain ⟨rfl, hcut⟩ := List.cons_prefix_cons.mp hp
    rw [List.prefix_nil.mp hcut] at hlt
    exact absurd rfl hlt
  · rw [he] at hp hlt
    obtain ⟨rfl, hcut⟩ := List.cons_prefix_cons.mp hp
    obtain ⟨n, hn⟩ := follow_cut hfollow hcut fun h => hlt (by rw [h])
    refine ⟨n, b, ?_⟩
    rw [decodeChars]
    simp only [hk, hn]

lemma length_utf8EncodeChar_pos (c : Char) : 0 < (String.utf8EncodeChar c).length := by
  rcases utf8EncodeChar_cases c with ⟨-, he⟩ | ⟨lead, tail, k, he, -⟩ <;> simp [he]

lemma length_le_bytesOf (cs : List Char) : cs.length ≤ (bytesOf cs).length := by
  induction cs with
  | nil => exact Nat.zero_le _
  | cons c cs ih =>
    have := length_utf8EncodeChar_pos c
    rw [bytesOf_cons, List.length_append, List.length_cons]
    omega

lemma decodeChars_bytesOf {cs : List Char} {fuel : ℕ} (hf : cs.length ≤ fuel) (i : ℕ) :
    decodeChars fuel i (bytesOf cs) = .ok cs := by
  induction cs generalizing fuel i with
  | nil => cases fuel <;> rfl
  | cons c cs ih =>
    obtain ⟨fuel, rfl⟩ : ∃ k, fuel = k + 1 := ⟨fuel - 1, by rw [List.length_cons] at hf; omega⟩
    rw [bytesOf_cons, decodeChars_char, ih (by simpa using hf)]
    rfl

lemma decodeChars_bytesOf_cut {cs : List Char} {c : Char} {cut : List UInt8} {fuel : ℕ}
    (hp : cut <+: String.utf8EncodeChar c) (hne : cut ≠ []) (hlt : cut ≠ String.utf8EncodeChar c)
    (hf : cs.length < fuel) (i : ℕ) : ∃ n b, decodeChars fuel i (bytesOf cs ++ cut) =
      .error ⟨.unexpectedEnd, i + (bytesOf cs).length, n, b⟩ := by
  induction cs generalizing fuel i with
  | nil =>
    obtain ⟨fuel, rfl⟩ : ∃ k, fuel = k + 1 := ⟨fuel - 1, by omega⟩
    exact decodeChars_cut hp hne hlt fuel i
  | cons d cs ih =>
    obtain ⟨fuel, rfl⟩ : ∃ k, fuel = k + 1 := ⟨fuel - 1, by omega⟩
    obtain ⟨n, b, h⟩ := ih (by simpa using hf : cs.length < fuel) (i + (String.utf8EncodeChar d).length)
    refine ⟨n, b, ?_⟩
    rw [bytesOf_cons, List.append_assoc, decodeChars_char, h, List.length_append, Nat.add_assoc]
    rfl

theorem decodeUtf8_bytesOf (cs : List Char) : decodeUtf8 (bytesOf cs) = .ok (String.ofList cs) := by
  rw [decodeUtf8, decodeChars_bytesOf (length_le_bytesOf cs)]
  rfl

theorem decodeUtf8_encodeUtf8 (s : String) : decodeUtf8 (encodeUtf8 s) = .ok s := by
  rw [encodeUtf8_eq]
  exact (decodeUtf8_bytesOf s.toList).trans (by rw [String.ofList_toList])

/-- The first of the bytes of a text are those of its first characters, and of a part of the next. -/
lemma prefix_bytesOf {cs : List Char} {bs : List UInt8} (h : bs <+: bytesOf cs) :
    ∃ ds es cut, cs = ds ++ es ∧ bs = bytesOf ds ++ cut ∧ (cut = [] ∨ ∃ c fs, es = c :: fs ∧
      cut <+: String.utf8EncodeChar c ∧ cut ≠ [] ∧ cut ≠ String.utf8EncodeChar c) := by
  induction cs generalizing bs with
  | nil => exact ⟨[], [], [], rfl, List.prefix_nil.mp h, .inl rfl⟩
  | cons c cs ih =>
    rw [bytesOf_cons] at h
    rcases List.prefix_or_prefix_of_prefix h (List.prefix_append _ _) with hp | ⟨rest, rfl⟩
    · by_cases hnil : bs = []
      · exact ⟨[], c :: cs, [], rfl, hnil, .inl rfl⟩
      · by_cases hall : bs = String.utf8EncodeChar c
        · exact ⟨[c], cs, [], rfl, by simp [hall, bytesOf], .inl rfl⟩
        · exact ⟨[], c :: cs, bs, rfl, rfl, .inr ⟨c, cs, rfl, hp, hnil, hall⟩⟩
    · obtain ⟨ds, es, cut, rfl, rfl, hcut⟩ := ih ((List.prefix_append_right_inj _).mp h)
      exact ⟨c :: ds, es, cut, rfl, by rw [bytesOf_cons, List.append_assoc], hcut⟩

end CallSnapshot.Text
