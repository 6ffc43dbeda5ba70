import CallSnapshot.Proofs.Text.Utf8

/-! Bytes that are read as a text are the bytes of that text, and of no other. -/

namespace CallSnapshot.Text

variable {lead k seen v w : ℕ} {b : UInt8} {bs rest : List UInt8}

lemma follow_succ_eq_ok : follow lead (k + 1) seen v bs = .ok (w, rest) ↔
    ∃ b tail, bs = b :: tail ∧ fits lead seen b = true ∧
      follow lead k (seen + 1) (v * 64 + b.toNat % 64) tail = .ok (w, rest) := by
  cases bs with
  | nil => exact ⟨nofun, nofun⟩
  | cons b tail =>
    rw [follow_cons]
    constructor
    · intro h
      split at h
      · exact ⟨b, tail, rfl, ‹_›, h⟩
      · cases h
    · rintro ⟨_, _, ⟨⟩, hb, h⟩
      rw [if_pos hb]
      exact h

lemma follow_zero_eq_ok : follow lead 0 seen v bs = .ok (w, rest) ↔ w = v ∧ bs = rest := by
  simp [follow, eq_comm]

lemma followers?_eq_some (h : followers? lead = some k) : (k = 0 ∧ lead < 0x80) ∨
    (k = 1 ∧ 0xc2 ≤ lead ∧ lead < 0xe0) ∨ (k = 2 ∧ 0xe0 ≤ lead ∧ lead < 0xf0) ∨
      (k = 3 ∧ 0xf0 ≤ lead ∧ lead < 0xf5) := by
  unfold followers? at h
  simp only [Bool.and_eq_true, decide_eq_true_eq] at h
  split_ifs at h <;> simp only [Option.some.injEq] at h <;> omega

lemma fits_bounds (h : fits lead seen b = true) : 0x80 ≤ b.toNat ∧ b.toNat ≤ 0xbf ∧
    (seen = 1 → (lead = 0xe0 → 0xa0 ≤ b.toNat) ∧ (lead = 0xed → b.toNat ≤ 0x9f) ∧
      (lead = 0xf0 → 0x90 ≤ b.toNat) ∧ (lead = 0xf4 → b.toNat ≤ 0x8f)) := by
  simp only [fits, secondRange, beq_iff_eq, Bool.and_eq_true, decide_eq_true_eq] at h
  split_ifs at h <;> dsimp only at h <;> omega

lemma utf8EncodeChar_ofNat (h : v.isValidChar) : String.utf8EncodeChar (Char.ofNat v) =
    if v ≤ 127 then [UInt8.ofNat v]
    else if v ≤ 2047 then [UInt8.ofNat (v / 64 % 32 + 192), UInt8.ofNat (v % 64 + 128)]
    else if v ≤ 65535 then
      [UInt8.ofNat (v / 4096 % 16 + 224), UInt8.ofNat (v / 64 % 64 + 128), UInt8.ofNat (v % 64 + 128)]
    else [UInt8.ofNat (v / 262144 % 8 + 240), UInt8.ofNat (v / 4096 % 64 + 128),
      UInt8.ofNat (v / 64 % 64 + 128), UInt8.ofNat (v % 64 + 128)] := by
  have hv : (Char.ofNat v).val.toNat = v := (Char.toNat_ofNat v).trans (if_pos h)
  simp only [String.utf8EncodeChar, hv]

lemma ofNat_eq_byte {n : ℕ} (h : n = b.toNat) : UInt8.ofNat n = b := by
  rw [h, UInt8.ofNat_toNat]

lemma utf8EncodeChar_follow (hk : followers? b.toNat = some (k + 1))
    (h : follow b.toNat (k + 1) 1 (b.toNat % 2 ^ (6 - (k + 1))) bs = .ok (w, rest)) :
    b :: bs = String.utf8EncodeChar (Char.ofNat w) ++ rest := by
  rcases followers?_eq_some hk with ⟨hk, -⟩ | ⟨hk, hb⟩ | ⟨hk, hb⟩ | ⟨hk, hb⟩
  · omega
  · obtain rfl : k = 0 := by omega
    obtain ⟨c, tail, rfl, hc, h⟩ := follow_succ_eq_ok.mp h
    obtain ⟨rfl, rfl⟩ := follow_zero_eq_ok.mp h
    obtain ⟨hc₁, hc₂, -⟩ := fits_bounds hc
    rw [utf8EncodeChar_ofNat (.inl (by omega)), if_neg (by omega), if_pos (by omega), ofNat_eq_byte (b := b),
      ofNat_eq_byte (b := c), List.cons_append, List.cons_append, List.nil_append]
    all_goals omega
  · obtain rfl : k = 1 := by omega
    obtain ⟨c, tail, rfl, hc, h⟩ := follow_succ_eq_ok.mp h
    obtain ⟨d, tail, rfl, hd, h⟩ := follow_succ_eq_ok.mp h
    obtain ⟨rfl, rfl⟩ := follow_zero_eq_ok.mp h
    obtain ⟨hc₁, hc₂, hc⟩ := fits_bounds hc
    obtain ⟨hd₁, hd₂, -⟩ := fits_bounds hd
    obtain ⟨hc₃, hc₄, -⟩ := hc rfl
    rw [utf8EncodeChar_ofNat (by unfold Nat.isValidChar; omega), if_neg (by omega), if_neg (by omega), if_pos (by omega),
      ofNat_eq_byte (b := b), ofNat_eq_byte (b := c), ofNat_eq_byte (b := d), List.cons_append, List.cons_append,
      List.cons_append, List.nil_append]
    all_goals omega
  · obtain rfl : k = 2 := by omega
    obtain ⟨c, tail, rfl, hc, h⟩ := follow_succ_eq_ok.mp h
    obtain ⟨d, tail, rfl, hd, h⟩ := follow_succ_eq_ok.mp h
    obtain ⟨e, tail, rfl, he, h⟩ := follow_succ_eq_ok.mp h
    obtain ⟨rfl, rfl⟩ := follow_zero_eq_ok.mp h
    obtain ⟨hc₁, hc₂, hc⟩ := fits_bounds hc
    obtain ⟨hd₁, hd₂, -⟩ := fits_bounds hd
    obtain ⟨he₁, he₂, -⟩ := fits_bounds he
    obtain ⟨-, -, hc₃, hc₄⟩ := hc rfl
    rw [utf8EncodeChar_ofNat (by unfold Nat.isValidChar; omega), if_neg (by omega), if_neg (by omega), if_neg (by omega),
      ofNat_eq_byte (b := b), ofNat_eq_byte (b := c), ofNat_eq_byte (b := d), ofNat_eq_byte (b := e),
      List.cons_append, List.cons_append, List.cons_append, List.cons_append, List.nil_append]
    all_goals omega

lemma decodeChars_eq_ok {cs : List Char} {fuel i : ℕ} (hf : bs.length ≤ fuel)
    (h : decodeChars fuel i bs = .ok cs) : bs = bytesOf cs := by
  induction fuel generalizing i bs cs with
  | zero =>
    cases h
    exact List.length_eq_zero_iff.mp (by omega)
  | succ fuel ih =>
    cases bs with
    | nil =>
      cases h
      rfl
    | cons b bs =>
      have hlength : bs.length ≤ fuel := by simpa using hf
      have hcons : ∀ {x : Except DecodeError (List Char)} {c : Char}, x.map (c :: ·) = .ok cs →
          ∃ ds, x = .ok ds ∧ cs = c :: ds := by
        intro x c hx
        cases x with
        | error e => cases hx
        | ok ds =>
          cases hx
          exact ⟨ds, rfl, rfl⟩
      rw [decodeChars] at h
      split at h
      · cases h
      · rename_i hk
        obtain ⟨ds, hds, rfl⟩ := hcons h
        have hb : b.toNat < 0x80 := by
          rcases followers?_eq_some hk with h | h | h | h <;> omega
        rw [bytesOf_cons, utf8EncodeChar_ofNat (.inl (by omega)), if_pos (by omega), UInt8.ofNat_toNat,
          List.singleton_append, ih hlength hds]
      · rename_i k hne hk
        split at h
        · cases h
        · rename_i w rest hfollow
          obtain ⟨k, rfl⟩ := Nat.exists_eq_succ_of_ne_zero hne
          obtain ⟨ds, hds, rfl⟩ := hcons h
          have heq := utf8EncodeChar_follow hk hfollow
          rw [heq, bytesOf_cons, ih ?_ hds]
          have hsum := congrArg List.length heq
          have hpos := length_utf8EncodeChar_pos (Char.ofNat w)
          rw [List.length_append, List.length_cons] at hsum
          omega

/-- Bytes are read as a text if and only if they are the bytes of it. -/
theorem decodeUtf8_eq_ok {s : String} : decodeUtf8 bs = .ok s ↔ bs = bytesOf s.toList := by
  constructor
  · intro h
    unfold decodeUtf8 at h
    cases hcs : decodeChars bs.length 0 bs with
    | error e =>
      rw [hcs] at h
      cases h
    | ok cs =>
      rw [hcs] at h
      cases h
      rw [String.toList_ofList]
      exact decodeChars_eq_ok le_rfl hcs
  · rintro rfl
    rw [decodeUtf8_bytesOf, String.ofList_toList]

end CallSnapshot.Text
