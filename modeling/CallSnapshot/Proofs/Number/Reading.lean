import CallSnapshot.Proofs.Json.Printable
import CallSnapshot.Proofs.Number.Rounding
import CallSnapshot.Proofs.Value.Plain

/-! Whatever is read or computed as a number is one of its format. -/

namespace CallSnapshot

namespace Binary64

lemma ofSigned_valid (n : ℤ) (d : ℕ) : (ofSigned n d).Valid := ofRatio_valid _ _ _

lemma signed_valid (s : Bool) (n : ℤ) (d : ℕ) : (signed s n d).Valid := by
  unfold signed
  split
  · exact .inl ⟨rfl, rfl⟩
  · exact ofSigned_valid n d

lemma add_valid (x y : Binary64) : (x.add y).Valid := by
  unfold add
  split
  · trivial
  · trivial
  · split <;> trivial
  · trivial
  · trivial
  · exact signed_valid _ _ _

lemma ofInt?_valid {n : ℤ} {x : Binary64} (h : ofInt? n = some x) : x.Valid := by
  unfold ofInt? at h
  split at h
  · cases h
  · cases h
    exact ofSigned_valid n 1

end Binary64

namespace Numeral

lemma scale_valid (s : Bool) (digits : ℕ) (exponent : ℤ) : (scale s digits exponent).Valid := by
  unfold scale
  split
  · exact .inl ⟨rfl, rfl⟩
  · dsimp only
    split
    · trivial
    · split
      · exact .inl ⟨rfl, rfl⟩
      · split <;> exact Binary64.ofRatio_valid _ _ _

lemma readBinary_valid {s : String} {x : Binary64} (h : readBinary s = some x) : x.Valid := by
  unfold readBinary at h
  obtain ⟨cs, -, h⟩ := Option.bind_eq_some_iff.mp h
  dsimp only at h
  split at h
  · cases h
    trivial
  · cases h
    trivial
  · cases h
    trivial
  · obtain ⟨⟨ds, e⟩, -, h⟩ := Option.bind_eq_some_iff.mp h
    cases h
    exact scale_valid _ _ _

end Numeral

namespace Decimal

lemma toBinary_valid (d : Decimal) : d.toBinary.Valid := by
  cases d with
  | finite s m e => exact Numeral.scale_valid s m e
  | infinity s => trivial
  | nan => trivial

lemma bounded?_valid {s : Bool} {m : ℕ} {e : ℤ} {d : Decimal} (h : bounded? s m e = some d) : d.Valid := by
  have hd : d = .finite s m e := by
    unfold bounded? at h
    split at h
    · exact (Option.some.inj h).symm
    · cases h
  rw [hd] at h ⊢
  exact h

lemma digitCount_le {n k : ℕ} (hk : 0 < k) (h : n < 10 ^ k) : digitCount n ≤ k := by
  rw [digitCount, ← String.length_toList, Nat.toList_repr]
  exact (Nat.length_toDigits_le_iff (by decide) hk).mpr h

lemma valid_of_lt {s : Bool} {m k : ℕ} {e : ℤ} (hk : 0 < k) (hm : m < 10 ^ k) (htop : e + k ≤ 1000000000)
    (hlow : -1000000000 ≤ e) : (Decimal.finite s m e).Valid := by
  have hcount := digitCount_le hk hm
  have htop : leading m e ≤ highestExponent := by
    unfold leading highestExponent
    omega
  have hlow : lowestExponent ≤ e := by
    unfold lowestExponent
    omega
  exact if_pos (by simp [htop, hlow])

lemma ofInt_valid {n : ℤ} (h : Numeral.Short n) : (ofInt n).Valid :=
  valid_of_lt (k := Numeral.digitLimit) (by decide) h (by decide) (by decide)

lemma ofBinary_valid {x : Binary64} (h : x.Valid) : (ofBinary x).Valid := by
  cases x with
  | nan => trivial
  | infinity s => trivial
  | finite s m e =>
    obtain ⟨hm, hlow, htop⟩ : m < 2 ^ 53 ∧ -1074 ≤ e ∧ e ≤ 1024 := by
      rcases h with ⟨rfl, rfl⟩ | ⟨-, hm, hlow, htop⟩
      · decide
      · exact ⟨hm, hlow, by omega⟩
    have hm : m < 10 ^ 53 := hm.trans (by norm_num)
    rw [ofBinary]
    split
    · refine valid_of_lt (k := 53 + e.toNat) (by omega) ?_ (by omega) (by omega)
      rw [pow_add]
      exact Nat.mul_lt_mul_of_lt_of_le hm (Nat.pow_le_pow_left (by decide) _) (by positivity)
    · refine valid_of_lt (k := 53 + (-e).toNat) (by omega) ?_ (by omega) (by omega)
      rw [pow_add]
      exact Nat.mul_lt_mul_of_lt_of_le hm (Nat.pow_le_pow_left (by decide) _) (by positivity)

lemma parse?_valid {s : String} {d : Decimal} (h : parse? s = some d) : d.Valid := by
  unfold parse? at h
  dsimp only at h
  split at h
  · cases h
    trivial
  · split at h
    · obtain ⟨n, -, rfl⟩ := Option.map_eq_some_iff.mp h
      trivial
    · obtain ⟨n, -, rfl⟩ := Option.map_eq_some_iff.mp h
      trivial
    · split at h
      · exact bounded?_valid h
      · cases h

end Decimal

end CallSnapshot
