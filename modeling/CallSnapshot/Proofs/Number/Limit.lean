import CallSnapshot.Proofs.Number.Error

/-!
Which integers are too large for a binary fraction: from half a unit above the largest finite number
on, where the even one of the two neighbours is no longer finite.
-/

namespace CallSnapshot.Binary64

/-- The exponent of half a unit of the last digit of the largest finite number. -/
def halfUnit : ℕ := 970

/-- The largest finite number and half a unit of its last digit, `2 ^ 1024 - 2 ^ 970`. -/
def intLimit : ℕ := 2 ^ (halfUnit + 54) - 2 ^ halfUnit

lemma lt_bitLength_iff {k m : ℕ} : k < bitLength m ↔ 2 ^ k ≤ m := by
  rcases Nat.eq_zero_or_pos m with rfl | hm
  · simp [bitLength]
  · rw [bitLength, if_neg hm.ne', Nat.lt_succ_iff, Nat.le_log2 hm.ne']

lemma even_le_roundHalfEven_iff {n d j : ℕ} (hd : 0 < d) :
    2 * j ≤ roundHalfEven n d ↔ 4 * j * d ≤ 2 * n + d := by
  have hdiv := Nat.div_add_mod' n d
  have hmod := Nat.mod_lt n hd
  unfold roundHalfEven
  dsimp only
  generalize n / d = q at hdiv
  generalize n % d = r at hdiv hmod
  have multiple : ∀ k, 4 * j ≤ k → 4 * j * d ≤ k * d := fun k h => Nat.mul_le_mul_right d h
  have beyond : ∀ k, k + 1 ≤ 4 * j → k * d + d ≤ 4 * j * d := fun k h => by
    have := Nat.mul_le_mul_right d h
    rwa [Nat.add_mul, Nat.one_mul] at this
  have hdouble : (2 * q) * d = 2 * (q * d) := Nat.mul_assoc 2 q d
  have hdouble₁ : (2 * q + 1) * d = 2 * (q * d) + d := by rw [Nat.add_mul, hdouble, Nat.one_mul]
  have hdouble₂ : (2 * q + 2) * d = 2 * (q * d) + 2 * d := by rw [Nat.add_mul, hdouble]
  constructor
  · intro h
    have hle : 4 * j ≤ 2 * q ∨ (4 * j ≤ 2 * q + 2 ∧ d ≤ 2 * r) := by
      split at h
      · omega
      · split at h <;> omega
    rcases hle with hle | ⟨hle, hr⟩
    · have := multiple _ hle
      omega
    · have := multiple _ hle
      omega
  · intro h
    by_contra hlt
    have hgt : 2 * q + 2 ≤ 4 * j ∧ (d ≤ 2 * r → 2 * q + 3 ≤ 4 * j) := by
      split at hlt
      · omega
      · split at hlt <;> omega
    have h₁ := beyond _ hgt.1
    by_cases hr : d ≤ 2 * r
    · have h₂ := beyond _ (hgt.2 hr)
      omega
    · omega

lemma floorLog_one {n : ℕ} (hn : 0 < n) : floorLog n 1 = n.log2 := by
  refine floorLog_unique hn Nat.one_pos ?_ ?_
  · rw [Nat.cast_one, div_one, zpow_natCast]
    exact_mod_cast Nat.log2_self_le hn.ne'
  · rw [Nat.cast_one, div_one]
    exact_mod_cast @Nat.lt_log2_self n

lemma ofRatio_isInfinite_unit (s : Bool) {n k : ℕ} (hn : 0 < n) (hk : n.log2 = k + 52) :
    (ofRatio s n 1).isInfinite = true ↔ 1024 < bitLength (roundHalfEven n (2 ^ k)) + k := by
  have hunit : max (floorLog n 1 - ((precision : ℤ) - 1)) leastExponent = k := by
    rw [floorLog_one hn, hk, precision, leastExponent]
    omega
  have hpower : power k = (2 ^ k, 1) := by simp [power]
  unfold ofRatio
  simp only [hn.ne', one_ne_zero, decide_false, Bool.or_false, Bool.false_eq_true, if_false, hunit, hpower,
    mul_one, one_mul]
  split
  · rename_i h
    exact iff_of_true rfl (by exact_mod_cast h)
  · rename_i h
    exact iff_of_false (by simp [ofParts, isInfinite]) (by exact_mod_cast h)

lemma two_mul_intLimit : 2 * intLimit + 2 ^ (halfUnit + 1) = 4 * 2 ^ 52 * 2 ^ (halfUnit + 1) := by
  rw [intLimit, pow_add, pow_succ]
  omega

lemma intLimit_bounds : 2 ^ (halfUnit + 53) ≤ intLimit ∧ intLimit ≤ 2 ^ (halfUnit + 54) := by
  rw [intLimit, pow_add, pow_add]
  omega

lemma isInfinite_of_isFinite {x : Binary64} (h : x.isFinite = true) : x.isInfinite = false := by
  cases x with
  | finite => rfl
  | nan => cases h
  | infinity => cases h

lemma ofRatio_isInfinite_iff (s : Bool) {n : ℕ} (hn : 0 < n) :
    (ofRatio s n 1).isInfinite = true ↔ intLimit ≤ n := by
  have hlow := Nat.log2_self_le hn.ne'
  have hhigh := @Nat.lt_log2_self n
  have hexponent : halfUnit = 970 := rfl
  rcases lt_or_ge n.log2 (halfUnit + 53) with hlog | hlog
  · have hsmall : n < 2 ^ (halfUnit + 53) := hhigh.trans_le (Nat.pow_le_pow_right (by decide) hlog)
    have hfinite : (ofRatio s n 1).isFinite = true := by
      refine (ofRatio_error s (k := (halfUnit + 53 : ℕ)) Nat.one_pos ?_ (by omega) (by omega)).1
      calc (n : ℚ) / (1 : ℕ) = n := by rw [Nat.cast_one, div_one]
        _ < (2 ^ (halfUnit + 53) : ℕ) := Nat.cast_lt.mpr hsmall
        _ = 2 ^ ((halfUnit + 53 : ℕ) : ℤ) := by rw [Nat.cast_pow, Nat.cast_ofNat, zpow_natCast]
    refine iff_of_false ?_ (not_le.mpr (hsmall.trans_le intLimit_bounds.1))
    rw [isInfinite_of_isFinite hfinite]
    exact Bool.false_ne_true
  · obtain ⟨k, hk⟩ : ∃ k, n.log2 = k + 52 := ⟨n.log2 - 52, by omega⟩
    have hunit : 0 < 2 ^ k := Nat.two_pow_pos k
    rw [ofRatio_isInfinite_unit s hn hk]
    rcases Nat.lt_or_ge (halfUnit + 1) k with hlarge | hlarge
    · have hlimit : 2 ^ (halfUnit + 54) ≤ 2 ^ n.log2 := Nat.pow_le_pow_right (by decide) (by omega)
      refine iff_of_true ?_ (intLimit_bounds.2.trans (hlimit.trans hlow))
      have hlow : 2 ^ 52 ≤ roundHalfEven n (2 ^ k) := by
        refine (even_le_roundHalfEven_iff (j := 2 ^ 51) hunit).mpr ?_
        rw [hk, pow_add] at hlow
        omega
      have := lt_bitLength_iff.mpr hlow
      omega
    · obtain rfl : k = halfUnit + 1 := by omega
      have htop := even_le_roundHalfEven_iff (n := n) (j := 2 ^ 52) hunit
      rw [← two_mul_intLimit] at htop
      have hbits : 53 < bitLength (roundHalfEven n (2 ^ (halfUnit + 1))) ↔
          2 * 2 ^ 52 ≤ roundHalfEven n (2 ^ (halfUnit + 1)) := lt_bitLength_iff
      have hroom : 1024 < bitLength (roundHalfEven n (2 ^ (halfUnit + 1))) + (halfUnit + 1) ↔
          53 < bitLength (roundHalfEven n (2 ^ (halfUnit + 1))) := by omega
      rw [hroom, hbits, htop, Nat.add_le_add_iff_right, Nat.mul_le_mul_left_iff two_pos]

/-- An integer has a nearest fraction up to the limit. -/
theorem ofInt?_eq_none_iff (n : ℤ) : ofInt? n = none ↔ intLimit ≤ n.natAbs := by
  rcases Nat.eq_zero_or_pos n.natAbs with h | h
  · obtain rfl := Int.natAbs_eq_zero.mp h
    exact iff_of_false nofun (not_le.mpr ((Nat.two_pow_pos _).trans_le intLimit_bounds.1))
  · rw [← ofRatio_isInfinite_iff (n < 0) h, ofInt?, ofSigned]
    cases ofRatio (n < 0) n.natAbs 1 <;> simp [isInfinite]

lemma ofRatio_ne_nan (s : Bool) (n d : ℕ) : ofRatio s n d ≠ nan := by
  unfold ofRatio
  dsimp only
  split
  · nofun
  · split <;> nofun

lemma ofInt?_isFinite {n : ℤ} {x : Binary64} (h : ofInt? n = some x) : x.isFinite = true := by
  have hnan := ofRatio_ne_nan (n < 0) n.natAbs 1
  rw [ofInt?, ofSigned] at h
  cases hr : ofRatio (n < 0) n.natAbs 1 with
  | nan => exact absurd hr hnan
  | infinity s =>
    rw [hr] at h
    cases h
  | finite s m e =>
    rw [hr] at h
    cases h
    rfl

end CallSnapshot.Binary64
