import CallSnapshot.Proofs.Number.Rounding

/-! How far a rounded number lies from the exact one: by half a unit of its last digit. -/

namespace CallSnapshot.Binary64

/-- The number that a finite binary fraction is; zero for the others. -/
def toRat (x : Binary64) : ℚ := x.toRatio.1 / x.toRatio.2

lemma toRatio_pos (x : Binary64) : 0 < x.toRatio.2 := by
  cases x with
  | finite s m e => exact (power_pos e).2
  | nan => exact Nat.one_pos
  | infinity s => exact Nat.one_pos

lemma toRat_finite (s : Bool) (m : ℕ) (e : ℤ) : (finite s m e).toRat = signedRat s (m * 2 ^ e) := by
  rw [toRat, ← power_ratio e, mul_div_assoc']
  cases s
  · simp [toRatio, signedRat]
  · simp [toRatio, signedRat, neg_div]

lemma toRat_zero (s : Bool) : (finite s 0 0).toRat = 0 := by
  rw [toRat_finite, signedRat_eq_zero]
  simp

lemma toRat_ofParts (s : Bool) (m : ℕ) (e : ℤ) :
    (ofParts s m e).isFinite = true ∧ (ofParts s m e).toRat = signedRat s (m * 2 ^ e) := by
  refine ⟨rfl, ?_⟩
  rcases Nat.eq_zero_or_pos m with rfl | hpos
  · rw [show ofParts s 0 e = finite s 0 0 from rfl, toRat_zero, eq_comm, signedRat_eq_zero]
    simp
  · obtain ⟨k, c, hodd, rfl⟩ := Nat.exists_eq_two_pow_mul_odd hpos.ne'
    rw [mul_comm, ofParts_shift s (Nat.odd_iff.mp hodd), toRat_finite, zpow_add₀ two_ne_zero]
    push_cast
    rw [zpow_natCast]
    ring_nf

lemma roundHalfEven_error (n : ℕ) {d : ℕ} (hd : 0 < d) : |(roundHalfEven n d : ℚ) - n / d| ≤ 1 / 2 := by
  have hd' : (0 : ℚ) < d := by exact_mod_cast hd
  have hdiv : (n : ℚ) = (n / d : ℕ) * d + (n % d : ℕ) := by exact_mod_cast (Nat.div_add_mod' n d).symm
  have hquot : (n : ℚ) / d = (n / d : ℕ) + (n % d : ℕ) / d := by
    rw [eq_comm, ← sub_eq_zero]
    field_simp
    linarith
  have hmod : ((n % d : ℕ) : ℚ) / d < 1 := by
    rw [div_lt_one hd']
    exact_mod_cast Nat.mod_lt n hd
  have hnonneg : 0 ≤ ((n % d : ℕ) : ℚ) / d := by positivity
  have below : 2 * (n % d) ≤ d → ((n % d : ℕ) : ℚ) / d ≤ 1 / 2 := by
    intro h
    have : (2 : ℚ) * (n % d : ℕ) ≤ d := by exact_mod_cast h
    rw [div_le_iff₀ hd']
    linarith
  have above : d ≤ 2 * (n % d) → 1 / 2 ≤ ((n % d : ℕ) : ℚ) / d := by
    intro h
    have : (d : ℚ) ≤ 2 * (n % d : ℕ) := by exact_mod_cast h
    rw [le_div_iff₀ hd']
    linarith
  rw [hquot, abs_le]
  unfold roundHalfEven
  dsimp only
  split
  · rename_i h
    have := below h.le
    constructor <;> linarith
  · rename_i h
    have hup := above (not_lt.mp h)
    split
    · push_cast
      constructor <;> linarith
    · rename_i h'
      have hlow := below (not_lt.mp h')
      rcases Nat.mod_two_eq_zero_or_one (n / d) with h2 | h2 <;> rw [h2] <;> push_cast <;>
        constructor <;> linarith

lemma signedRat_sub (s : Bool) (q r : ℚ) : |signedRat s q - signedRat s r| = |q - r| := by
  cases s
  · rfl
  · simp only [signedRat, if_true]
    rw [← abs_neg]
    congr 1
    ring

/-- A number below `2 ^ k` is rounded in units of `2 ^ (k - 53)` or less. -/
theorem ofRatio_error (s : Bool) {n d : ℕ} {k : ℤ} (hd : 0 < d) (hk : (n : ℚ) / d < 2 ^ k)
    (hlow : -1021 ≤ k) (hhigh : k ≤ 1023) :
    (ofRatio s n d).isFinite = true ∧ |(ofRatio s n d).toRat - signedRat s (n / d)| ≤ 2 ^ (k - 54) := by
  rcases Nat.eq_zero_or_pos n with rfl | hn
  · rw [show ofRatio s 0 d = finite s 0 0 from rfl, toRat_zero]
    refine ⟨rfl, ?_⟩
    cases s <;> simp [signedRat] <;> positivity
  · have hnd : (n = 0 || d = 0) = false := by simp [hn.ne', hd.ne']
    obtain ⟨hlog, hlog'⟩ := floorLog_bounds hn hd
    have hk' : floorLog n d < k := lt_of_two_pow (hlog.trans_lt hk)
    unfold ofRatio
    simp only [hnd, Bool.false_eq_true, if_false]
    have hu : floorLog n d + 1 ≤ 53 + max (floorLog n d - (precision - 1)) leastExponent := by
      have := le_max_left (floorLog n d - (precision - 1)) leastExponent
      simp only [precision] at this ⊢
      omega
    have hu' : max (floorLog n d - (precision - 1)) leastExponent ≤ k - 53 := by
      simp only [precision, leastExponent]
      omega
    generalize max (floorLog n d - (precision - 1)) leastExponent = u at hu hu'
    obtain ⟨ha, hb⟩ := power_pos u
    have hpos : (0 : ℚ) < 2 ^ u := by positivity
    have hratio : ((n * (power u).2 : ℕ) : ℚ) / (d * (power u).1 : ℕ) = n / d / 2 ^ u := by
      rw [← power_ratio u]
      push_cast
      field_simp
    have herror := roundHalfEven_error (n * (power u).2) (Nat.mul_pos hd ha)
    rw [hratio] at herror
    generalize roundHalfEven (n * (power u).2) (d * (power u).1) = m at herror
    have hsmall : (m : ℚ) < 2 ^ (54 : ℤ) := by
      have hq : (n : ℚ) / d / 2 ^ u < 2 ^ (53 : ℤ) := by
        rw [div_lt_iff₀ hpos, ← zpow_add₀ two_ne_zero]
        exact hlog'.trans_le (two_pow_le hu)
      have hle := (abs_le.mp herror).2
      have hroom : (2 : ℚ) ^ (53 : ℤ) + 1 / 2 < 2 ^ (54 : ℤ) := by norm_num
      linarith
    have htop : ¬ 1024 < (bitLength m : ℤ) + u := by
      rcases Nat.eq_zero_or_pos m with rfl | hm
      · have hzero : bitLength 0 = 0 := rfl
        omega
      · have := lt_of_two_pow ((bitLength_bounds hm).1.trans_lt hsmall)
        omega
    rw [if_neg htop]
    obtain ⟨hfinite, hvalue⟩ := toRat_ofParts s m u
    refine ⟨hfinite, ?_⟩
    rw [hvalue, signedRat_sub]
    calc |(m : ℚ) * 2 ^ u - n / d| = |(m : ℚ) - n / d / 2 ^ u| * 2 ^ u := by
          rw [← abs_of_pos hpos, ← abs_mul, abs_of_pos hpos, sub_mul, div_mul_cancel₀ _ hpos.ne']
      _ ≤ 1 / 2 * 2 ^ u := by gcongr
      _ = 2 ^ (u - 1) := by rw [zpow_sub_one₀ two_ne_zero]; ring
      _ ≤ 2 ^ (k - 54) := two_pow_le (by omega)

lemma signedRat_natAbs (n : ℤ) (d : ℕ) : signedRat (n < 0) ((n.natAbs : ℚ) / d) = n / d := by
  have hcast : (n.natAbs : ℚ) = |(n : ℚ)| := by rw [← Int.cast_abs, Int.abs_eq_natAbs, Int.cast_natCast]
  rw [hcast]
  rcases lt_or_ge n 0 with h | h
  · have hneg : (n : ℚ) < 0 := by exact_mod_cast h
    simp [signedRat, h, abs_of_neg hneg, neg_div]
  · have hnonneg : (0 : ℚ) ≤ n := by exact_mod_cast h
    simp [signedRat, not_lt.mpr h, abs_of_nonneg hnonneg]

theorem ofSigned_error {n : ℤ} {d : ℕ} {k : ℤ} (hd : 0 < d) (hk : |(n : ℚ) / d| < 2 ^ k) (hlow : -1021 ≤ k)
    (hhigh : k ≤ 1023) :
    (ofSigned n d).isFinite = true ∧ |(ofSigned n d).toRat - n / d| ≤ 2 ^ (k - 54) := by
  have habs : (n.natAbs : ℚ) / d < 2 ^ k := by
    rwa [abs_div, Nat.abs_cast, ← Int.cast_abs, Int.abs_eq_natAbs, Int.cast_natCast] at hk
  rw [← signedRat_natAbs n d]
  exact ofRatio_error (n < 0) hd habs hlow hhigh

/-- A product below `2 ^ k` of finite numbers. -/
theorem mul_error {x y : Binary64} (hx : x.isFinite = true) (hy : y.isFinite = true) {k : ℤ}
    (hk : |x.toRat * y.toRat| < 2 ^ k) (hlow : -1021 ≤ k) (hhigh : k ≤ 1023) :
    (x.mul y).isFinite = true ∧ |(x.mul y).toRat - x.toRat * y.toRat| ≤ 2 ^ (k - 54) := by
  obtain ⟨s, m, e, rfl⟩ : ∃ s m e, x = finite s m e := by
    cases x <;> first | exact ⟨_, _, _, rfl⟩ | cases hx
  obtain ⟨t, l, f, rfl⟩ : ∃ t l f, y = finite t l f := by
    cases y <;> first | exact ⟨_, _, _, rfl⟩ | cases hy
  have hprod : (finite s m e).toRat * (finite t l f).toRat =
      (((finite s m e).toRatio.1 * (finite t l f).toRatio.1 : ℤ) : ℚ) /
        ((finite s m e).toRatio.2 * (finite t l f).toRatio.2 : ℕ) := by
    rw [toRat, toRat]
    push_cast
    exact div_mul_div_comm ..
  have hd := Nat.mul_pos (toRatio_pos (finite s m e)) (toRatio_pos (finite t l f))
  rw [hprod] at hk ⊢
  simp only [mul, signed]
  split
  · rename_i hzero
    rw [toRat_zero, hzero]
    refine ⟨rfl, ?_⟩
    simp only [Int.cast_zero, zero_div, sub_zero, abs_zero]
    positivity
  · exact ofSigned_error hd hk hlow hhigh

end CallSnapshot.Binary64
