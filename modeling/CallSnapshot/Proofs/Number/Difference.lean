import CallSnapshot.Proofs.Number.Limit
import CallSnapshot.Proofs.Time.Duration

/-!
Exact differences of fractions: those of two different ones are not rounded to zero, since all are multiples
of the least. An integer that the format has stands for itself among them.
-/

namespace CallSnapshot.Binary64

variable {x y : Binary64}

lemma magnitude?_finite (h : x.isFinite = true) : x.magnitude? = some (.exact x.toRat) := by
  cases x with
  | finite s m e => rw [magnitude?, toRat_finite]
  | nan => cases h
  | infinity => cases h

lemma toRat_neg (x : Binary64) : x.neg.toRat = -x.toRat := by
  cases x with
  | finite s m e =>
    rw [neg, toRat_finite, toRat_finite]
    cases s <;> simp [signedRat]
  | nan => simp [neg, toRat, toRatio]
  | infinity s => simp [neg, toRat, toRatio]

lemma toRat_units (hx : x.Valid) : ∃ k : ℤ, x.toRat = k * 2 ^ leastExponent := by
  cases x with
  | finite s m e =>
    rw [toRat_finite]
    rcases valid_cases hx with ⟨rfl, rfl⟩ | h
    · exact ⟨0, by rw [signedRat_eq_zero.mpr (by simp)]; simp⟩
    · obtain ⟨k, rfl⟩ : ∃ k : ℕ, e = k + leastExponent := ⟨(e - leastExponent).toNat, by have := h.least; omega⟩
      refine ⟨if s then -(m * 2 ^ k) else m * 2 ^ k, ?_⟩
      rw [zpow_add₀ two_ne_zero, zpow_natCast]
      cases s <;> simp [signedRat] <;> ring
  | nan => exact ⟨0, by simp [toRat, toRatio]⟩
  | infinity => exact ⟨0, by simp [toRat, toRatio]⟩

lemma ofParts_isZero (s : Bool) {m : ℕ} (hm : 0 < m) (e : ℤ) : (ofParts s m e).isZero = false := by
  obtain ⟨k, c, hodd, rfl⟩ := Nat.exists_eq_two_pow_mul_odd hm.ne'
  rw [mul_comm, ofParts_shift s (Nat.odd_iff.mp hodd)]
  cases c with
  | zero => cases hodd.pos
  | succ => rfl

lemma ofRatio_isZero (s : Bool) {n d : ℕ} (hn : 0 < n) (hd : 0 < d) (h : (2 : ℚ) ^ leastExponent ≤ n / d) :
    (ofRatio s n d).isZero = false := by
  have hnd : (n = 0 || d = 0) = false := by simp [hn.ne', hd.ne']
  obtain ⟨hlog, -⟩ := floorLog_bounds hn hd
  have hunit : (2 : ℚ) ^ max (floorLog n d - ((precision : ℤ) - 1)) leastExponent ≤ n / d := by
    rcases max_cases (floorLog n d - ((precision : ℤ) - 1)) leastExponent with ⟨hu, -⟩ | ⟨hu, -⟩
    · rw [hu]
      exact (two_pow_le (by simp only [precision]; omega)).trans hlog
    · rw [hu]
      exact h
  unfold ofRatio
  simp only [hnd, Bool.false_eq_true, if_false]
  generalize max (floorLog n d - ((precision : ℤ) - 1)) leastExponent = u at hunit
  obtain ⟨ha, hb⟩ := power_pos u
  have hle : d * (power u).1 ≤ n * (power u).2 := by
    rw [← power_ratio u, div_le_div_iff₀ (by exact_mod_cast hb) (by exact_mod_cast hd), mul_comm] at hunit
    exact_mod_cast hunit
  have hround : 0 < roundHalfEven (n * (power u).2) (d * (power u).1) := by
    have hquot := Nat.div_pos hle (Nat.mul_pos hd ha)
    unfold roundHalfEven
    dsimp only
    split
    · exact hquot
    · split <;> omega
  split
  · rfl
  · exact ofParts_isZero s hround u

lemma least_le_of_units {n k : ℤ} {d : ℕ} (h : (n : ℚ) / d = k * 2 ^ leastExponent) (hne : (n : ℚ) / d ≠ 0) :
    (2 : ℚ) ^ leastExponent ≤ n.natAbs / d := by
  have hpos : (0 : ℚ) < 2 ^ leastExponent := by positivity
  have hk : (1 : ℚ) ≤ |(k : ℚ)| := by
    have : k ≠ 0 := by
      rintro rfl
      exact hne (by rw [h, Int.cast_zero, zero_mul])
    exact_mod_cast Int.one_le_abs this
  calc (2 : ℚ) ^ leastExponent ≤ |(k : ℚ)| * 2 ^ leastExponent := le_mul_of_one_le_left hpos.le hk
    _ = |(n : ℚ) / d| := by rw [h, abs_mul, abs_of_pos hpos]
    _ = n.natAbs / d := by rw [abs_div, Nat.abs_cast, ← Int.cast_abs, Int.abs_eq_natAbs, Int.cast_natCast]

lemma add_isZero_iff (hx : x.Valid) (hy : y.Valid) (hfx : x.isFinite = true) (hfy : y.isFinite = true) :
    (x.add y).isZero = true ↔ x.toRat + y.toRat = 0 := by
  have hpx : (0 : ℚ) < x.toRatio.2 := by exact_mod_cast x.toRatio_pos
  have hpy : (0 : ℚ) < y.toRatio.2 := by exact_mod_cast y.toRatio_pos
  set n : ℤ := x.toRatio.1 * y.toRatio.2 + y.toRatio.1 * x.toRatio.2 with hn
  set d : ℕ := x.toRatio.2 * y.toRatio.2 with hd
  have hdpos : 0 < d := Nat.mul_pos x.toRatio_pos y.toRatio_pos
  have hsum : x.toRat + y.toRat = n / d := by
    rw [toRat, toRat, hn, hd]
    push_cast
    field_simp
  have hadd : ∃ s, x.add y = signed s n d := by
    cases x with
    | finite s m e => cases y with
      | finite t k f => exact ⟨_, rfl⟩
      | nan => cases hfy
      | infinity => cases hfy
    | nan => cases hfx
    | infinity => cases hfx
  obtain ⟨s, hs⟩ := hadd
  have hdq : (d : ℚ) ≠ 0 := by positivity
  rw [hs, hsum, signed]
  split
  · rename_i hzero
    exact iff_of_true rfl (by rw [hzero]; simp)
  · rename_i hne
    have hnq : (n : ℚ) ≠ 0 := by exact_mod_cast hne
    refine iff_of_false ?_ (div_ne_zero hnq hdq)
    obtain ⟨k, hk⟩ := toRat_units hx
    obtain ⟨l, hl⟩ := toRat_units hy
    have hunits : (n : ℚ) / d = ((k + l : ℤ) : ℚ) * 2 ^ leastExponent := by
      rw [← hsum, hk, hl]
      push_cast
      ring
    have hleast := least_le_of_units hunits (div_ne_zero hnq hdq)
    rw [ofSigned, ofRatio_isZero _ (Int.natAbs_pos.mpr hne) hdpos hleast]
    exact Bool.false_ne_true

/-- Two finite fractions differ by zero where they are equal. -/
theorem sub_isZero_iff (hx : x.Valid) (hy : y.Valid) (hfx : x.isFinite = true) (hfy : y.isFinite = true) :
    (x.sub y).isZero = true ↔ x.toRat = y.toRat := by
  have hvalid : y.neg.Valid := by cases y <;> exact hy
  have hfinite : y.neg.isFinite = true := by cases y <;> exact hfy
  rw [sub, add_isZero_iff hx hvalid hfx hfinite, toRat_neg, ← sub_eq_add_neg, sub_eq_zero]

lemma abs_le_zero (x : Binary64) : x.abs.le zero = x.isZero := by
  cases x with
  | finite s m e =>
    have hlt : (finite false m e).lt zero = false := by
      simp only [lt, zero, toRatio, Bool.false_eq_true, if_false, decide_eq_false_iff_not, not_lt, Nat.zero_mul,
        Nat.cast_zero, Int.zero_mul]
      exact Int.mul_nonneg (Int.natCast_nonneg _) (Int.natCast_nonneg _)
    rw [abs, le, hlt, Bool.false_or]
    cases m <;> simp [eq, zero, isZero]
  | nan => rfl
  | infinity => rfl

lemma ofInt?_of_magnitude {n : ℤ} (hx : x.Valid) (h : x.magnitude? = some (.exact n)) :
    ∃ y, ofInt? n = some y ∧ y.magnitude? = some (.exact n) := by
  cases x with
  | finite s m e =>
    have hvalue : signedRat s (m * 2 ^ e) = n := by simpa [magnitude?] using h
    have habs : (n.natAbs : ℚ) / (1 : ℕ) = m * 2 ^ e := by
      have hpos : (0 : ℚ) ≤ m * 2 ^ e := by positivity
      have hsize : |signedRat s (m * 2 ^ e)| = m * 2 ^ e := by cases s <;> simp [signedRat]
      rw [Nat.cast_one, div_one, ← hsize, hvalue, ← Int.cast_abs, Int.abs_eq_natAbs, Int.cast_natCast]
    have hback := signedRat_natAbs n 1
    rw [habs, Nat.cast_one, div_one] at hback
    rcases valid_cases hx with ⟨rfl, rfl⟩ | hreg
    · obtain rfl : n = 0 := by simpa [signedRat_eq_zero.mpr, eq_comm] using hvalue
      exact ⟨finite false 0 0, rfl, by simp [magnitude?, signedRat]⟩
    · have hn : 0 < n.natAbs := by
        have : (0 : ℚ) < n.natAbs / (1 : ℕ) := by
          have := hreg.pos
          rw [habs]
          positivity
        simpa using this
      have hround : ofSigned n 1 = finite (n < 0) m e :=
        hreg.ofRatio_near _ hn Nat.one_pos (habs ▸ hreg.near_self)
      exact ⟨finite (n < 0) m e, by rw [ofInt?, hround], by rw [magnitude?, hback]⟩
  | nan => cases h
  | infinity => cases h

lemma ofInt?_small {n : ℤ} (hn : n.natAbs ≤ 2 ^ 53) : ∃ y, ofInt? n = some y ∧ y.magnitude? = some (.exact n) := by
  obtain ⟨hfinite, hvalue⟩ := ofSigned_exact hn Nat.one_pos
  rw [Nat.cast_one, mul_one] at hfinite hvalue
  refine ⟨ofSigned n 1, ?_, by rw [magnitude?_finite hfinite, hvalue]⟩
  unfold ofInt?
  split
  · rename_i hinf
    rw [hinf] at hfinite
    cases hfinite
  · rfl

/-! A distance does not tell its ends apart. -/

protected lemma eq_comm (x y : Binary64) : x.eq y = y.eq x := by
  cases x with
  | nan => cases y <;> rfl
  | infinity s => cases y <;> first | rfl | exact Bool.beq_comm
  | finite s m e =>
    cases y with
    | finite t k f =>
      rw [Bool.eq_iff_iff]
      simp only [eq, Bool.and_eq_true, Bool.or_eq_true, beq_iff_eq]
      constructor
      all_goals
        rintro ⟨rfl, h⟩
        exact ⟨rfl, h.imp_right fun hse => ⟨hse.1.symm, hse.2.symm⟩⟩
    | _ => rfl

lemma abs_ofRatio (s t : Bool) (n d : ℕ) : (ofRatio s n d).abs = (ofRatio t n d).abs := by
  unfold ofRatio
  split
  · rfl
  · dsimp only
    split <;> rfl

lemma abs_signed_neg (s t : Bool) (n : ℤ) (d : ℕ) : (signed s (-n) d).abs = (signed t n d).abs := by
  simp only [signed, neg_eq_zero]
  split
  · rfl
  · rw [ofSigned, ofSigned, Int.natAbs_neg]
    exact abs_ofRatio ..

lemma sub_finite (hx : x.isFinite = true) (hy : y.isFinite = true) : ∃ s, x.sub y =
    signed s (x.toRatio.1 * y.toRatio.2 - y.toRatio.1 * x.toRatio.2) (x.toRatio.2 * y.toRatio.2) := by
  cases x with
  | finite s m e =>
    cases y with
    | finite t k f =>
      refine ⟨s && !t && m == 0 && k == 0, ?_⟩
      have : (finite (!t) k f).toRatio = (-(finite t k f).toRatio.1, (finite t k f).toRatio.2) := by
        cases t <;> simp [toRatio]
      simp only [sub, neg, add, this, neg_mul, ← sub_eq_add_neg]
    | nan => cases hy
    | infinity => cases hy
  | nan => cases hx
  | infinity => cases hx

lemma abs_sub_comm (x y : Binary64) : (x.sub y).abs = (y.sub x).abs := by
  by_cases h : x.isFinite = true ∧ y.isFinite = true
  · obtain ⟨s, hs⟩ := sub_finite h.1 h.2
    obtain ⟨t, ht⟩ := sub_finite h.2 h.1
    rw [hs, ht, mul_comm y.toRatio.2, ← abs_signed_neg s t, neg_sub]
  · cases x <;> cases y <;> first | rfl | exact absurd ⟨rfl, rfl⟩ h | skip
    rename_i s t
    cases s <;> cases t <;> rfl

lemma mul_of_isZero (hx : x.isZero = true) (hy : y.isFinite = true) :
    x.mul y = finite (x.isNegative != y.isNegative) 0 0 := by
  cases x with
  | finite s m e =>
    cases y with
    | finite t k f =>
      obtain rfl : m = 0 := by cases m <;> first | rfl | cases hx
      have : (finite s 0 e).toRatio.1 = 0 := by cases s <;> simp [toRatio]
      simp only [mul, signed, this, zero_mul, if_true]
    | nan => cases hy
    | infinity => cases hy
  | nan => cases hx
  | infinity => cases hx

end CallSnapshot.Binary64
