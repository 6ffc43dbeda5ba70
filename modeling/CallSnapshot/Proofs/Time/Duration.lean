import CallSnapshot.Proofs.Number.Error
import CallSnapshot.Time.Duration

/-!
Durations and their lengths in seconds. A length is rounded twice, to a binary fraction and back to
microseconds; a duration that was made from a length comes back from its own.
-/

namespace CallSnapshot

namespace Binary64

variable {m : ℕ} {e : ℤ}

lemma slack_pos (m : ℕ) (e : ℤ) : 0 < slack m e := by
  unfold slack
  split <;> norm_num

lemma Regular.near_self (h : Regular m e) : Near m e (m * 2 ^ e) := by
  have hunit : (0 : ℚ) < 2 ^ unit m e := by positivity
  have hlow := mul_pos (slack_pos m e) hunit
  rw [← h.whole_eq]
  have hlow' : ((whole m e : ℚ) - slack m e) * 2 ^ unit m e < whole m e * 2 ^ unit m e := by linarith
  have hhigh' : (whole m e : ℚ) * 2 ^ unit m e < (whole m e + 1 / 2) * 2 ^ unit m e := by linarith
  exact ⟨hlow'.le, hhigh'.le, fun _ => ⟨hlow', hhigh'⟩⟩

lemma near_of_lt {q : ℚ} (hs : slack m e = 1 / 2) (hq : |q - whole m e * 2 ^ unit m e| < 1 / 2 * 2 ^ unit m e) :
    Near m e q := by
  rw [abs_lt] at hq
  have hlow : ((whole m e : ℚ) - slack m e) * 2 ^ unit m e < q := by
    rw [hs]
    linarith
  have hhigh : q < (whole m e + 1 / 2) * 2 ^ unit m e := by linarith
  exact ⟨hlow.le, hhigh.le, fun _ => ⟨hlow, hhigh⟩⟩

lemma exists_regular {n : ℕ} (hpos : 0 < n) (hn : n ≤ 2 ^ 53) : ∃ c k : ℕ, Regular c k ∧ n = c * 2 ^ k := by
  obtain ⟨k, c, hodd, rfl⟩ := Nat.exists_eq_two_pow_mul_odd hpos.ne'
  have hc := Nat.odd_iff.mp hodd
  have hle : c ≤ 2 ^ k * c := Nat.le_mul_of_pos_left c (by positivity)
  have hsize : c < 2 ^ precision := by
    apply lt_of_le_of_ne (hle.trans hn)
    rintro rfl
    exact absurd hc (by decide)
  have hlen : bitLength c + k ≤ 54 := by
    rw [← bitLength_shift hodd.pos]
    have hbound : ((c * 2 ^ k : ℕ) : ℚ) < 2 ^ (54 : ℤ) := by
      rw [mul_comm]
      exact_mod_cast lt_of_le_of_lt hn (by decide)
    have := lt_of_two_pow ((bitLength_bounds (Nat.mul_pos hodd.pos (by positivity))).1.trans_lt hbound)
    omega
  exact ⟨c, k, ⟨hc, hsize, by rw [leastExponent]; omega, by omega⟩, mul_comm _ _⟩

lemma ofSigned_exact {n : ℤ} (hn : n.natAbs ≤ 2 ^ 53) {d : ℕ} (hd : 0 < d) :
    (ofSigned (n * d) d).isFinite = true ∧ (ofSigned (n * d) d).toRat = n := by
  have hd' : (d : ℚ) ≠ 0 := by positivity
  rcases eq_or_ne n 0 with rfl | hne
  · rw [zero_mul, show ofSigned 0 d = finite false 0 0 from rfl, toRat_zero]
    exact ⟨rfl, rfl⟩
  · have hneg : (n * d < 0) ↔ n < 0 := by
      have hpos : (0 : ℤ) < d := by exact_mod_cast hd
      constructor
      · exact fun h => by_contra fun hn => absurd h (not_lt.mpr (mul_nonneg (not_lt.mp hn) hpos.le))
      · exact fun h => mul_neg_of_neg_of_pos h hpos
    obtain ⟨c, k, hreg, hk⟩ := exists_regular (Int.natAbs_pos.mpr hne) hn
    have hvalue : (n.natAbs : ℚ) = c * 2 ^ (k : ℤ) := by
      rw [hk, zpow_natCast]
      push_cast
      rfl
    have hquot : (((n * d).natAbs : ℕ) : ℚ) / d = c * 2 ^ (k : ℤ) := by
      rw [Int.natAbs_mul, Int.natAbs_natCast, ← hvalue]
      push_cast
      exact mul_div_cancel_right₀ _ hd'
    have hround : ofSigned (n * d) d = finite (n * d < 0) c k := by
      refine hreg.ofRatio_near _ ?_ hd (hquot ▸ hreg.near_self)
      exact Int.natAbs_pos.mpr (mul_ne_zero hne (by exact_mod_cast hd.ne'))
    rw [hround, toRat_finite, ← hvalue]
    have := signedRat_natAbs n 1
    rw [Nat.cast_one, div_one, div_one] at this
    exact ⟨rfl, by simp only [hneg, this]⟩

end Binary64

namespace Duration

open Binary64

def Settled (d : Duration) : Prop := ofSeconds d.totalSeconds = .ok d

lemma check_eq_ok {c d : Duration} (h : check c = .ok d) : c = d := by
  unfold check at h
  split at h
  · cases h
  · split at h
    · cases h
    · exact Except.ok.inj h

lemma check_bound {c d : Duration} (h : check c = .ok d) : c.micros.natAbs < 2 ^ 67 := by
  unfold check at h
  split at h
  · cases h
  · split at h
    · cases h
    · rename_i hdays
      simp only [days, dayMicros, Bool.or_eq_true, decide_eq_true_eq, not_or, not_lt,
        Int.fdiv_eq_ediv_of_nonneg _ (by norm_num : (0 : ℤ) ≤ 86400000000)] at hdays
      omega

lemma totalSeconds_isFinite {d : Duration} (h : check d = .ok d) : d.totalSeconds.isFinite = true := by
  have hlength : |(d.micros : ℚ) / (1000000 : ℕ)| < 2 ^ (67 : ℤ) := by
    have hmicros : |(d.micros : ℚ)| < 2 ^ (67 : ℤ) := by
      have hcast : (d.micros.natAbs : ℚ) < 2 ^ 67 := by exact_mod_cast check_bound h
      rwa [Nat.cast_natAbs, Int.cast_abs] at hcast
    rw [abs_div]
    exact (div_le_self (abs_nonneg _) (by norm_num)).trans_lt hmicros
  exact (ofSigned_error (by norm_num) hlength (by norm_num) (by norm_num)).1

lemma nearest_error (n : ℤ) {d : ℕ} (hd : 0 < d) : |(nearest n d : ℚ) - n / d| ≤ 1 / 2 := by
  have herror := roundHalfEven_error n.natAbs hd
  rw [← signedRat_natAbs n d]
  unfold nearest
  dsimp only
  split
  · rename_i h
    simp only [signedRat, h, decide_true, if_true]
    rw [← abs_neg] at herror
    push_cast
    convert herror using 2
    ring
  · rename_i h
    simpa [signedRat, h] using herror

lemma million : (ofNat 1000000).isFinite = true ∧ (ofNat 1000000).toRat = 1000000 := by
  have h := ofSigned_exact (n := 1000000) (d := 1) (by decide) Nat.one_pos
  rw [Nat.cast_one, mul_one] at h
  exact_mod_cast h

/-- The microseconds of a length lie within a half of it, but for the rounding of the fraction. -/
lemma ofSeconds_error {x : Binary64} (hx : x.isFinite = true) :
    ∃ n : ℤ, ofSeconds x = check ⟨n⟩ ∧ |(n : ℚ) - x.toRat * 1000000| ≤ 1 / 2 + 2 ^ (-33 : ℤ) := by
  have hb : (0 : ℚ) < x.toRatio.2 := by exact_mod_cast x.toRatio_pos
  set r := x.toRatio.1 - x.truncate * x.toRatio.2 with hr
  have hrem : r = x.toRatio.1.tmod x.toRatio.2 := by
    rw [hr, truncate, Int.tmod_def, mul_comm]
  have hsplit : x.toRat = x.truncate + r / x.toRatio.2 := by
    rw [toRat, hr]
    push_cast
    field_simp
    ring
  have hfraction : |(r : ℚ) / x.toRatio.2| < 2 ^ (0 : ℤ) := by
    rw [zpow_zero, abs_div, Nat.abs_cast, div_lt_one hb, ← Int.cast_abs]
    have hlt : |r| < x.toRatio.2 := by
      rw [hrem, Int.abs_eq_natAbs, Int.natAbs_tmod, Int.natAbs_natCast]
      exact_mod_cast Nat.mod_lt _ x.toRatio_pos
    exact_mod_cast hlt
  obtain ⟨hfin, herr⟩ := ofSigned_error x.toRatio_pos hfraction (by norm_num) (by norm_num)
  set f := ofSigned r x.toRatio.2
  obtain ⟨hmfin, hm⟩ := million
  have hclose := abs_le.mp herr
  have hsmall := abs_lt.mp hfraction
  have hprod : |f.toRat * (ofNat 1000000).toRat| < 2 ^ (20 : ℤ) := by
    rw [hm, abs_lt]
    norm_num at hclose hsmall ⊢
    constructor <;> linarith
  obtain ⟨-, herr'⟩ := mul_error hfin hmfin hprod (by norm_num) (by norm_num)
  rw [hm] at herr'
  set g := f.mul (ofNat 1000000)
  have hq : (0 : ℚ) < g.toRatio.2 := by exact_mod_cast g.toRatio_pos
  refine ⟨nearest (x.truncate * 1000000 * g.toRatio.2 + g.toRatio.1) g.toRatio.2, ?_, ?_⟩
  · cases x with
    | finite s m e => rfl
    | nan => cases hx
    | infinity s => cases hx
  · have hnear := nearest_error (x.truncate * 1000000 * g.toRatio.2 + g.toRatio.1) g.toRatio_pos
    have hg : ((x.truncate * 1000000 * g.toRatio.2 + g.toRatio.1 : ℤ) : ℚ) / g.toRatio.2 =
        x.truncate * 1000000 + g.toRat := by
      rw [toRat]
      push_cast
      field_simp
    rw [hg] at hnear
    have hnear := abs_le.mp hnear
    have hlast := abs_le.mp herr'
    rw [hsplit, abs_le]
    norm_num at hclose hlast ⊢
    constructor <;> linarith

lemma eq_of_near {m n : ℤ} {q δ ε : ℚ} (hm : |(m : ℚ) - q| ≤ δ) (hn : |q - n| ≤ ε) (h : δ + ε < 1) : m = n := by
  have hlt : |(m : ℚ) - n| < 1 := (abs_sub_le _ q _).trans_lt (by linarith)
  have : |m - n| < 1 := by exact_mod_cast hlt
  rw [Int.abs_lt_one_iff] at this
  omega

lemma length_million : |(1000000 : ℚ)| = 1000000 := abs_of_pos (by norm_num)

lemma ofSeconds_totalSeconds_error {n : ℤ} (j : ℕ) (hj : j ≤ 1023) (hn : |n| < 2 ^ j * 1000000) :
    ∃ k : ℤ, ofSeconds (totalSeconds ⟨n⟩) = check ⟨k⟩ ∧
      |(k : ℚ) - n| ≤ 1 / 2 + 2 ^ (-33 : ℤ) + 2 ^ ((j : ℤ) - 54) * 1000000 := by
  have hbound : |(n : ℚ) / (1000000 : ℕ)| < 2 ^ (j : ℤ) := by
    have : |(n : ℚ)| < 2 ^ j * 1000000 := by exact_mod_cast hn
    rw [Nat.cast_ofNat, abs_div, length_million, div_lt_iff₀ (by norm_num), zpow_natCast]
    exact this
  obtain ⟨hfin, herr⟩ := ofSigned_error (by norm_num) hbound (by omega) (by omega)
  obtain ⟨k, hk, hnear⟩ := ofSeconds_error hfin
  have hscaled : |(ofSigned n 1000000).toRat * 1000000 - n| ≤ 2 ^ ((j : ℤ) - 54) * 1000000 := by
    rw [Nat.cast_ofNat] at herr
    calc |(ofSigned n 1000000).toRat * 1000000 - n|
        = |(ofSigned n 1000000).toRat - n / 1000000| * 1000000 := by
          rw [← length_million, ← abs_mul, length_million]
          congr 1
          ring
      _ ≤ 2 ^ ((j : ℤ) - 54) * 1000000 := by gcongr
  exact ⟨k, hk, (abs_sub_le _ _ _).trans (add_le_add hnear hscaled)⟩

lemma ofSeconds_small {n : ℤ} (hn : |n| < 2 ^ 33 * 1000000) :
    ofSeconds (totalSeconds ⟨n⟩) = check ⟨n⟩ := by
  obtain ⟨k, hk, hnear⟩ := ofSeconds_totalSeconds_error 33 (by norm_num) hn
  have hself : |(n : ℚ) - n| ≤ 0 := by simp
  rw [hk, eq_of_near hnear hself (by norm_num)]

lemma ofSeconds_whole {n : ℤ} (hn : n.natAbs ≤ 2 ^ 53) :
    ofSeconds (totalSeconds ⟨n * 1000000⟩) = check ⟨n * 1000000⟩ := by
  obtain ⟨hfin, hvalue⟩ := ofSigned_exact hn (d := 1000000) (by norm_num)
  obtain ⟨k, hk, hnear⟩ := ofSeconds_error hfin
  have hexact : |(ofSigned (n * (1000000 : ℕ)) 1000000).toRat * 1000000 - (n * 1000000 : ℤ)| ≤ 0 := by
    rw [hvalue]
    push_cast
    simp
  rw [eq_of_near hnear hexact (by norm_num)] at hk
  exact hk

lemma natAbs_near {s : Bool} {q δ : ℚ} {n : ℤ} (hδ : δ < q) (hn : |(n : ℚ) - signedRat s q| ≤ δ) :
    decide (n < 0) = s ∧ |(n.natAbs : ℚ) - q| ≤ δ := by
  have hcast : (n.natAbs : ℚ) = |(n : ℚ)| := by rw [← Int.cast_abs, Int.abs_eq_natAbs, Int.cast_natCast]
  rw [hcast]
  cases s with
  | false =>
    have hpos : (0 : ℚ) < n := by
      have := (abs_le.mp hn).1
      simp only [signedRat, Bool.false_eq_true, if_false] at this
      linarith
    refine ⟨decide_eq_false (not_lt.mpr (by exact_mod_cast hpos.le)), ?_⟩
    rwa [abs_of_pos hpos]
  | true =>
    have hneg : (n : ℚ) < 0 := by
      have := (abs_le.mp hn).2
      simp only [signedRat, if_true] at this
      linarith
    refine ⟨decide_eq_true (by exact_mod_cast hneg), ?_⟩
    rw [abs_of_neg hneg, ← abs_neg]
    convert hn using 2
    simp only [signedRat, if_true]
    ring

lemma unit_of_large {m : ℕ} {e : ℤ} (h : Regular m e) (hlarge : (2 : ℚ) ^ (33 : ℤ) ≤ m * 2 ^ e) : -19 ≤ unit m e := by
  have hwhole : (whole m e : ℚ) < 2 ^ (53 : ℤ) := by exact_mod_cast h.whole_lt
  have hlt : (2 : ℚ) ^ (33 : ℤ) < 2 ^ (53 + unit m e) := by
    rw [zpow_add₀ two_ne_zero]
    refine hlarge.trans_lt ?_
    rw [← h.whole_eq]
    gcongr
  have := lt_of_two_pow hlt
  omega

lemma power_of_whole {m : ℕ} {e : ℤ} (h : Regular m e) (hunit : -52 ≤ unit m e)
    (hpower : whole m e = 2 ^ (precision - 1)) : ∃ k : ℕ, (m : ℚ) * 2 ^ e = (2 ^ k : ℕ) := by
  obtain ⟨k, hk⟩ : ∃ k : ℕ, 52 + unit m e = k := Int.eq_ofNat_of_zero_le (by omega)
  refine ⟨k, ?_⟩
  rw [← h.whole_eq, hpower]
  push_cast
  rw [← zpow_natCast (2 : ℚ) k, ← hk, zpow_add₀ two_ne_zero]
  norm_num [precision]

lemma near_of_micros {m : ℕ} {e : ℤ} (h : Regular m e) (hlarge : (2 : ℚ) ^ (33 : ℤ) ≤ m * 2 ^ e) {n : ℕ}
    (hn : |(n : ℚ) - m * 2 ^ e * 1000000| ≤ 1 / 2 + 2 ^ (-33 : ℤ)) : Near m e (n / 1000000) := by
  have hunit := unit_of_large h hlarge
  by_cases hpower : whole m e = 2 ^ (precision - 1) ∧ leastExponent < unit m e
  · -- a power of two from here on is a whole number of seconds
    obtain ⟨k, hvalue⟩ := power_of_whole h (by omega) hpower.1
    have heq : (n : ℤ) = (2 ^ k : ℕ) * 1000000 := by
      have hexact : |(m : ℚ) * 2 ^ e * 1000000 - ((2 ^ k : ℕ) * 1000000 : ℤ)| ≤ 0 := by
        rw [hvalue]
        push_cast
        simp
      rw [← Int.cast_natCast (R := ℚ) n] at hn
      exact eq_of_near hn hexact (by norm_num)
    have hself : (n : ℚ) / 1000000 = m * 2 ^ e := by
      rw [hvalue, div_eq_iff (by norm_num)]
      exact_mod_cast heq
    rw [hself]
    exact h.near_self
  · have hstep : (2 : ℚ) ^ (-19 : ℤ) ≤ 2 ^ unit m e := two_pow_le hunit
    refine near_of_lt (by rw [slack, if_neg hpower]) ?_
    rw [h.whole_eq]
    calc |(n : ℚ) / 1000000 - m * 2 ^ e|
        = |(n : ℚ) - m * 2 ^ e * 1000000| / 1000000 := by
          rw [← length_million, ← abs_div, length_million]
          congr 1
          field_simp
      _ ≤ (1 / 2 + 2 ^ (-33 : ℤ)) / 1000000 := by gcongr
      _ < 1 / 2 * 2 ^ (-19 : ℤ) := by norm_num
      _ ≤ 1 / 2 * 2 ^ unit m e := by gcongr

/-- From `2 ^ 33` seconds on, the fractions are so far apart that a length is found again. -/
lemma totalSeconds_large {s : Bool} {m : ℕ} {e : ℤ} (h : Regular m e) (hlarge : (2 : ℚ) ^ (33 : ℤ) ≤ m * 2 ^ e)
    {n : ℤ} (hn : |(n : ℚ) - signedRat s (m * 2 ^ e) * 1000000| ≤ 1 / 2 + 2 ^ (-33 : ℤ)) :
    totalSeconds ⟨n⟩ = .finite s m e := by
  have hbig : (1 / 2 + 2 ^ (-33 : ℤ) : ℚ) < m * 2 ^ e * 1000000 := by
    refine lt_of_lt_of_le ?_ (mul_le_mul_of_nonneg_right hlarge (by norm_num))
    norm_num
  have hsigned : signedRat s (m * 2 ^ e) * 1000000 = signedRat s (m * 2 ^ e * 1000000) := by
    cases s <;> simp [signedRat]
  rw [hsigned] at hn
  obtain ⟨hsign, habs⟩ := natAbs_near hbig hn
  have hpos : 0 < n.natAbs := by
    have := (abs_le.mp habs).1
    have : (0 : ℚ) < n.natAbs := by linarith
    exact_mod_cast this
  rw [totalSeconds, ofSigned, hsign]
  exact h.ofRatio_near s hpos (by norm_num) (near_of_micros h hlarge habs)

/-- A duration made from a length in seconds comes back from its own. -/
theorem settled_of_ofSeconds {x : Binary64} (hx : x.Valid) {d : Duration} (h : ofSeconds x = .ok d) :
    d.Settled := by
  obtain ⟨s, m, e, rfl⟩ : ∃ s m e, x = .finite s m e := by
    cases x with
    | finite s m e => exact ⟨s, m, e, rfl⟩
    | nan => cases h
    | infinity s => cases h
  obtain ⟨n, hn, hnear⟩ := ofSeconds_error (x := .finite s m e) rfl
  rw [hn] at h
  obtain rfl := check_eq_ok h
  rw [toRat_finite] at hnear
  rw [Settled, ← h]
  by_cases hlarge : (2 : ℚ) ^ (33 : ℤ) ≤ m * 2 ^ e
  · rcases valid_cases hx with ⟨rfl, rfl⟩ | hreg
    · norm_num at hlarge
    · rw [totalSeconds_large hreg hlarge hnear, hn]
  · have hle : |(n : ℚ)| < 2 ^ 33 * 1000000 + 1 := by
      have habs : |signedRat s (m * 2 ^ e) * 1000000| < 2 ^ 33 * 1000000 := by
        have hs : |signedRat s (m * 2 ^ e)| = m * 2 ^ e := by
          cases s <;> simp [signedRat, abs_mul]
        rw [abs_mul, hs, length_million]
        rw [not_le] at hlarge
        gcongr
        exact_mod_cast hlarge
      have := abs_sub_abs_le_abs_sub (n : ℚ) (signedRat s (m * 2 ^ e) * 1000000)
      norm_num at hnear habs this ⊢
      linarith
    have hle : |n| ≤ 2 ^ 33 * 1000000 := by
      have : |n| < 2 ^ 33 * 1000000 + 1 := by exact_mod_cast hle
      omega
    rcases hle.lt_or_eq with hlt | heq
    · exact ofSeconds_small hlt
    · -- the bound itself is a whole number of seconds
      obtain ⟨k, hk, hsize⟩ : ∃ k : ℤ, n = k * 1000000 ∧ k.natAbs ≤ 2 ^ 53 := by
        rcases abs_choice n with h | h
        · exact ⟨2 ^ 33, by omega, by norm_num⟩
        · exact ⟨-2 ^ 33, by omega, by norm_num⟩
      rw [hk]
      exact ofSeconds_whole hsize

theorem settled_of_ofWholeSeconds {n : ℤ} {d : Duration} (h : ofWholeSeconds n = .ok d) : d.Settled := by
  have hsize : n.natAbs ≤ 2 ^ 53 := by
    have hbound := check_bound h
    dsimp only at hbound
    omega
  obtain rfl := check_eq_ok h
  rw [Settled, ofSeconds_whole hsize]
  exact h

end Duration

end CallSnapshot
