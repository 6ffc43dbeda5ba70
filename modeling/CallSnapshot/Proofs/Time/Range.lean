import CallSnapshot.Proofs.Time.Duration

/-!
Long durations and their lengths. From `2 ^ 46` seconds on the fractions are a sixty-fourth of a second
apart: up to the longest length below the first day that there is none of, every duration becomes one
that lies within half of that.
-/

namespace CallSnapshot

namespace Binary64

/-- Beyond `2 ^ 46` an integer is the nearest fraction to all that lies less than a hundred and
twenty-eighth away. -/
lemma ofRatio_nearby (s : Bool) {k n d : ℕ} (hlow : 2 ^ 46 < k) (hhigh : k < 2 ^ 47) (hn : 0 < n) (hd : 0 < d)
    (hnear : |(n : ℚ) / d - k| < 1 / 128) : ofRatio s n d = ofRatio s (k * d) d := by
  have hk : 0 < k := Nat.pos_of_ne_zero (by rintro rfl; norm_num at hlow)
  obtain ⟨c, i, hreg, rfl⟩ := exists_regular hk (hhigh.le.trans (by norm_num))
  have hvalue : ((c * 2 ^ i : ℕ) : ℚ) = c * 2 ^ (i : ℤ) := by
    rw [zpow_natCast]
    push_cast
    ring
  have hlen : bitLength c + i = 47 := by
    have hrange : (bitLength (c * 2 ^ i) : ℤ) = 47 := by
      apply bitLength_unique
      · have hpower : (2 : ℚ) ^ ((47 : ℤ) - 1) = (2 ^ 46 : ℕ) := by norm_num
        rw [hpower]
        exact_mod_cast hlow.le
      · exact_mod_cast hhigh
    rw [bitLength_shift hreg.pos] at hrange
    exact_mod_cast hrange
  have hunit : unit c i = -6 := by
    rw [unit, precision, leastExponent]
    omega
  have hslack : slack c i = 1 / 2 := by
    rw [slack, if_neg]
    rintro ⟨hpower, -⟩
    have hshift : whole c i = c * 2 ^ i * 2 ^ 6 := by
      have hsum : ((i : ℤ) - -6).toNat = i + 6 := by omega
      rw [whole, hunit, hsum, pow_add]
      ring
    rw [hshift, precision] at hpower
    omega
  have hnear' : Near c i (n / d) := by
    apply near_of_lt hslack
    rw [hreg.whole_eq, hunit, ← hvalue]
    exact hnear.trans_eq (by norm_num)
  have hself : Near c i ((c * 2 ^ i * d : ℕ) / d) := by
    have hd' : (d : ℚ) ≠ 0 := by positivity
    rw [Nat.cast_mul, mul_div_cancel_right₀ _ hd', hvalue]
    exact hreg.near_self
  rw [hreg.ofRatio_near s hn hd hnear', hreg.ofRatio_near s (Nat.mul_pos hk hd) hd hself]

end Binary64

namespace Duration

open Binary64

def least : ℤ := -86399999913600000000

def greatest : ℤ := 86399999999999999999

lemma check_iff {n : ℤ} : check ⟨n⟩ = .ok ⟨n⟩ ↔ least ≤ n ∧ n ≤ greatest := by
  have hdays : days ⟨n⟩ = n / 86400000000 := Int.fdiv_eq_ediv_of_nonneg _ (by decide)
  rw [check, hdays, least, greatest]
  split
  · rename_i h
    simp only [Bool.or_eq_true, decide_eq_true_eq] at h
    exact iff_of_false nofun (by omega)
  · split
    · rename_i h
      simp only [Bool.or_eq_true, decide_eq_true_eq] at h
      exact iff_of_false nofun (by omega)
    · rename_i h
      simp only [Bool.or_eq_true, decide_eq_true_eq] at h
      exact iff_of_true rfl (by omega)

lemma totalSeconds_nearby {k n : ℤ} (hlow : 2 ^ 46 < |k|) (hhigh : |k| < 2 ^ 47)
    (hn : |n - k * 1000000| ≤ 7812) : totalSeconds ⟨n⟩ = totalSeconds ⟨k * 1000000⟩ := by
  rw [Int.abs_eq_natAbs] at hlow hhigh hn
  have hsign : decide (n < 0) = decide (k * 1000000 < 0) := by
    rw [decide_eq_decide]
    omega
  have hmagnitude : (k * 1000000).natAbs = k.natAbs * 1000000 := Int.natAbs_mul ..
  have hnear : |(n.natAbs : ℚ) / (1000000 : ℕ) - k.natAbs| < 1 / 128 := by
    have hle : |(n.natAbs : ℤ) - k.natAbs * 1000000| ≤ 7812 := by
      rw [Int.abs_eq_natAbs]
      omega
    have hle' : |(n.natAbs : ℚ) - k.natAbs * 1000000| ≤ 7812 := by
      have hcast : ((|(n.natAbs : ℤ) - k.natAbs * 1000000| : ℤ) : ℚ) ≤ (7812 : ℤ) := Int.cast_le.mpr hle
      simpa only [Int.cast_abs, Int.cast_sub, Int.cast_mul, Int.cast_natCast, Int.cast_ofNat] using hcast
    calc |(n.natAbs : ℚ) / (1000000 : ℕ) - k.natAbs|
        = |(n.natAbs : ℚ) - k.natAbs * 1000000| / 1000000 := by
          rw [← length_million, ← abs_div, length_million]
          congr 1
          push_cast
          field_simp
      _ ≤ 7812 / 1000000 := by gcongr
      _ < 1 / 128 := by norm_num
  rw [totalSeconds, totalSeconds, ofSigned, ofSigned, hsign, hmagnitude]
  refine ofRatio_nearby _ ?_ ?_ ?_ (by norm_num) hnear
  · omega
  · omega
  · change 0 < n.natAbs
    omega

/-- The longest duration whose length is not rounded up to a day more than there can be. -/
def lastKept : ℤ := 86399999999999992187

lemma ofSeconds_beyond {n : ℤ} (hlow : lastKept < n) (hhigh : n ≤ greatest) :
    ofSeconds (totalSeconds ⟨n⟩) = .error (.tooManyDays 1000000000) := by
  have hnear : |n - 86400000000000 * 1000000| ≤ 7812 := by
    rw [Int.abs_eq_natAbs]
    rw [lastKept] at hlow
    rw [greatest] at hhigh
    omega
  rw [totalSeconds_nearby (by norm_num) (by norm_num) hnear, ofSeconds_whole (by norm_num)]
  rfl

lemma ofSeconds_within {n : ℤ} (hlow : least ≤ n) (hhigh : n ≤ lastKept) :
    ∃ k : ℤ, ofSeconds (totalSeconds ⟨n⟩) = .ok ⟨k⟩ ∧ |k - n| ≤ 7813 := by
  have hsize : |n| < 2 ^ 47 * 1000000 := by
    rw [Int.abs_eq_natAbs]
    rw [least] at hlow
    rw [lastKept] at hhigh
    omega
  obtain ⟨k, hk, herror⟩ := ofSeconds_totalSeconds_error 47 (by norm_num) hsize
  have hclose : |k - n| ≤ 7813 := by
    have : |(k : ℚ) - n| < 7814 := herror.trans_lt (by norm_num)
    have : |k - n| < 7814 := by exact_mod_cast this
    omega
  rw [hk]
  -- only at the two ends could the one nearby be none that there is
  rcases hhigh.eq_or_lt with rfl | hlast
  · refine ⟨86399999999999984375, ?_, by decide⟩
    rw [← hk]
    decide +kernel
  · by_cases hfirst : n ≤ least + 7812
    · have hnear : |n - -86399999913600 * 1000000| ≤ 7812 := by
        rw [Int.abs_eq_natAbs]
        rw [least] at hlow hfirst
        omega
      refine ⟨least, ?_, ?_⟩
      · rw [← hk, totalSeconds_nearby (by norm_num) (by norm_num) hnear, ofSeconds_whole (by norm_num)]
        rfl
      · rw [Int.abs_eq_natAbs]
        omega
    · refine ⟨k, check_iff.mpr ?_, hclose⟩
      rw [abs_le] at hclose
      rw [least] at hfirst ⊢
      rw [lastKept] at hlast
      rw [greatest]
      omega

/-- The durations that come back are those that some length is read as. -/
lemma settled_iff {d : Duration} : d.Settled ↔ ∃ x : Binary64, x.Valid ∧ ofSeconds x = .ok d := by
  constructor
  · exact fun h => ⟨_, ofRatio_valid _ _ _, h⟩
  · rintro ⟨x, hx, h⟩
    exact settled_of_ofSeconds hx h

end Duration

end CallSnapshot
