import CallSnapshot.Number.Numeral
import CallSnapshot.Number.Shortest
import CallSnapshot.Proofs.Number.Rounding

/-!
The shortest digits of a number lie in the interval of the numbers that round to it: on a grid of
seventeen places behind the first digit there is always such a point.
-/

namespace CallSnapshot.Binary64

def guess (k : ℤ) : ℤ := (k * 30103).fdiv 100000 - 1

lemma powers_up : ∀ i < 1100, 10 ^ (i * 30103 / 100000) ≤ 10 * 2 ^ i ∧
    2 ^ (i + 1) ≤ 10 ^ (i * 30103 / 100000 + 2) := by decide +kernel

lemma powers_down : ∀ i < 1100, 2 ^ i ≤ 10 ^ ((i * 30103 + 99999) / 100000 + 1) ∧
    10 ^ ((i * 30103 + 99999) / 100000) * 2 ≤ 100 * 2 ^ i := by decide +kernel

lemma guess_bounds {k : ℤ} (hlow : -1100 < k) (hhigh : k < 1100) :
    (10 : ℚ) ^ guess k ≤ 2 ^ k ∧ (2 : ℚ) ^ (k + 1) ≤ 10 ^ (guess k + 3) := by
  rcases le_or_gt 0 k with hk | hk
  · obtain ⟨i, rfl⟩ := Int.eq_ofNat_of_zero_le hk
    obtain ⟨h₁, h₂⟩ := powers_up i (by omega)
    have hguess : guess i = (i * 30103 / 100000 : ℕ) - 1 := by
      rw [guess, Int.fdiv_eq_ediv_of_nonneg _ (by norm_num)]
      omega
    rw [hguess]
    constructor
    · rw [zpow_sub_one₀ (by norm_num), zpow_natCast, zpow_natCast]
      have : (10 : ℚ) ^ (i * 30103 / 100000) ≤ 10 * 2 ^ i := by exact_mod_cast h₁
      linarith
    · have he : ((i * 30103 / 100000 : ℕ) : ℤ) - 1 + 3 = (i * 30103 / 100000 + 2 : ℕ) := by
        push_cast
        ring
      have hi : (i : ℤ) + 1 = (i + 1 : ℕ) := by push_cast; ring
      rw [he, hi, zpow_natCast, zpow_natCast]
      exact_mod_cast h₂
  · obtain ⟨i, rfl⟩ : ∃ i : ℕ, k = -(i : ℤ) := ⟨(-k).toNat, by omega⟩
    obtain ⟨h₁, h₂⟩ := powers_down i (by omega)
    generalize hc : (i * 30103 + 99999) / 100000 = c at h₁ h₂
    have hguess : guess (-(i : ℤ)) = -((c + 1 : ℕ) : ℤ) := by
      rw [guess, Int.fdiv_eq_ediv_of_nonneg _ (by norm_num)]
      omega
    rw [hguess]
    constructor
    · rw [zpow_neg, zpow_neg, zpow_natCast, zpow_natCast]
      refine inv_anti₀ (by positivity) ?_
      exact_mod_cast h₁
    · have h₂' : (10 : ℚ) ^ c * 2 ≤ 100 * 2 ^ i := by exact_mod_cast h₂
      have he : -((c + 1 : ℕ) : ℤ) + 3 = 2 - (c : ℤ) := by push_cast; ring
      rw [he, zpow_add_one₀ (by norm_num), zpow_neg, zpow_sub₀ (by norm_num), zpow_natCast, zpow_natCast,
        le_div_iff₀ (by positivity), inv_mul_eq_div, div_mul_eq_mul_div, div_le_iff₀ (by positivity)]
      norm_num at h₂' ⊢
      linarith

lemma tenPower_pos (p : ℤ) : 0 < (tenPower p).1 ∧ 0 < (tenPower p).2 := by
  unfold tenPower
  split <;> simp

lemma tenPower_ratio (p : ℤ) : ((tenPower p).1 : ℚ) / (tenPower p).2 = 10 ^ p := by
  unfold tenPower
  split
  · rename_i h
    obtain ⟨k, rfl⟩ := Int.eq_ofNat_of_zero_le h
    simp
  · rename_i h
    obtain ⟨k, hk⟩ : ∃ k : ℕ, p = -(k : ℤ) := ⟨(-p).toNat, by omega⟩
    subst hk
    simp

lemma tenPowerLe_iff {p : ℤ} {n d : ℕ} (hd : 0 < d) :
    tenPowerLe p n d = true ↔ (10 : ℚ) ^ p ≤ n / d := by
  obtain ⟨-, hb⟩ := tenPower_pos p
  have hb' : (0 : ℚ) < (tenPower p).2 := by exact_mod_cast hb
  have hd' : (0 : ℚ) < d := by exact_mod_cast hd
  rw [← tenPower_ratio p, div_le_div_iff₀ hb' hd']
  simp only [tenPowerLe, decide_eq_true_eq]
  exact_mod_cast Iff.rfl

lemma raiseWhile_le {n d : ℕ} (hd : 0 < d) {fuel : ℕ} {p : ℤ} (h : (10 : ℚ) ^ p ≤ n / d) :
    (10 : ℚ) ^ raiseWhile n d fuel p ≤ n / d ∧ p ≤ raiseWhile n d fuel p := by
  induction fuel generalizing p with
  | zero => exact ⟨h, le_rfl⟩
  | succ fuel ih =>
    unfold raiseWhile
    split
    · rename_i hle
      obtain ⟨h₁, h₂⟩ := ih ((tenPowerLe_iff hd).mp hle)
      exact ⟨h₁, by omega⟩
    · exact ⟨h, le_rfl⟩

lemma leadingExponent_bounds {n d : ℕ} (hn : 0 < n) (hd : 0 < d) (hlow : (2 : ℚ) ^ (-1099 : ℤ) ≤ n / d)
    (hhigh : (n : ℚ) / d < 2 ^ (1100 : ℤ)) :
    (10 : ℚ) ^ leadingExponent n d ≤ n / d ∧ (n : ℚ) / d < 10 ^ (leadingExponent n d + 3) := by
  obtain ⟨h₁, h₂⟩ := floorLog_bounds hn hd
  have hk₁ := lt_of_two_pow (hlow.trans_lt h₂)
  have hk₂ := lt_of_two_pow (h₁.trans_lt hhigh)
  obtain ⟨hg₁, hg₂⟩ := guess_bounds (k := floorLog n d) (by omega) hk₂
  obtain ⟨hr₁, hr₂⟩ : (10 : ℚ) ^ leadingExponent n d ≤ n / d ∧
      guess (floorLog n d) ≤ leadingExponent n d := raiseWhile_le hd (hg₁.trans h₁)
  refine ⟨hr₁, h₂.trans_le (hg₂.trans ?_)⟩
  exact zpow_le_zpow_right₀ (by norm_num) (by omega)

section Search

variable {m : ℕ} {e : ℤ}

def floor (m : ℕ) (e : ℤ) : ℚ := ((whole m e : ℚ) - slack m e) * 2 ^ unit m e

def ceiling (m : ℕ) (e : ℤ) : ℚ := ((whole m e : ℚ) + 1 / 2) * 2 ^ unit m e

lemma near_iff {q : ℚ} : Near m e q ↔
    (floor m e ≤ q ∧ q ≤ ceiling m e) ∧ (whole m e % 2 = 1 → floor m e < q ∧ q < ceiling m e) :=
  ⟨fun h => ⟨⟨h.low, h.high⟩, h.inside⟩, fun h => ⟨h.1.1, h.1.2, h.2⟩⟩

variable (h : Regular m e)

include h

/-- The four quarters of a unit in which the ends of the interval are whole. -/
lemma Regular.neighbourhood_eq : neighbourhood m e =
    ⟨4 * whole m e * (power (unit m e - 2)).1,
      (4 * whole m e - (if whole m e = 2 ^ (precision - 1) ∧ leastExponent < unit m e then 1 else 2)) *
        (power (unit m e - 2)).1,
      (4 * whole m e + 2) * (power (unit m e - 2)).1, (power (unit m e - 2)).2,
      whole m e % 2 = 0⟩ := by
  have hunit := h.unit_le
  have hwhole : m * (power (e - unit m e)).1 = whole m e := by
    rw [power, if_pos (by omega)]
    rfl
  have hu : max ((bitLength m : ℤ) - 1 + e - (precision - 1)) leastExponent = unit m e := rfl
  simp only [neighbourhood, hu, hwhole, Bool.and_eq_true, decide_eq_true_eq]

lemma Regular.neighbourhood_ratios :
    ((neighbourhood m e).value : ℚ) / (neighbourhood m e).denominator = m * 2 ^ e ∧
      ((neighbourhood m e).low : ℚ) / (neighbourhood m e).denominator = floor m e ∧
      ((neighbourhood m e).high : ℚ) / (neighbourhood m e).denominator = ceiling m e ∧
      0 < (neighbourhood m e).denominator := by
  rw [h.neighbourhood_eq]
  dsimp only
  have hquarter : ∀ q : ℚ, q * (power (unit m e - 2)).1 / (power (unit m e - 2)).2 = q / 4 * 2 ^ unit m e := by
    intro q
    rw [mul_div_assoc, power_ratio, zpow_sub₀ (by norm_num)]
    norm_num
    ring
  have hpos := h.whole_pos
  refine ⟨?_, ?_, ?_, (power_pos _).2⟩
  · push_cast
    rw [hquarter, ← h.whole_eq]
    ring
  · rw [floor, slack]
    split
    · push_cast [show 1 ≤ 4 * whole m e by omega]
      rw [hquarter]
      ring
    · push_cast [show 2 ≤ 4 * whole m e by omega]
      rw [hquarter]
      ring
  · push_cast
    rw [hquarter, ceiling]
    ring

lemma Regular.holds_iff {digits : ℕ} {p : ℤ} :
    (neighbourhood m e).holds digits p = true ↔ Near m e (digits * 10 ^ p) := by
  obtain ⟨-, hlow, hhigh, hden⟩ := h.neighbourhood_ratios
  have hclosed : (neighbourhood m e).closed = decide (whole m e % 2 = 0) := by rw [h.neighbourhood_eq]
  generalize neighbourhood m e = r at *
  obtain ⟨-, hb⟩ := tenPower_pos p
  have hb' : (0 : ℚ) < (tenPower p).2 := by exact_mod_cast hb
  have hden' : (0 : ℚ) < r.denominator := by exact_mod_cast hden
  -- over the common denominator
  have hx : (digits : ℚ) * 10 ^ p =
      (digits * (tenPower p).1 * r.denominator : ℕ) / (r.denominator * (tenPower p).2 : ℕ) := by
    rw [← tenPower_ratio]
    push_cast
    field_simp
  have hl : floor m e = (r.low * (tenPower p).2 : ℕ) / (r.denominator * (tenPower p).2 : ℕ) := by
    rw [← hlow]
    push_cast
    field_simp
  have hh : ceiling m e = (r.high * (tenPower p).2 : ℕ) / (r.denominator * (tenPower p).2 : ℕ) := by
    rw [← hhigh]
    push_cast
    field_simp
  have hpos : (0 : ℚ) < (r.denominator * (tenPower p).2 : ℕ) := by exact_mod_cast Nat.mul_pos hden hb
  rw [near_iff, hx, hl, hh, div_le_div_iff_of_pos_right hpos, div_le_div_iff_of_pos_right hpos,
    div_lt_div_iff_of_pos_right hpos, div_lt_div_iff_of_pos_right hpos]
  simp only [Nat.cast_le, Nat.cast_lt, Neighbourhood.holds, hclosed]
  split
  · simp_all
  · simp_all
    omega

lemma Regular.near_bounds {q : ℚ} (hq : Near m e q) :
    (2 : ℚ) ^ (-1075 : ℤ) ≤ q ∧ q ≤ 2 * (m * 2 ^ e) := by
  have hwhole : (1 : ℚ) ≤ whole m e := by exact_mod_cast h.whole_pos
  have hslack := slack_le m e
  have hunit : (2 : ℚ) ^ (-1074 : ℤ) ≤ 2 ^ unit m e := two_pow_le (le_max_right _ _)
  have hlow : (2 : ℚ) ^ (-1075 : ℤ) ≤ floor m e := by
    calc (2 : ℚ) ^ (-1075 : ℤ) = 1 / 2 * 2 ^ (-1074 : ℤ) := by
          rw [show (-1075 : ℤ) = -1074 - 1 by norm_num, zpow_sub_one₀ (by norm_num)]
          ring
      _ ≤ floor m e := mul_le_mul (by linarith) hunit (by positivity) (by linarith)
  refine ⟨hlow.trans hq.low, hq.high.trans ?_⟩
  rw [← h.whole_eq, ← mul_assoc]
  gcongr
  linarith

lemma Regular.value_bounds : (2 : ℚ) ^ (-1074 : ℤ) ≤ m * 2 ^ e ∧ (m : ℚ) * 2 ^ e < 2 ^ (1024 : ℤ) := by
  obtain ⟨h₁, h₂⟩ := bitLength_bounds h.pos
  have hm : (1 : ℚ) ≤ m := by exact_mod_cast h.pos
  have hpos : (0 : ℚ) < 2 ^ e := by positivity
  constructor
  · calc (2 : ℚ) ^ (-1074 : ℤ) ≤ 2 ^ e := two_pow_le h.least
      _ ≤ m * 2 ^ e := le_mul_of_one_le_left hpos.le hm
  · calc (m : ℚ) * 2 ^ e < 2 ^ (bitLength m : ℤ) * 2 ^ e := by gcongr
      _ = 2 ^ ((bitLength m : ℤ) + e) := (zpow_add₀ (by norm_num) _ _).symm
      _ ≤ 2 ^ (1024 : ℤ) := two_pow_le h.top

lemma Regular.leading_bounds {p : ℤ}
    (hp : leadingExponent (neighbourhood m e).value (neighbourhood m e).denominator = p) :
    (10 : ℚ) ^ p ≤ m * 2 ^ e ∧ (m : ℚ) * 2 ^ e < 10 ^ (p + 3) := by
  obtain ⟨hvalue, -, -, hden⟩ := h.neighbourhood_ratios
  obtain ⟨hlow, hhigh⟩ := h.value_bounds
  have hpos : 0 < (neighbourhood m e).value := by
    by_contra hzero
    rw [Nat.eq_zero_of_not_pos hzero, Nat.cast_zero, zero_div] at hvalue
    rw [← hvalue] at hlow
    exact absurd hlow (not_le.mpr (by positivity))
  rw [← hvalue, ← hp]
  refine leadingExponent_bounds hpos hden ?_ ?_
  · rw [hvalue]
    exact (two_pow_le (by norm_num)).trans hlow
  · rw [hvalue]
    exact hhigh.trans_le (two_pow_le (by norm_num))

/-- The grid point below a number is near it, where seventeen digits of it are before the point. -/
lemma Regular.onGrid_isSome {p : ℤ} (hp : (10 : ℚ) ^ (p + 17) ≤ m * 2 ^ e) :
    ((neighbourhood m e).onGrid p).isSome = true := by
  obtain ⟨hvalue, -, -, hden⟩ := h.neighbourhood_ratios
  obtain ⟨ha, hb⟩ := tenPower_pos p
  have hbelow : (neighbourhood m e).holds ((neighbourhood m e).value * (tenPower p).2 /
      ((tenPower p).1 * (neighbourhood m e).denominator)) p = true := by
    rw [h.holds_iff]
    generalize hd : (neighbourhood m e).value * (tenPower p).2 /
      ((tenPower p).1 * (neighbourhood m e).denominator) = d
    have hstep : 0 < (tenPower p).1 * (neighbourhood m e).denominator := Nat.mul_pos ha hden
    have hb' : (0 : ℚ) < (tenPower p).2 := by exact_mod_cast hb
    have hden' : (0 : ℚ) < (neighbourhood m e).denominator := by exact_mod_cast hden
    have hle : (d : ℚ) * 10 ^ p ≤ m * 2 ^ e := by
      rw [← hvalue, ← tenPower_ratio, ← mul_div_assoc, div_le_div_iff₀ hb' hden']
      have := Nat.div_mul_le_self ((neighbourhood m e).value * (tenPower p).2)
        ((tenPower p).1 * (neighbourhood m e).denominator)
      rw [hd, ← mul_assoc] at this
      exact_mod_cast this
    have hlt : (m : ℚ) * 2 ^ e < (d + 1) * 10 ^ p := by
      rw [← hvalue, ← tenPower_ratio, ← mul_div_assoc, div_lt_div_iff₀ hden' hb']
      have := Nat.lt_div_mul_add hstep (a := (neighbourhood m e).value * (tenPower p).2)
      rw [hd, ← Nat.succ_mul, ← mul_assoc] at this
      exact_mod_cast this
    -- the step is less than a tenth of the last unit
    have hpos : (0 : ℚ) < 2 ^ unit m e := by positivity
    have hsmall : (10 : ℚ) ^ p < 1 / 4 * 2 ^ unit m e := by
      have hwhole : (whole m e : ℚ) < 2 ^ 53 := by exact_mod_cast h.whole_lt
      rw [zpow_add₀ (by norm_num), ← h.whole_eq] at hp
      have : (whole m e : ℚ) * 2 ^ unit m e < 2 ^ 53 * 2 ^ unit m e := by gcongr
      norm_num at hp this ⊢
      linarith
    have hslack : 1 / 4 ≤ slack m e := by
      unfold slack
      split <;> norm_num
    have hfloor : floor m e < d * 10 ^ p := by
      have : floor m e ≤ m * 2 ^ e - 1 / 4 * 2 ^ unit m e := by
        rw [floor, sub_mul, h.whole_eq]
        gcongr
      linarith
    have hceiling : (d : ℚ) * 10 ^ p < ceiling m e := by
      have : ceiling m e = m * 2 ^ e + 1 / 2 * 2 ^ unit m e := by rw [ceiling, add_mul, h.whole_eq]
      linarith
    exact near_iff.mpr ⟨⟨hfloor.le, hceiling.le⟩, fun _ => ⟨hfloor, hceiling⟩⟩
  unfold Neighbourhood.onGrid
  dsimp only
  rw [hbelow]
  split
  · simp_all
  · rfl
  · rfl
  · split
    · rfl
    · split <;> rfl

end Search

lemma Neighbourhood.holds_of_onGrid {r : Neighbourhood} {p : ℤ} {d : ℕ} (h : r.onGrid p = some d) :
    r.holds d p = true := by
  unfold Neighbourhood.onGrid at h
  dsimp only at h
  split at h
  · cases h
  · cases h
    assumption
  · cases h
    assumption
  · rename_i h₁ h₂
    split at h
    · cases h
      exact h₁
    · split at h
      · cases h
        exact h₂
      · cases h
        rcases Nat.mod_two_eq_zero_or_one (r.value * (tenPower p).2 / ((tenPower p).1 * r.denominator)) with h | h
        · rw [h]
          exact h₁
        · rw [h]
          exact h₂

lemma Neighbourhood.search_spec {r : Neighbourhood} {fuel : ℕ} {p : ℤ}
    (hlast : (r.onGrid (p - fuel)).isSome = true) :
    r.holds (r.search fuel p).1 (r.search fuel p).2 = true ∧ p - fuel ≤ (r.search fuel p).2 := by
  induction fuel generalizing p with
  | zero =>
    rw [Nat.cast_zero, sub_zero] at hlast
    obtain ⟨d, hd⟩ := Option.isSome_iff_exists.mp hlast
    simp only [Neighbourhood.search, hd, Option.getD_some, Nat.cast_zero, sub_zero]
    exact ⟨holds_of_onGrid hd, le_rfl⟩
  | succ fuel ih =>
    unfold Neighbourhood.search
    split
    · rename_i d hd
      refine ⟨holds_of_onGrid hd, ?_⟩
      dsimp only
      omega
    · have hstep : p - ((fuel + 1 : ℕ) : ℤ) = p - 1 - fuel := by push_cast; ring
      rw [hstep] at hlast ⊢
      exact ih hlast

section Shortest

variable {m : ℕ} {e : ℤ} (h : Regular m e)

include h

/-- The shortest digits round to the number, and they are not many. -/
theorem Regular.shortest_near {digits : ℕ} {p : ℤ} (hs : shortest m e = (digits, p)) :
    Near m e (digits * 10 ^ p) ∧ digits < 10 ^ 21 := by
  generalize hp₀ : leadingExponent (neighbourhood m e).value (neighbourhood m e).denominator = p₀
  obtain ⟨hlow, hhigh⟩ := h.leading_bounds hp₀
  have hlast : ((neighbourhood m e).onGrid (p₀ - (17 : ℕ))).isSome = true := by
    refine h.onGrid_isSome ?_
    rwa [show p₀ - ((17 : ℕ) : ℤ) + 17 = p₀ by push_cast; ring]
  obtain ⟨hholds, hp⟩ := Neighbourhood.search_spec hlast
  rw [← hp₀] at hholds hp
  change (neighbourhood m e).holds (shortest m e).1 (shortest m e).2 = true at hholds
  change _ ≤ (shortest m e).2 at hp
  rw [hs] at hholds hp
  rw [hp₀] at hp
  have hnear := h.holds_iff.mp hholds
  refine ⟨hnear, ?_⟩
  obtain ⟨-, hle⟩ := h.near_bounds hnear
  have : (digits : ℚ) < 10 ^ 21 := by
    have hpos : (0 : ℚ) < 10 ^ p := by positivity
    have hbig : (10 : ℚ) ^ (p₀ - 17) ≤ 10 ^ p := zpow_le_zpow_right₀ (by norm_num) (by push_cast at hp; exact hp)
    have hten : (10 : ℚ) ^ (p₀ + 3) = 10 ^ 20 * 10 ^ (p₀ - 17) := by
      rw [← zpow_natCast, ← zpow_add₀ (by norm_num)]
      congr 1
      push_cast
      ring
    have hlt : (digits : ℚ) * 10 ^ p < 10 ^ 21 * 10 ^ p := by
      calc (digits : ℚ) * 10 ^ p ≤ 2 * (m * 2 ^ e) := hle
        _ < 2 * 10 ^ (p₀ + 3) := by gcongr
        _ = 2 * 10 ^ 20 * 10 ^ (p₀ - 17) := by rw [hten]; ring
        _ ≤ 10 ^ 21 * 10 ^ p := by gcongr; norm_num
    exact lt_of_mul_lt_mul_right hlt hpos.le
  exact_mod_cast this

end Shortest

end CallSnapshot.Binary64

namespace CallSnapshot.Numeral

open Binary64

/-- Decimal digits that denote a number near to one are read as that one. -/
theorem scale_near (s : Bool) {m digits : ℕ} {e p : ℤ} (h : Regular m e) (hd : digits < 10 ^ 60)
    (hnear : Near m e (digits * 10 ^ p)) : scale s digits p = .finite s m e := by
  obtain ⟨hlow, hle⟩ := h.near_bounds hnear
  have hq : (0 : ℚ) < digits * 10 ^ p := lt_of_lt_of_le (by positivity) hlow
  have hpos : 0 < digits := by
    by_contra hzero
    rw [Nat.eq_zero_of_not_pos hzero, Nat.cast_zero, zero_mul] at hq
    exact lt_irrefl _ hq
  have hone : (1 : ℚ) ≤ digits := by exact_mod_cast hpos
  have hbelow : p ≤ 308 := by
    have : (10 : ℚ) ^ p < 10 ^ (309 : ℤ) := by
      calc (10 : ℚ) ^ p ≤ digits * 10 ^ p := le_mul_of_one_le_left (by positivity) hone
        _ ≤ 2 * (m * 2 ^ e) := hle
        _ < 2 * 2 ^ (1024 : ℤ) := by gcongr; exact h.value_bounds.2
        _ < 10 ^ (309 : ℤ) := by
          have hnat : 2 * 2 ^ 1024 < 10 ^ 309 := by decide +kernel
          exact_mod_cast hnat
    have := (zpow_lt_zpow_iff_right₀ (by norm_num)).mp this
    omega
  have habove : -384 < p := by
    have : (10 : ℚ) ^ (-384 : ℤ) < 10 ^ p := by
      have hbig : (digits : ℚ) < 10 ^ (60 : ℤ) := by exact_mod_cast hd
      have hlt : (10 : ℚ) ^ (60 : ℤ) * 10 ^ (-384 : ℤ) < 10 ^ (60 : ℤ) * 10 ^ p := by
        calc (10 : ℚ) ^ (60 : ℤ) * 10 ^ (-384 : ℤ) < 2 ^ (-1075 : ℤ) := by
              have hnat : 10 ^ 60 * 2 ^ 1075 < 10 ^ 384 := by decide +kernel
              rw [zpow_neg, zpow_neg, ← div_eq_mul_inv, ← one_div,
                div_lt_div_iff₀ (by positivity) (by positivity), one_mul]
              exact_mod_cast hnat
          _ ≤ digits * 10 ^ p := hlow
          _ ≤ 10 ^ (60 : ℤ) * 10 ^ p := by gcongr
      exact lt_of_mul_lt_mul_left hlt (by positivity)
    exact (zpow_lt_zpow_iff_right₀ (by norm_num)).mp this
  have hlog : digits.log2 < 200 := (Nat.log2_lt hpos.ne').mpr (hd.trans (by norm_num))
  unfold scale
  dsimp only
  rw [if_neg hpos.ne', if_neg (by omega), if_neg (by omega)]
  split
  · rename_i hp
    obtain ⟨k, rfl⟩ := Int.eq_ofNat_of_zero_le hp
    refine h.ofRatio_near s (by positivity) one_pos ?_
    rw [zpow_natCast] at hnear
    simpa using hnear
  · rename_i hp
    obtain ⟨k, hk⟩ : ∃ k : ℕ, p = -(k : ℤ) := ⟨(-p).toNat, by omega⟩
    subst hk
    refine h.ofRatio_near s hpos (by positivity) ?_
    rw [zpow_neg, zpow_natCast, ← div_eq_mul_inv] at hnear
    simpa using hnear

end CallSnapshot.Numeral
