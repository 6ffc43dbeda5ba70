import CallSnapshot.Proofs.Number.Magnitude

/-!
What rounds to a binary fraction: every number that lies within half a unit of it, and the two ends
of that interval where the last digit is even. Below a power of two the units are half as large.
-/

namespace CallSnapshot.Binary64

lemma power_pos (e : ℤ) : 0 < (power e).1 ∧ 0 < (power e).2 := by
  unfold power
  split <;> simp

lemma power_ratio (e : ℤ) : ((power e).1 : ℚ) / (power e).2 = 2 ^ e := by
  unfold power
  split
  · rename_i h
    obtain ⟨k, rfl⟩ := Int.eq_ofNat_of_zero_le h
    simp
  · rename_i h
    obtain ⟨k, hk⟩ : ∃ k : ℕ, e = -(k : ℤ) := ⟨(-e).toNat, by omega⟩
    subst hk
    simp

lemma two_pow_le {k l : ℤ} (h : k ≤ l) : (2 : ℚ) ^ k ≤ 2 ^ l := zpow_le_zpow_right₀ (by norm_num) h

lemma lt_of_two_pow {k l : ℤ} (h : (2 : ℚ) ^ k < 2 ^ l) : k < l :=
  (zpow_lt_zpow_iff_right₀ (by norm_num)).mp h

lemma bitLength_bounds {n : ℕ} (hn : 0 < n) :
    (2 : ℚ) ^ ((bitLength n : ℤ) - 1) ≤ n ∧ (n : ℚ) < 2 ^ (bitLength n : ℤ) := by
  have hlen : bitLength n = n.log2 + 1 := by simp [bitLength, hn.ne']
  have hlow := Nat.log2_self_le hn.ne'
  have hhigh := @Nat.lt_log2_self n
  rw [hlen]
  constructor
  · have : ((n.log2 + 1 : ℕ) : ℤ) - 1 = (n.log2 : ℕ) := by push_cast; ring
    rw [this, zpow_natCast]
    exact_mod_cast hlow
  · rw [zpow_natCast]
    exact_mod_cast hhigh

lemma bitLength_unique {n : ℕ} {k : ℤ} (h : (2 : ℚ) ^ (k - 1) ≤ n) (h' : (n : ℚ) < 2 ^ k) :
    (bitLength n : ℤ) = k := by
  have hn : 0 < n := by
    have : (0 : ℚ) < n := lt_of_lt_of_le (by positivity) h
    exact_mod_cast this
  obtain ⟨h₁, h₂⟩ := bitLength_bounds hn
  have := lt_of_two_pow (h₁.trans_lt h')
  have := lt_of_two_pow (h.trans_lt h₂)
  omega

lemma bitLength_shift {m : ℕ} (hm : 0 < m) (k : ℕ) : bitLength (m * 2 ^ k) = bitLength m + k := by
  obtain ⟨h₁, h₂⟩ := bitLength_bounds hm
  have : (bitLength (m * 2 ^ k) : ℤ) = (bitLength m : ℤ) + k := by
    refine bitLength_unique ?_ ?_
    · rw [add_sub_right_comm, zpow_add₀ (by norm_num), zpow_natCast]
      push_cast
      gcongr
    · rw [zpow_add₀ (by norm_num), zpow_natCast (2 : ℚ) k]
      push_cast
      gcongr
  exact_mod_cast this

lemma floorLog_bounds {n d : ℕ} (hn : 0 < n) (hd : 0 < d) :
    (2 : ℚ) ^ floorLog n d ≤ n / d ∧ (n : ℚ) / d < 2 ^ (floorLog n d + 1) := by
  have hd' : (0 : ℚ) < d := by exact_mod_cast hd
  obtain ⟨hn₁, hn₂⟩ := bitLength_bounds hn
  obtain ⟨hd₁, hd₂⟩ := bitLength_bounds hd
  simp only [bitLength, hn.ne', hd.ne', if_false] at hn₁ hn₂ hd₁ hd₂
  have hlow : (2 : ℚ) ^ ((n.log2 : ℤ) - d.log2 - 1) ≤ n / d := by
    rw [le_div_iff₀ hd']
    calc (2 : ℚ) ^ ((n.log2 : ℤ) - d.log2 - 1) * d
        ≤ 2 ^ ((n.log2 : ℤ) - d.log2 - 1) * 2 ^ ((d.log2 + 1 : ℕ) : ℤ) := by gcongr
      _ = 2 ^ (((n.log2 + 1 : ℕ) : ℤ) - 1) := by
        rw [← zpow_add₀ (by norm_num)]
        congr 1
        push_cast
        ring
      _ ≤ n := hn₁
  have hhigh : (n : ℚ) / d < 2 ^ ((n.log2 : ℤ) - d.log2 + 1) := by
    rw [div_lt_iff₀ hd']
    calc (n : ℚ) < 2 ^ ((n.log2 + 1 : ℕ) : ℤ) := hn₂
      _ = 2 ^ ((n.log2 : ℤ) - d.log2 + 1) * 2 ^ (((d.log2 + 1 : ℕ) : ℤ) - 1) := by
        rw [← zpow_add₀ (by norm_num)]
        congr 1
        push_cast
        ring
      _ ≤ 2 ^ ((n.log2 : ℤ) - d.log2 + 1) * d := by gcongr
  obtain ⟨ha, hb⟩ := power_pos ((n.log2 : ℤ) - d.log2)
  have hratio := power_ratio ((n.log2 : ℤ) - d.log2)
  have htest : d * (power ((n.log2 : ℤ) - d.log2)).1 ≤ n * (power ((n.log2 : ℤ) - d.log2)).2 ↔
      (2 : ℚ) ^ ((n.log2 : ℤ) - d.log2) ≤ n / d := by
    have hb' : (0 : ℚ) < (power ((n.log2 : ℤ) - d.log2)).2 := by exact_mod_cast hb
    rw [← hratio, div_le_div_iff₀ hb' hd', mul_comm ((power ((n.log2 : ℤ) - d.log2)).1 : ℚ)]
    exact_mod_cast Iff.rfl
  unfold floorLog
  dsimp only
  split
  · rename_i h
    exact ⟨htest.mp h, hhigh⟩
  · rename_i h
    rw [htest, not_le] at h
    exact ⟨hlow, by rwa [sub_add_cancel]⟩

lemma floorLog_unique {n d : ℕ} {k : ℤ} (hn : 0 < n) (hd : 0 < d) (h : (2 : ℚ) ^ k ≤ n / d)
    (h' : (n : ℚ) / d < 2 ^ (k + 1)) : floorLog n d = k := by
  obtain ⟨h₁, h₂⟩ := floorLog_bounds hn hd
  have := lt_of_two_pow (h₁.trans_lt h')
  have := lt_of_two_pow (h.trans_lt h₂)
  omega

lemma floorLog_lt {n d k : ℕ} {u : ℤ} (hn : 0 < n) (hd : 0 < d) (h : (n : ℚ) / d / 2 ^ u < 2 ^ k) :
    floorLog n d < u + k := by
  refine lt_of_two_pow ((floorLog_bounds hn hd).1.trans_lt ?_)
  rwa [zpow_add₀ two_ne_zero, mul_comm, zpow_natCast, ← div_lt_iff₀ (by positivity)]

lemma le_floorLog {n d k : ℕ} {u : ℤ} (hn : 0 < n) (hd : 0 < d) (h : 2 ^ k ≤ (n : ℚ) / d / 2 ^ u) :
    u + k ≤ floorLog n d := by
  refine Int.lt_add_one_iff.mp (lt_of_two_pow (lt_of_le_of_lt ?_ (floorLog_bounds hn hd).2))
  rwa [zpow_add₀ two_ne_zero, mul_comm, zpow_natCast, ← le_div_iff₀ (by positivity)]

/-- Within a half of an integer; at a half, only for an even one. -/
def Rounds (q : ℚ) (w : ℕ) : Prop := |q - w| < 1 / 2 ∨ (w % 2 = 0 ∧ |q - w| ≤ 1 / 2)

lemma Rounds.scaled {n d w : ℕ} (hd : 0 < d) (h : Rounds (n / d) w) :
    |2 * (n : ℤ) - 2 * w * d| ≤ d ∧ (w % 2 = 1 → |2 * (n : ℤ) - 2 * w * d| < d) := by
  have hd' : (0 : ℚ) < d := by exact_mod_cast hd
  have hscale : |2 * (n : ℚ) - 2 * w * d| = |(n : ℚ) / d - w| * (2 * d) := by
    rw [← abs_of_pos (show (0 : ℚ) < 2 * d by positivity), ← abs_mul]
    congr 1
    field_simp
  have hhalf : (1 / 2 : ℚ) * (2 * d) = d := by ring
  have hle : |(n : ℚ) / d - w| ≤ 1 / 2 := by
    rcases h with h | ⟨-, h⟩
    · exact h.le
    · exact h
  have hlt : w % 2 = 1 → |(n : ℚ) / d - w| < 1 / 2 := by
    intro hw
    rcases h with h | ⟨h, -⟩
    · exact h
    · omega
  constructor
  · have : |2 * (n : ℚ) - 2 * w * d| ≤ d := by
      calc |2 * (n : ℚ) - 2 * w * d| = |(n : ℚ) / d - w| * (2 * d) := hscale
        _ ≤ 1 / 2 * (2 * d) := by gcongr
        _ = d := hhalf
    exact_mod_cast this
  · intro hw
    have : |2 * (n : ℚ) - 2 * w * d| < d := by
      calc |2 * (n : ℚ) - 2 * w * d| = |(n : ℚ) / d - w| * (2 * d) := hscale
        _ < 1 / 2 * (2 * d) := by gcongr; exact hlt hw
        _ = d := hhalf
    exact_mod_cast this

lemma roundHalfEven_of_rounds {n d w : ℕ} (hd : 0 < d) (h : Rounds (n / d) w) :
    roundHalfEven n d = w := by
  obtain ⟨hle, hlt⟩ := h.scaled hd
  rw [abs_le] at hle
  rw [abs_lt] at hlt
  have hdiv : (n : ℤ) = (n / d : ℕ) * d + (n % d : ℕ) := by
    exact_mod_cast (Nat.div_add_mod' n d).symm
  have hmod : n % d < d := Nat.mod_lt n hd
  obtain ⟨t, ht⟩ : ∃ t : ℤ, (w : ℤ) = (n / d : ℕ) + t := ⟨w - (n / d : ℕ), by ring⟩
  have hexp : 2 * (n : ℤ) - 2 * w * d = 2 * (n % d : ℕ) - 2 * (t * d) := by
    rw [hdiv, ht]
    ring
  rw [hexp] at hle hlt
  -- only the quotient and its successor lie so near
  have ht₀ : 0 ≤ t := by
    by_contra hneg
    have : t * d ≤ -1 * d := by gcongr; omega
    omega
  have ht₁ : t ≤ 1 := by
    by_contra hbig
    have : 2 * (d : ℤ) ≤ t * d := by gcongr; omega
    omega
  unfold roundHalfEven
  dsimp only
  interval_cases t
  · have hw : w = n / d := by omega
    split
    · omega
    · split
      · omega
      · omega
  · have hw : w = n / d + 1 := by omega
    split
    · omega
    · split
      · omega
      · omega

lemma normalize_shift {m : ℕ} (hm : m % 2 = 1) {k fuel : ℕ} (hf : k < fuel) (e : ℤ) :
    normalize fuel (m * 2 ^ k) e = (m, e + k) := by
  induction k generalizing fuel e with
  | zero =>
    obtain ⟨fuel, rfl⟩ : ∃ f, fuel = f + 1 := ⟨fuel - 1, by omega⟩
    have hm0 : m ≠ 0 := by omega
    simp [normalize, hm0, hm]
  | succ k ih =>
    obtain ⟨fuel, rfl⟩ : ∃ f, fuel = f + 1 := ⟨fuel - 1, by omega⟩
    have hne : m * 2 ^ (k + 1) ≠ 0 := by
      have : m ≠ 0 := by omega
      positivity
    have hdouble : m * 2 ^ (k + 1) = 2 * (m * 2 ^ k) := by ring
    have heven : m * 2 ^ (k + 1) % 2 ≠ 1 := by omega
    have hhalf : m * 2 ^ (k + 1) / 2 = m * 2 ^ k := by omega
    rw [normalize, if_neg hne, if_neg heven, hhalf, ih (by omega)]
    push_cast
    rw [add_assoc, add_comm (1 : ℤ)]

lemma ofParts_shift (s : Bool) {m : ℕ} (hm : m % 2 = 1) (k : ℕ) (e : ℤ) :
    ofParts s (m * 2 ^ k) e = .finite s m (e + k) := by
  have hfuel : k < bitLength (m * 2 ^ k) + 1 := by
    rw [bitLength_shift (by omega)]
    omega
  rw [ofParts, normalize_shift hm hfuel]

lemma ofParts_valid (s : Bool) {m : ℕ} {e : ℤ} (hm : m ≤ 2 ^ precision) (he : leastExponent ≤ e)
    (ht : (bitLength m : ℤ) + e ≤ 1024) : (ofParts s m e).Valid := by
  rcases Nat.eq_zero_or_pos m with rfl | hpos
  · exact .inl ⟨rfl, rfl⟩
  · obtain ⟨k, c, hodd, rfl⟩ := Nat.exists_eq_two_pow_mul_odd hpos.ne'
    have hc := Nat.odd_iff.mp hodd
    rw [mul_comm] at hm ht ⊢
    rw [bitLength_shift hodd.pos] at ht
    rw [ofParts_shift s hc]
    have hle : c ≤ c * 2 ^ k := Nat.le_mul_of_pos_right c (by positivity)
    have hne : c ≠ 2 ^ precision := by
      rintro rfl
      exact absurd hc (by decide)
    exact .inr ⟨hc, by omega, by omega, by push_cast at ht; omega⟩

lemma ofRatio_valid (s : Bool) (n d : ℕ) : (ofRatio s n d).Valid := by
  unfold ofRatio
  split
  · exact .inl ⟨rfl, rfl⟩
  · rename_i hnd
    simp only [Bool.or_eq_true, decide_eq_true_eq, not_or] at hnd
    obtain ⟨hn, hd⟩ := And.imp Nat.pos_of_ne_zero Nat.pos_of_ne_zero hnd
    dsimp only
    split
    · trivial
    · rename_i htop
      refine ofParts_valid s ?_ (le_max_right _ _) (by omega)
      have hu : floorLog n d + 1 ≤ (precision : ℤ) + max (floorLog n d - (precision - 1)) leastExponent := by
        have := le_max_left (floorLog n d - (precision - 1)) leastExponent
        omega
      generalize max (floorLog n d - (precision - 1)) leastExponent = u at hu
      obtain ⟨ha, hb⟩ := power_pos u
      have ha' : (0 : ℚ) < (power u).1 := by exact_mod_cast ha
      have hb' : (0 : ℚ) < (power u).2 := by exact_mod_cast hb
      have hd' : (0 : ℚ) < d := by exact_mod_cast hd
      have hlt : (n : ℚ) / d < 2 ^ precision * ((power u).1 / (power u).2) := by
        rw [power_ratio, ← zpow_natCast, ← zpow_add₀ two_ne_zero]
        exact (floorLog_bounds hn hd).2.trans_le (two_pow_le hu)
      have hnat : n * (power u).2 < d * (power u).1 * 2 ^ precision := by
        have : (n : ℚ) * (power u).2 < d * (power u).1 * 2 ^ precision := by
          rw [div_lt_iff₀ hd', mul_div_assoc', div_mul_eq_mul_div, lt_div_iff₀ hb'] at hlt
          linarith
        exact_mod_cast this
      have hq : n * (power u).2 / (d * (power u).1) < 2 ^ precision := Nat.div_lt_of_lt_mul hnat
      unfold roundHalfEven
      dsimp only
      split
      · exact hq.le
      · split
        · exact hq
        · omega

section Near

def unit (m : ℕ) (e : ℤ) : ℤ := max ((bitLength m : ℤ) - 1 + e - (precision - 1)) leastExponent

def whole (m : ℕ) (e : ℤ) : ℕ := m * 2 ^ (e - unit m e).toNat

/-- How far below a number others round to it, in its units. -/
def slack (m : ℕ) (e : ℤ) : ℚ :=
  if whole m e = 2 ^ (precision - 1) ∧ leastExponent < unit m e then 1 / 4 else 1 / 2

/-- In the interval of the numbers that round to `m * 2 ^ e`. -/
structure Near (m : ℕ) (e : ℤ) (q : ℚ) : Prop where
  low : ((whole m e : ℚ) - slack m e) * 2 ^ unit m e ≤ q
  high : q ≤ ((whole m e : ℚ) + 1 / 2) * 2 ^ unit m e
  inside : whole m e % 2 = 1 →
    ((whole m e : ℚ) - slack m e) * 2 ^ unit m e < q ∧ q < ((whole m e : ℚ) + 1 / 2) * 2 ^ unit m e

/-- An odd mantissa and an exponent within the bounds of the format. -/
structure Regular (m : ℕ) (e : ℤ) : Prop where
  odd : m % 2 = 1
  size : m < 2 ^ precision
  least : leastExponent ≤ e
  top : (bitLength m : ℤ) + e ≤ 1024

variable {m : ℕ} {e : ℤ}

lemma valid_cases {s : Bool} (h : (finite s m e).Valid) : (m = 0 ∧ e = 0) ∨ Regular m e :=
  h.imp_right fun ⟨h₁, h₂, h₃, h₄⟩ => ⟨h₁, h₂, h₃, h₄⟩

lemma slack_le (m : ℕ) (e : ℤ) : slack m e ≤ 1 / 2 := by
  unfold slack
  split <;> norm_num

lemma Near.div_unit {q : ℚ} (hq : Near m e q) :
    (whole m e : ℚ) - slack m e ≤ q / 2 ^ unit m e ∧ q / 2 ^ unit m e ≤ whole m e + 1 / 2 := by
  have hpos : (0 : ℚ) < 2 ^ unit m e := by positivity
  exact ⟨(le_div_iff₀ hpos).mpr hq.low, (div_le_iff₀ hpos).mpr hq.high⟩

lemma Near.rounds {q : ℚ} (hq : Near m e q) : Rounds (q / 2 ^ unit m e) (whole m e) := by
  have hpos : (0 : ℚ) < 2 ^ unit m e := by positivity
  have hslack := slack_le m e
  rcases Nat.mod_two_eq_zero_or_one (whole m e) with heven | hodd
  · obtain ⟨hlow, hhigh⟩ := hq.div_unit
    refine .inr ⟨heven, ?_⟩
    rw [abs_le]
    constructor <;> linarith
  · have hlow := (lt_div_iff₀ hpos).mpr (hq.inside hodd).1
    have hhigh := (div_lt_iff₀ hpos).mpr (hq.inside hodd).2
    refine .inl ?_
    rw [abs_lt]
    constructor <;> linarith

namespace Regular

variable (h : Regular m e)

include h

lemma pos : 0 < m := by
  have := h.odd
  omega

lemma bitLength_le : bitLength m ≤ precision := by
  obtain ⟨h₁, -⟩ := bitLength_bounds h.pos
  have hlt : (2 : ℚ) ^ ((bitLength m : ℤ) - 1) < 2 ^ (precision : ℤ) := by
    refine h₁.trans_lt ?_
    rw [zpow_natCast]
    exact_mod_cast h.size
  have := lt_of_two_pow hlt
  omega

lemma unit_le : unit m e ≤ e := by
  have := h.bitLength_le
  have := h.least
  simp only [unit, precision, leastExponent] at *
  omega

lemma whole_eq : (whole m e : ℚ) * 2 ^ unit m e = m * 2 ^ e := by
  obtain ⟨k, hk⟩ : ∃ k : ℕ, e = unit m e + k := ⟨(e - unit m e).toNat, by have := h.unit_le; omega⟩
  have hshift : (e - unit m e).toNat = k := by omega
  rw [whole, hshift]
  conv_rhs => rw [hk, zpow_add₀ (by norm_num), zpow_natCast (2 : ℚ) k]
  push_cast
  ring

lemma bitLength_whole : (bitLength (whole m e) : ℤ) = bitLength m + (e - unit m e) := by
  have := h.unit_le
  rw [whole, bitLength_shift h.pos]
  push_cast
  omega

lemma whole_lt : whole m e < 2 ^ precision := by
  have hpos : 0 < whole m e := by
    have := h.pos
    unfold whole
    positivity
  obtain ⟨-, h₂⟩ := bitLength_bounds hpos
  have hlen : (bitLength (whole m e) : ℤ) ≤ precision := by
    rw [h.bitLength_whole]
    simp only [unit, precision]
    omega
  have : (whole m e : ℚ) < 2 ^ (precision : ℤ) := h₂.trans_le (two_pow_le hlen)
  rw [zpow_natCast] at this
  exact_mod_cast this

lemma whole_pos : 0 < whole m e := by
  have := h.pos
  unfold whole
  positivity

lemma le_whole (hu : leastExponent < unit m e) : 2 ^ (precision - 1) ≤ whole m e := by
  obtain ⟨h₁, -⟩ := bitLength_bounds h.whole_pos
  have hlen : (bitLength (whole m e) : ℤ) - 1 = (precision - 1 : ℕ) := by
    rw [h.bitLength_whole]
    simp only [unit, precision] at hu ⊢
    omega
  rw [hlen, zpow_natCast] at h₁
  exact_mod_cast h₁

/-- Rounding in units of `2 ^ u`, where the rounded mantissa is that of the number. -/
lemma ofRatio_of_rounds (s : Bool) {n d k : ℕ} {u : ℤ} (hn : 0 < n) (hd : 0 < d)
    (hu : max (floorLog n d - (precision - 1)) leastExponent = u) (hk : e = u + k)
    (hr : Rounds (n / d / 2 ^ u) (m * 2 ^ k)) : ofRatio s n d = .finite s m e := by
  have hnd : (n = 0 || d = 0) = false := by simp [hn.ne', hd.ne']
  obtain ⟨ha, hb⟩ := power_pos u
  have ha' : (0 : ℚ) < (power u).1 := by exact_mod_cast ha
  have hb' : (0 : ℚ) < (power u).2 := by exact_mod_cast hb
  have hd' : (0 : ℚ) < d := by exact_mod_cast hd
  have hratio : ((n * (power u).2 : ℕ) : ℚ) / (d * (power u).1 : ℕ) = n / d / 2 ^ u := by
    rw [← power_ratio u]
    push_cast
    field_simp
  have hround : roundHalfEven (n * (power u).2) (d * (power u).1) = m * 2 ^ k :=
    roundHalfEven_of_rounds (by positivity) (by rw [hratio]; exact hr)
  have htop : ¬ 1024 < (bitLength (m * 2 ^ k) : ℤ) + u := by
    have := h.top
    rw [bitLength_shift h.pos]
    push_cast
    omega
  unfold ofRatio
  simp only [hnd, Bool.false_eq_true, if_false, hu, hround, htop]
  rw [ofParts_shift s h.odd, hk]

lemma ofRatio_below_power (s : Bool) {n d : ℕ} (hn : 0 < n) (hd : 0 < d) (hq : Near m e (n / d))
    (hu : leastExponent < unit m e) (hsmall : (n : ℚ) / d / 2 ^ unit m e < 2 ^ 52) :
    ofRatio s n d = .finite s m e := by
  obtain ⟨hlow, -⟩ := hq.div_unit
  have hslack := slack_le m e
  have hge : 2 ^ 52 ≤ whole m e := h.le_whole hu
  have hpower : whole m e = 2 ^ 52 := by
    by_contra hne
    have : (2 ^ 52 + 1 : ℚ) ≤ whole m e := by
      have : 2 ^ 52 + 1 ≤ whole m e := by omega
      exact_mod_cast this
    linarith
  have hquarter : slack m e = 1 / 4 := by rw [slack, if_pos ⟨hpower, hu⟩]
  rw [hquarter, hpower] at hlow
  have hunit := h.unit_le
  refine h.ofRatio_of_rounds s (k := (e - unit m e).toNat + 1) (u := unit m e - 1) hn hd ?_ ?_ ?_
  · have hlt := floorLog_lt hn hd hsmall
    have hle := le_floorLog (k := 51) (u := unit m e) hn hd (by norm_num at hlow ⊢; linarith)
    simp only [precision, leastExponent] at hu ⊢
    omega
  · push_cast
    omega
  · -- in halves of the unit the number is the even `2 ^ 53`, and the fraction is within a half of it
    have hdouble : m * 2 ^ ((e - unit m e).toNat + 1) = 2 ^ 53 := by
      rw [pow_succ, ← mul_assoc, ← whole, hpower]
      norm_num
    have hhalf : (n : ℚ) / d / 2 ^ (unit m e - 1) = 2 * (n / d / 2 ^ unit m e) := by
      rw [zpow_sub_one₀ (by norm_num)]
      field_simp
    rw [hdouble, hhalf]
    refine .inr ⟨by norm_num, ?_⟩
    rw [abs_le]
    push_cast
    constructor <;> linarith

/-- A fraction in the interval of a number rounds to it. -/
theorem ofRatio_near (s : Bool) {n d : ℕ} (hn : 0 < n) (hd : 0 < d) (hq : Near m e (n / d)) :
    ofRatio s n d = .finite s m e := by
  -- only below a power of two are the units half as large
  by_cases hcase : leastExponent < unit m e ∧ (n : ℚ) / d / 2 ^ unit m e < 2 ^ 52
  · exact h.ofRatio_below_power s hn hd hq hcase.1 hcase.2
  · have hunit := h.unit_le
    have hbelow : (n : ℚ) / d / 2 ^ unit m e < 2 ^ 53 := by
      have hwhole : (whole m e : ℚ) + 1 ≤ 2 ^ 53 := by exact_mod_cast h.whole_lt
      linarith [hq.div_unit.2]
    have hlt := floorLog_lt hn hd hbelow
    have hexp : max (floorLog n d - (precision - 1)) leastExponent = unit m e := by
      rcases lt_or_ge leastExponent (unit m e) with hu | hu
      · have hle := le_floorLog hn hd (not_lt.mp fun hsmall => hcase ⟨hu, hsmall⟩)
        simp only [precision]
        omega
      · have : unit m e = leastExponent := le_antisymm hu (le_max_right _ _)
        simp only [precision]
        omega
    exact h.ofRatio_of_rounds s (k := (e - unit m e).toNat) hn hd hexp (by omega) hq.rounds

end Regular

end Near

end CallSnapshot.Binary64
