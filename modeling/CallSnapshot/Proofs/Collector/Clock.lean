import CallSnapshot.Collector.Watch
import CallSnapshot.Proofs.Number.Difference
import CallSnapshot.Proofs.Time.Duration

/-!
Times that a clock tells exactly. It counts steps of `2 ^ -fine` seconds, no more of them than a number
has room for. Then a length of time is not rounded, and though minutes are, no more minutes than
passed seem to have passed.
-/

namespace CallSnapshot

namespace Binary64

variable {x y : Binary64} {c d : ℤ} {fine : ℕ}

lemma ofSigned_steps {n : ℤ} {m : ℕ} (hc : c.natAbs ≤ 2 ^ 53) (hfine : fine ≤ 1000) (hm : 0 < m)
    (h : (n : ℚ) / m = c / 2 ^ fine) :
    (ofSigned n m).isFinite = true ∧ (ofSigned n m).toRat = c / 2 ^ fine := by
  have hm' : (m : ℚ) ≠ 0 := by positivity
  rcases eq_or_ne n 0 with rfl | hn
  · rw [show ofSigned 0 m = finite false 0 0 from rfl, toRat_zero, ← h]
    simp [isFinite]
  · have hc0 : c ≠ 0 := by
      rintro rfl
      simp [hn, hm'] at h
    obtain ⟨b, k, hreg, hk⟩ := exists_regular (Int.natAbs_pos.mpr hc0) hc
    have hlow : Regular b ((k : ℤ) - fine) := by
      obtain ⟨hodd, hlt, hleast, htop⟩ := hreg
      exact ⟨hodd, hlt, by rw [leastExponent]; omega, by omega⟩
    have hvalue : (n.natAbs : ℚ) / m = b * 2 ^ ((k : ℤ) - fine) := by
      have habs : (n.natAbs : ℚ) / m = c.natAbs / 2 ^ fine := by
        rw [Nat.cast_natAbs, Nat.cast_natAbs, Int.cast_abs, Int.cast_abs]
        have := congrArg (|·|) h
        rwa [abs_div, abs_div, Nat.abs_cast, abs_pow, Nat.abs_ofNat] at this
      rw [habs, hk, zpow_sub₀ two_ne_zero, zpow_natCast, zpow_natCast, mul_div_assoc']
      push_cast
      rfl
    have hround : ofSigned n m = finite (n < 0) b ((k : ℤ) - fine) :=
      hlow.ofRatio_near _ (Int.natAbs_pos.mpr hn) hm (hvalue ▸ hlow.near_self)
    rw [hround, toRat_finite, ← hvalue, signedRat_natAbs]
    exact ⟨rfl, h⟩

lemma signed_error {n : ℤ} {m : ℕ} {k : ℤ} (hm : 0 < m) (hk : |(n : ℚ) / m| < 2 ^ k) (hlow : -1021 ≤ k)
    (hhigh : k ≤ 1023) (s : Bool) :
    (signed s n m).isFinite = true ∧ |(signed s n m).toRat - n / m| ≤ 2 ^ (k - 54) := by
  unfold signed
  split
  · rename_i hn
    rw [toRat_zero, hn, Int.cast_zero, zero_div, sub_zero, abs_zero]
    exact ⟨rfl, by positivity⟩
  · exact ofSigned_error hm hk hlow hhigh

structure Steps (fine : ℕ) (c : ℤ) (x : Binary64) : Prop where
  finite : x.isFinite = true
  value : x.toRat = c / 2 ^ fine

lemma Steps.signed {n : ℤ} {m : ℕ} (hc : c.natAbs ≤ 2 ^ 53) (hfine : fine ≤ 1000) (hm : 0 < m)
    (h : (n : ℚ) / m = c / 2 ^ fine) (s : Bool) : Steps fine c (signed s n m) := by
  unfold Binary64.signed
  split
  · rename_i hn
    refine ⟨rfl, ?_⟩
    rw [toRat_zero, ← h, hn, Int.cast_zero, zero_div]
  · obtain ⟨hfinite, hvalue⟩ := ofSigned_steps hc hfine hm h
    exact ⟨hfinite, hvalue⟩

lemma Steps.sub (hx : Steps fine c x) (hy : Steps fine d y) (h : (c - d).natAbs ≤ 2 ^ 53)
    (hfine : fine ≤ 1000) : Steps fine (c - d) (x.sub y) := by
  have hxd : (x.toRatio.2 : ℚ) ≠ 0 := by exact_mod_cast x.toRatio_pos.ne'
  have hyd : (y.toRatio.2 : ℚ) ≠ 0 := by exact_mod_cast y.toRatio_pos.ne'
  obtain ⟨s, hs⟩ := sub_finite hx.finite hy.finite
  rw [hs]
  refine .signed h hfine (Nat.mul_pos x.toRatio_pos y.toRatio_pos) ?_ s
  have hdiff : x.toRat - y.toRat = ((c - d : ℤ) : ℚ) / 2 ^ fine := by
    rw [hx.value, hy.value]
    push_cast
    ring
  rw [← hdiff, toRat, toRat]
  push_cast
  field_simp

/-- What the clock tells after so many steps. -/
def stamp (fine n : ℕ) : Binary64 := ofSigned n (2 ^ fine)

lemma steps_stamp {n : ℕ} (hn : n ≤ 2 ^ 53) (hfine : fine ≤ 1000) : Steps fine n (stamp fine n) := by
  have hvalue : (((n : ℤ) : ℚ) / (2 ^ fine : ℕ)) = (n : ℤ) / 2 ^ fine := by push_cast; rfl
  obtain ⟨hfinite, hvalue⟩ := ofSigned_steps (c := n) hn hfine (Nat.two_pow_pos fine) hvalue
  exact ⟨hfinite, hvalue⟩

end Binary64

namespace Recording

open Binary64

variable {x : Binary64} {c : ℤ} {fine : ℕ}

lemma atLeast_iff (hx : x.isFinite = true) (n : ℤ) : atLeast x n = true ↔ (n : ℚ) ≤ x.toRat := by
  cases x with
  | finite s m e =>
    have hd : (0 : ℚ) < (Binary64.finite s m e).toRatio.2 := by exact_mod_cast toRatio_pos _
    have hat : atLeast (.finite s m e) n =
        decide (n * (Binary64.finite s m e).toRatio.2 ≤ (Binary64.finite s m e).toRatio.1) := rfl
    rw [toRat, le_div_iff₀ hd, hat, decide_eq_true_iff]
    exact_mod_cast Iff.rfl
  | nan => cases hx
  | infinity s => cases hx

lemma le_iff_of_near {a c : ℤ} {u y : ℚ} (hu : 0 < u) (hne : a ≠ c) (h : |y - c * u / 60| ≤ u / 64) :
    a * u / 60 ≤ y ↔ a ≤ c := by
  obtain ⟨hlow, hhigh⟩ := abs_le.mp h
  constructor
  · intro hay
    by_contra hlt
    have hle : ((c + 1 : ℤ) : ℚ) ≤ a := by exact_mod_cast not_le.mp hlt
    have hmul := mul_le_mul_of_nonneg_right hle hu.le
    push_cast at hmul
    linarith
  · intro hac
    have hle : ((a + 1 : ℤ) : ℚ) ≤ c := by exact_mod_cast lt_of_le_of_ne hac hne
    have hmul := mul_le_mul_of_nonneg_right hle hu.le
    push_cast at hmul
    linarith

/-- So many seconds make at least so many minutes. The minutes are rounded, but by less than a step. -/
lemma atLeast_divNat (hx : Steps fine c x) (hc : c.natAbs ≤ 2 ^ 53) (hfine : fine ≤ 1000) (n : ℤ) :
    atLeast (x.divNat 60) n = true ↔ 60 * n * 2 ^ fine ≤ c := by
  have hstep : (0 : ℚ) < 2 ^ fine := by positivity
  have hd : 0 < x.toRatio.2 * 60 := Nat.mul_pos x.toRatio_pos (by decide)
  have hquot : (x.toRatio.1 : ℚ) / (x.toRatio.2 * 60 : ℕ) = c / 2 ^ fine / 60 := by
    rw [← hx.value, toRat, div_div]
    push_cast
    rfl
  obtain ⟨s, hs⟩ : ∃ s, x.divNat 60 = signed s x.toRatio.1 (x.toRatio.2 * 60) := by
    cases x with
    | finite s m e => exact ⟨s, rfl⟩
    | nan => cases hx.finite
    | infinity => cases hx.finite
  rw [hs]
  rcases eq_or_ne (60 * n * 2 ^ fine) c with rfl | hne
  · -- whole minutes are not rounded
    have hn : n.natAbs ≤ 2 ^ 53 := by
      rw [mul_right_comm, Int.natAbs_mul] at hc
      refine (Nat.le_mul_of_pos_left _ ?_).trans hc
      exact Int.natAbs_pos.mpr (by positivity)
    have hminutes : Steps 0 n (signed s x.toRatio.1 (x.toRatio.2 * 60)) := by
      refine .signed hn (Nat.zero_le _) hd ?_ s
      rw [hquot]
      push_cast
      field_simp
    rw [atLeast_iff hminutes.finite, hminutes.value]
    simp
  · -- other lengths differ from whole minutes by a step, the sixtieth part of which is more than the error
    have hbound : |(x.toRatio.1 : ℚ) / (x.toRatio.2 * 60 : ℕ)| < 2 ^ (48 - fine : ℤ) := by
      have hcast : |(c : ℚ)| ≤ 2 ^ 53 := by
        rw [← Int.cast_abs, Int.abs_eq_natAbs]
        exact_mod_cast hc
      rw [hquot, abs_div, abs_div, abs_of_pos hstep, Nat.abs_ofNat, zpow_sub₀ two_ne_zero, zpow_natCast,
        div_right_comm, div_lt_div_iff_of_pos_right hstep, div_lt_iff₀ (by norm_num)]
      exact hcast.trans_lt (by norm_num)
    obtain ⟨hfinite, herror⟩ := signed_error hd hbound (by omega) (by omega) s
    have hsmall : (2 : ℚ) ^ (48 - fine - 54 : ℤ) = 1 / 2 ^ fine / 64 := by
      rw [sub_right_comm, zpow_sub₀ two_ne_zero, zpow_natCast]
      norm_num
      ring
    have hminutes : (c : ℚ) / 2 ^ fine / 60 = c * (1 / 2 ^ fine) / 60 := by ring
    have hn : (n : ℚ) = (60 * n * 2 ^ fine : ℤ) * (1 / 2 ^ fine) / 60 := by
      push_cast
      field_simp
    rw [hquot, hsmall, hminutes] at herror
    rw [atLeast_iff hfinite, hn, le_iff_of_near (by positivity) hne herror]

lemma isIdle_iff {r : Recording} {last now : ℕ} (hr : r.lastActivity = stamp fine last) (hlast : last ≤ 2 ^ 53)
    (hnow : now ≤ 2 ^ 53) (hfine : fine ≤ 1000) (timeout : ℤ) :
    r.isIdle timeout (stamp fine now) = true ↔ 60 * timeout * 2 ^ fine ≤ (now : ℤ) - last := by
  have hbetween : ((now : ℤ) - last).natAbs ≤ 2 ^ 53 := by omega
  have hlength := (steps_stamp hnow hfine).sub (steps_stamp hlast hfine) hbetween hfine
  rw [isIdle, idleMinutes, hr]
  exact atLeast_divNat hlength hbetween hfine timeout

end Recording

end CallSnapshot
