import CallSnapshot.Value.Equality
import Mathlib

/-!
What numbers denote: a fraction or one of the infinities. Numbers of all kinds are equal exactly
where they denote the same, so that equality of numbers is an equivalence.
-/

namespace CallSnapshot

inductive Magnitude where
  | exact (q : ℚ)
  | infinite (negative : Bool)
  deriving DecidableEq

lemma both_iff {α : Type} {a b : α} : (∃ m, some a = some m ∧ some b = some m) ↔ a = b := by
  simp only [Option.some.injEq, exists_eq_left']
  exact eq_comm

def signedRat (negative : Bool) (q : ℚ) : ℚ := if negative then -q else q

lemma signedRat_eq_zero {s : Bool} {q : ℚ} : signedRat s q = 0 ↔ q = 0 := by
  cases s <;> simp [signedRat]

lemma signedRat_inj {s t : Bool} {q r : ℚ} (hq : 0 < q) (hr : 0 < r) :
    signedRat s q = signedRat t r ↔ s = t ∧ q = r := by
  cases s <;> cases t <;> simp only [signedRat, if_true, if_false, Bool.false_eq_true, neg_inj,
    true_and, false_and, iff_false, reduceCtorEq] <;> linarith

/-- Of a number that the base does not divide, no power of the base can be taken over. -/
lemma mul_zpow_inj {b m k : ℕ} {e f : ℤ} (hb : 2 ≤ b) (hm : ¬ b ∣ m) (hk : ¬ b ∣ k)
    (h : (m : ℚ) * (b : ℚ) ^ e = k * (b : ℚ) ^ f) : m = k ∧ e = f := by
  have hb0 : (b : ℚ) ≠ 0 := by positivity
  have shift : ∀ {m k : ℕ} {e f : ℤ}, ¬ b ∣ m → e ≤ f →
      (m : ℚ) * (b : ℚ) ^ e = k * (b : ℚ) ^ f → m = k ∧ e = f := by
    intro m k e f hm hle h
    obtain ⟨d, rfl⟩ : ∃ d : ℕ, f = e + d := ⟨(f - e).toNat, by omega⟩
    have hmk : m = k * b ^ d := by
      rw [zpow_add₀ hb0, zpow_natCast, mul_comm ((b : ℚ) ^ e), ← mul_assoc] at h
      have h := mul_right_cancel₀ (zpow_ne_zero e hb0) h
      exact_mod_cast h
    cases d with
    | zero => exact ⟨by simpa using hmk, by simp⟩
    | succ d => exact absurd ⟨k * b ^ d, by rw [hmk, pow_succ]; ring⟩ hm
  rcases le_total e f with hle | hle
  · exact shift hm hle h
  · obtain ⟨h, h'⟩ := shift hk hle h.symm
    exact ⟨h.symm, h'.symm⟩

namespace Binary64

def Valid : Binary64 → Prop
  | .finite _ m e => (m = 0 ∧ e = 0) ∨
      (m % 2 = 1 ∧ m < 2 ^ precision ∧ leastExponent ≤ e ∧ (bitLength m : ℤ) + e ≤ 1024)
  | _ => True

def magnitude? : Binary64 → Option Magnitude
  | .nan => none
  | .infinity s => some (.infinite s)
  | .finite s m e => some (.exact (signedRat s (m * 2 ^ e)))

lemma finite_eq_iff {s t : Bool} {m k : ℕ} {e f : ℤ} (hx : (finite s m e).Valid)
    (hy : (finite t k f).Valid) :
    (m == k && (m == 0 || (s == t && e == f))) = true ↔
      signedRat s (m * 2 ^ e) = signedRat t (k * 2 ^ f) := by
  rcases hx with ⟨rfl, rfl⟩ | ⟨hm, -⟩
  · rcases hy with ⟨rfl, rfl⟩ | ⟨hk, -⟩
    · simp [signedRat]
    · have hk0 : k ≠ 0 := by omega
      have : signedRat t (k * 2 ^ f) ≠ 0 := by
        rw [Ne, signedRat_eq_zero]
        positivity
      simpa [signedRat, hk0, hk0.symm] using this.symm
  · have hm0 : 0 < m := by omega
    rcases hy with ⟨rfl, rfl⟩ | ⟨hk, -⟩
    · have : signedRat s (m * 2 ^ e) ≠ 0 := by
        rw [Ne, signedRat_eq_zero]
        positivity
      simpa [signedRat, hm0.ne'] using this
    · have hk0 : 0 < k := by omega
      rw [signedRat_inj (by positivity) (by positivity)]
      constructor
      · intro h
        simp only [Bool.and_eq_true, beq_iff_eq, Bool.or_eq_true] at h
        obtain ⟨rfl, h | ⟨rfl, rfl⟩⟩ := h
        · omega
        · exact ⟨rfl, rfl⟩
      · rintro ⟨rfl, h⟩
        obtain ⟨rfl, rfl⟩ := mul_zpow_inj (b := 2) le_rfl (by omega) (by omega) h
        simp

lemma toInt?_eq_some {x : Binary64} (hx : x.Valid) (n : ℤ) :
    x.toInt? = some n ↔ x.magnitude? = some (.exact n) := by
  cases x with
  | nan => simp [toInt?, isIntegral, magnitude?]
  | infinity s => simp [toInt?, isIntegral, magnitude?]
  | finite s m e =>
    simp only [magnitude?, Option.some.injEq, Magnitude.exact.injEq]
    by_cases he : 0 ≤ e
    · obtain ⟨d, rfl⟩ := Int.eq_ofNat_of_zero_le he
      have : (toInt? (finite s m d)) = some (if s then -((m * 2 ^ d : ℕ) : ℤ) else (m * 2 ^ d : ℕ)) := by
        cases s <;> simp [toInt?, isIntegral, truncate, toRatio, power]
      rw [this]
      cases s <;> simp [signedRat] <;> norm_cast
    · have hodd : m % 2 = 1 := by
        rcases hx with ⟨-, rfl⟩ | ⟨h, -⟩
        · exact absurd le_rfl he
        · exact h
      have hm0 : m ≠ 0 := by omega
      have hnone : toInt? (finite s m e) = none := by simp [toInt?, isIntegral, hm0, he]
      rw [hnone]
      refine iff_of_false (by simp) fun h => ?_
      have habs : (m : ℚ) * 2 ^ e = n.natAbs := by
        have := congrArg (fun q : ℚ => |q|) h
        rw [← Int.cast_abs, Int.abs_eq_natAbs] at this
        have hpos : (0 : ℚ) ≤ m * 2 ^ e := by positivity
        cases s <;> simpa [signedRat, abs_of_nonneg hpos] using this
      obtain ⟨d, hd⟩ : ∃ d : ℕ, e = -((d + 1 : ℕ) : ℤ) := ⟨(-e - 1).toNat, by omega⟩
      have hmul : m = n.natAbs * 2 ^ (d + 1) := by
        rw [hd, zpow_neg, zpow_natCast, mul_inv_eq_iff_eq_mul₀ (by positivity)] at habs
        exact_mod_cast habs
      rw [hmul, pow_succ, ← mul_assoc] at hodd
      omega

end Binary64

namespace Decimal

def magnitude? : Decimal → Option Magnitude
  | .nan .. => none
  | .infinity s => some (.infinite s)
  | .finite s m e => some (.exact (signedRat s (m * 10 ^ e)))

lemma lt_pow_digitCount (n : ℕ) : n < 10 ^ digitCount n :=
  (Nat.length_repr_le_iff Nat.length_repr_pos).mp le_rfl

lemma dropZeros_spec {fuel n : ℕ} {e : ℤ} (hn : n ≠ 0) (hlt : n < 10 ^ fuel) :
    ¬ 10 ∣ (dropZeros fuel n e).1 ∧
      ((dropZeros fuel n e).1 : ℚ) * 10 ^ (dropZeros fuel n e).2 = n * 10 ^ e := by
  induction fuel generalizing n e with
  | zero => omega
  | succ fuel ih =>
    by_cases h : n % 10 = 0
    · obtain ⟨k, rfl⟩ := Nat.dvd_of_mod_eq_zero h
      have hstep : dropZeros (fuel + 1) (10 * k) e = dropZeros fuel k (e + 1) := by
        simp [dropZeros]
      rw [hstep]
      obtain ⟨h₁, h₂⟩ := ih (n := k) (e := e + 1) (by omega) (by rw [pow_succ] at hlt; omega)
      refine ⟨h₁, h₂.trans ?_⟩
      rw [zpow_add_one₀ (by norm_num)]
      push_cast
      ring
    · have hstep : dropZeros (fuel + 1) n e = (n, e) := by simp [dropZeros, h]
      rw [hstep]
      exact ⟨by omega, rfl⟩

lemma reduced_eq_iff {s t : Bool} {m k : ℕ} {e f : ℤ} :
    reduced s m e = reduced t k f ↔ signedRat s (m * 10 ^ e) = signedRat t (k * 10 ^ f) := by
  have nonzero : ∀ {s : Bool} {m : ℕ} {e : ℤ}, m ≠ 0 → signedRat s (m * 10 ^ e) ≠ 0 := by
    intro s m e hm
    rw [Ne, signedRat_eq_zero]
    positivity
  have first : ∀ {s : Bool} {m : ℕ} {e : ℤ}, m ≠ 0 → (reduced s m e).2.1 ≠ 0 := by
    intro s m e hm
    have := (dropZeros_spec (e := e) hm (lt_pow_digitCount m)).1
    simp only [reduced, beq_iff_eq, hm, if_false]
    intro h
    simp [h] at this
  rcases eq_or_ne m 0 with rfl | hm
  · rcases eq_or_ne k 0 with rfl | hk
    · simp [reduced, signedRat]
    · refine iff_of_false (fun h => first (s := t) (e := f) hk ?_) fun h => nonzero (s := t) (e := f) hk ?_
      · rw [← h]
        simp [reduced]
      · rw [← h]
        simp [signedRat]
  · rcases eq_or_ne k 0 with rfl | hk
    · refine iff_of_false (fun h => first (s := s) (e := e) hm ?_) fun h => nonzero (s := s) (e := e) hm ?_
      · rw [h]
        simp [reduced]
      · rw [h]
        simp [signedRat]
    · obtain ⟨hm₁, hm₂⟩ := dropZeros_spec (e := e) hm (lt_pow_digitCount m)
      obtain ⟨hk₁, hk₂⟩ := dropZeros_spec (e := f) hk (lt_pow_digitCount k)
      rw [signedRat_inj (by positivity) (by positivity), ← hm₂, ← hk₂]
      simp only [reduced, beq_iff_eq, hm, hk, if_false, Prod.mk.injEq]
      refine and_congr_right fun _ => ⟨fun ⟨h, h'⟩ => by rw [h, h'], fun h => ?_⟩
      exact mul_zpow_inj (b := 10) (by norm_num) hm₁ hk₁ h

lemma eq_iff (x y : Decimal) :
    x.eq y = true ↔ ∃ m, x.magnitude? = some m ∧ y.magnitude? = some m := by
  cases x <;> cases y <;> simp [eq, magnitude?, reduced_eq_iff]
  all_goals exact eq_comm

lemma magnitude?_ofInt (n : ℤ) : (ofInt n).magnitude? = some (.exact n) := by
  rcases lt_or_ge n 0 with h | h
  · have : ((n.natAbs : ℕ) : ℚ) = -n := by
      rw [Nat.cast_natAbs, abs_of_neg h]
      push_cast
      rfl
    simp [ofInt, magnitude?, signedRat, h, this]
  · have : ((n.natAbs : ℕ) : ℚ) = n := by
      rw [Nat.cast_natAbs, abs_of_nonneg h]
    simp [ofInt, magnitude?, signedRat, not_lt.mpr h, this]

lemma magnitude?_ofBinary (x : Binary64) : (ofBinary x).magnitude? = x.magnitude? := by
  cases x with
  | nan => rfl
  | infinity s => rfl
  | finite s m e =>
    by_cases he : 0 ≤ e
    · obtain ⟨d, rfl⟩ := Int.eq_ofNat_of_zero_le he
      simp [ofBinary, magnitude?, Binary64.magnitude?]
    · obtain ⟨d, hd⟩ : ∃ d : ℕ, e = -(d : ℤ) := ⟨(-e).toNat, by omega⟩
      have : ((m * 5 ^ d : ℕ) : ℚ) * 10 ^ (-(d : ℤ)) = m * 2 ^ (-(d : ℤ)) := by
        rw [zpow_neg, zpow_neg, zpow_natCast, zpow_natCast,
          show (10 : ℚ) ^ d = 2 ^ d * 5 ^ d by rw [← mul_pow]; norm_num]
        push_cast
        field_simp
      simp only [ofBinary, if_neg he, magnitude?, Binary64.magnitude?]
      subst hd
      simp only [neg_neg, Int.toNat_natCast]
      rw [this]

end Decimal

namespace Binary64

lemma eq_iff {x y : Binary64} (hx : x.Valid) (hy : y.Valid) :
    x.eq y = true ↔ ∃ m, x.magnitude? = some m ∧ y.magnitude? = some m := by
  cases x with
  | finite s m e =>
    cases y with
    | finite t k f =>
      rw [show (finite s m e).eq (finite t k f) = (m == k && (m == 0 || (s == t && e == f))) from rfl,
        finite_eq_iff hx hy]
      simp only [magnitude?, both_iff, Magnitude.exact.injEq]
    | _ => simp [eq, magnitude?]
  | infinity s =>
    cases y with
    | infinity t =>
      simp only [eq, magnitude?, both_iff, Magnitude.infinite.injEq, beq_iff_eq]
    | _ => simp [eq, magnitude?]
  | nan => simp [eq, magnitude?]

end Binary64

namespace Quantity

/-- A number other than a ratio of two integers, in a form that its format has. -/
def Valid : Quantity → Prop
  | .binary x => x.Valid
  | .ratio .. => False
  | _ => True

def magnitude? : Quantity → Option Magnitude
  | .int n => some (.exact n)
  | .binary x => x.magnitude?
  | .decimal d => d.magnitude?
  | .ratio n d => some (.exact (n / d))

lemma eq_iff {p q : Quantity} (hp : p.Valid) (hq : q.Valid) :
    p.eq q = true ↔ ∃ m, p.magnitude? = some m ∧ q.magnitude? = some m := by
  have integer : ∀ {x : Binary64} {n : ℤ}, x.Valid → ((x.toInt? == some n) = true ↔
      ∃ m, some (Magnitude.exact n) = some m ∧ x.magnitude? = some m) := by
    intro x n hx
    simp [Binary64.toInt?_eq_some hx]
  cases p with
  | int n =>
    cases q with
    | int k =>
      simp only [eq, magnitude?, both_iff, Magnitude.exact.injEq, beq_iff_eq, Int.cast_inj]
    | binary x => exact integer hq
    | decimal d => simp [eq, magnitude?, Decimal.eq_iff, Decimal.magnitude?_ofInt]
    | ratio _ _ => exact hq.elim
  | binary x =>
    cases q with
    | int k => exact (integer hp).trans ⟨fun ⟨m, h, h'⟩ => ⟨m, h', h⟩, fun ⟨m, h, h'⟩ => ⟨m, h', h⟩⟩
    | binary y => exact Binary64.eq_iff hp hq
    | decimal d =>
      simp [eq, magnitude?, Decimal.eq_iff, Decimal.magnitude?_ofBinary, and_comm]
    | ratio _ _ => exact hq.elim
  | decimal d =>
    cases q with
    | int k => simp [eq, magnitude?, Decimal.eq_iff, Decimal.magnitude?_ofInt]
    | binary y => simp [eq, magnitude?, Decimal.eq_iff, Decimal.magnitude?_ofBinary]
    | decimal d' => exact Decimal.eq_iff d d'
    | ratio _ _ => exact hq.elim
  | ratio _ _ => exact hp.elim

end Quantity

end CallSnapshot
