import CallSnapshot.Config
import CallSnapshot.Proofs.Number.Difference

/-!
What the options are read from: which values are taken for which integers. A number is taken for its
integer part, so that values are accepted that denote no integer; infinities, and integers that are too
long to be written into a complaint, are refused in their own ways.
-/

namespace CallSnapshot.Options

open Numeral (readInt)

def wholePart (r : ℚ) : ℤ := if 0 ≤ r then ⌊r⌋ else ⌈r⌉

lemma wholePart_intCast (n : ℤ) : wholePart n = n := by
  unfold wholePart
  split
  · exact Int.floor_intCast n
  · exact Int.ceil_intCast n

lemma wholePart_neg (r : ℚ) : wholePart (-r) = -wholePart r := by
  unfold wholePart
  rcases lt_trichotomy r 0 with h | rfl | h
  · rw [if_pos (by linarith), if_neg (by linarith), Int.floor_neg]
  · simp
  · rw [if_neg (by linarith), if_pos h.le, Int.ceil_neg]

lemma wholePart_natCast_div (m d : ℕ) : wholePart (m / d) = (m / d : ℕ) := by
  rw [wholePart, if_pos (by positivity), Rat.floor_natCast_div_natCast, Int.natCast_ediv]

lemma tdiv_eq_wholePart (n : ℤ) (d : ℕ) : n.tdiv d = wholePart (n / d) := by
  obtain ⟨m, rfl | rfl⟩ := n.eq_nat_or_neg
  · rw [Int.cast_natCast, wholePart_natCast_div]
    rfl
  · rw [Int.neg_tdiv, Int.cast_neg, neg_div, wholePart_neg, Int.cast_natCast, wholePart_natCast_div]
    rfl

lemma decimal_truncate (s : Bool) (m : ℕ) (e : ℤ) :
    Decimal.truncate s m e = wholePart (signedRat s (m * 10 ^ e)) := by
  have hpositive : Decimal.truncate false m e = wholePart (m * 10 ^ e) := by
    rcases le_or_gt 0 e with he | he
    · obtain ⟨k, rfl⟩ := Int.eq_ofNat_of_zero_le he
      have hcast : (m : ℚ) * 10 ^ (k : ℤ) = ((m * 10 ^ k : ℕ) : ℤ) := by
        rw [zpow_natCast]
        push_cast
        rfl
      rw [hcast, wholePart_intCast]
      simp [Decimal.truncate]
    · obtain ⟨k, rfl⟩ : ∃ k : ℕ, e = -(k : ℤ) := ⟨(-e).toNat, by omega⟩
      have hcast : (m : ℚ) * 10 ^ (-(k : ℤ)) = m / (10 ^ k : ℕ) := by
        rw [zpow_neg, zpow_natCast, ← div_eq_mul_inv]
        push_cast
        rfl
      simp only [hcast, wholePart_natCast_div, Decimal.truncate, Bool.false_eq_true, if_false, not_le.mpr he,
        neg_neg, Int.toNat_natCast]
      split
      · rename_i hfew
        rw [Nat.div_eq_of_lt ((Decimal.lt_pow_digitCount m).trans_le (Nat.pow_le_pow_right (by decide) hfew))]
        rfl
      · push_cast
        rfl
  cases s with
  | false => exact hpositive
  | true =>
    rw [signedRat, if_pos rfl, wholePart_neg, ← hpositive]
    rfl

section Readings

variable {v : Value} {n : ℤ} {r : ℚ}

def Measures (v : Value) (r : ℚ) : Prop :=
  ∃ q, (content v).quantity? = some q ∧ q.magnitude? = some (.exact r)

def Unbounded (v : Value) : Prop :=
  ∃ q s, (content v).quantity? = some q ∧ q.magnitude? = some (.infinite s)

def Spells (v : Value) (n : ℤ) : Prop :=
  (content v).quantity? = none ∧ ∃ s, (content v).textOf? = some s ∧ readInt 10 s = .ok n

/-- A value denotes an integer: it is a number of that size, or a text that has its numeral. -/
def Denotes (v : Value) (n : ℤ) : Prop := Measures v n ∨ Spells v n

/-- A value is bytes that have a numeral, or the bits of an identifier. -/
inductive Carries : Value → ℤ → Prop
  | bytes {v : Value} {bs : List UInt8} {s : String} {n : ℤ} (hv : content v = .bytes bs)
      (hs : asciiText? bs = some s) (hn : readInt 10 s = .ok n) : Carries v n
  | uuid {v : Value} {u : Uuid} (hv : content v = .uuid u) : Carries v u.bits

lemma Measures.unique {r' : ℚ} (h : Measures v r) (h' : Measures v r') : r = r' := by
  obtain ⟨q, hq, hr⟩ := h
  obtain ⟨q', hq', hr'⟩ := h'
  obtain rfl := Option.some.inj (hq.symm.trans hq')
  exact Magnitude.exact.inj (Option.some.inj (hr.symm.trans hr'))

lemma readInteger_measures (h : Measures v r) : readInteger v = .ok (wholePart r) := by
  obtain ⟨q, hq, hr⟩ := h
  unfold readInteger
  rw [hq]
  cases q with
  | int n =>
    obtain rfl : (n : ℚ) = r := by simpa [Quantity.magnitude?] using hr
    rw [wholePart_intCast]
  | binary x =>
    cases x with
    | finite s m e =>
      obtain rfl : signedRat s (m * 2 ^ e) = r := by simpa [Quantity.magnitude?, Binary64.magnitude?] using hr
      rw [← Binary64.toRat_finite, Binary64.toRat, ← tdiv_eq_wholePart]
      rfl
    | nan => cases hr
    | infinity s => simp [Quantity.magnitude?, Binary64.magnitude?] at hr
  | decimal d =>
    cases d with
    | finite s m e =>
      obtain rfl : signedRat s (m * 10 ^ e) = r := by simpa [Quantity.magnitude?, Decimal.magnitude?] using hr
      rw [← decimal_truncate]
    | nan s b k => cases hr
    | infinity s => simp [Quantity.magnitude?, Decimal.magnitude?] at hr
  | ratio n d =>
    obtain rfl : (n / d : ℚ) = r := by simpa [Quantity.magnitude?] using hr
    rw [← tdiv_eq_wholePart]

lemma readInteger_unbounded (h : Unbounded v) : ∃ name, readInteger v = .error (.fault (infiniteFault name)) := by
  obtain ⟨q, s, hq, hr⟩ := h
  unfold readInteger
  rw [hq]
  cases q with
  | int n => cases hr
  | binary x =>
    cases x with
    | finite s m e => cases hr
    | nan => cases hr
    | infinity s => exact ⟨_, rfl⟩
  | decimal d =>
    cases d with
    | finite s m e => cases hr
    | nan s b k => cases hr
    | infinity s => exact ⟨_, rfl⟩
  | ratio n d => cases hr

lemma readInteger_nan {q : Quantity} (hq : (content v).quantity? = some q) (h : q.magnitude? = none) :
    readInteger v = .error .malformed := by
  unfold readInteger
  rw [hq]
  cases q with
  | int n => cases h
  | binary x =>
    cases x with
    | nan => rfl
    | _ => cases h
  | decimal d =>
    cases d with
    | nan s b k => rfl
    | _ => cases h
  | ratio n d => cases h

lemma readText_eq_ok {s : String} (h : readInt 10 s = .ok n) : readText s = .ok n := by
  rw [readText, h]

lemma readText_cases (s : String) : (∃ n, readInt 10 s = .ok n) ∨ readText s = .error .malformed := by
  unfold readText
  split
  · rename_i n hn
    exact .inl ⟨n, hn⟩
  · exact .inr rfl

lemma readInteger_spells (h : Spells v n) : readInteger v = .ok n := by
  obtain ⟨hq, s, hs, hn⟩ := h
  unfold readInteger
  rw [hq, hs]
  exact readText_eq_ok hn

lemma readInteger_carries (h : Carries v n) : readInteger v = .ok n := by
  cases h with
  | bytes hv hs hn =>
    unfold readInteger
    rw [hv]
    simp only [Value.quantity?, Value.textOf?, hs]
    exact readText_eq_ok hn
  | uuid hv =>
    unfold readInteger
    rw [hv]
    rfl

lemma readInteger_cases (v : Value) : (∃ r, Measures v r) ∨ Unbounded v ∨ (∃ n, Spells v n) ∨
    (∃ n, Carries v n) ∨ readInteger v = .error .malformed := by
  cases hq : (content v).quantity? with
  | some q =>
    rcases hm : q.magnitude? with _ | r | s
    · exact .inr (.inr (.inr (.inr (readInteger_nan hq hm))))
    · exact .inl ⟨r, q, hq, hm⟩
    · exact .inr (.inl ⟨q, s, hq, hm⟩)
  | none =>
    refine .inr (.inr ?_)
    unfold readInteger
    rw [hq]
    dsimp only
    split
    · rename_i s hs
      rcases readText_cases s with ⟨n, hn⟩ | hs'
      · exact .inl ⟨n, hq, s, hs, hn⟩
      · exact .inr (.inr hs')
    · rename_i bs _ hv
      split
      · rename_i s hs
        rcases readText_cases s with ⟨n, hn⟩ | hs'
        · exact .inr (.inl ⟨n, .bytes hv hs hn⟩)
        · exact .inr (.inr hs')
      · exact .inr (.inr rfl)
    · rename_i u _ hv
      exact .inr (.inl ⟨u.bits, .uuid hv⟩)
    · exact .inr (.inr rfl)

lemma readInteger_eq_ok :
    readInteger v = .ok n ↔ Denotes v n ∨ Carries v n ∨ ∃ r, Measures v r ∧ wholePart r = n := by
  constructor
  · intro h
    rcases readInteger_cases v with ⟨r, hr⟩ | hv | ⟨k, hk⟩ | ⟨k, hk⟩ | hv
    · rw [readInteger_measures hr] at h
      exact .inr (.inr ⟨r, hr, Except.ok.inj h⟩)
    · obtain ⟨name, hname⟩ := readInteger_unbounded hv
      cases hname.symm.trans h
    · rw [readInteger_spells hk] at h
      exact .inl (.inr (Except.ok.inj h ▸ hk))
    · rw [readInteger_carries hk] at h
      exact .inr (.inl (Except.ok.inj h ▸ hk))
    · cases hv.symm.trans h
  · rintro ((h | h) | h | ⟨r, hr, rfl⟩)
    · rw [readInteger_measures h, wholePart_intCast]
    · exact readInteger_spells h
    · exact readInteger_carries h
    · exact readInteger_measures hr

lemma unbounded_of_fault {f : Fault} (h : readInteger v = .error (.fault f)) : Unbounded v ∧ f.kind = .overflow := by
  rcases readInteger_cases v with ⟨r, hr⟩ | hv | ⟨k, hk⟩ | ⟨k, hk⟩ | hv
  · cases (readInteger_measures hr).symm.trans h
  · obtain ⟨name, hname⟩ := readInteger_unbounded hv
    cases hname.symm.trans h
    exact ⟨hv, rfl⟩
  · cases (readInteger_spells hk).symm.trans h
  · cases (readInteger_carries hk).symm.trans h
  · cases hv.symm.trans h

lemma quantity?_of_number? {x : Binary64} (h : Diff.number? v = some (.binary x)) : v.quantity? = some (.binary x) := by
  fun_induction Diff.number? v with
  | case1 n => cases h
  | case2 y =>
    cases h
    rfl
  | case3 k w ih => exact ih h
  | case4 c k w ih => exact ih h
  | case5 y =>
    cases h
    rfl
  | case6 => cases h

lemma quantity?_base (v : Value) : v.base.quantity? = v.quantity? := by
  fun_induction Value.base v with
  | case1 k w ih => exact ih
  | case2 => rfl

lemma quantity?_content {q : Quantity} (h : v.quantity? = some q) : (content v).quantity? = some q := by
  rw [← quantity?_base] at h
  unfold content
  split
  · rename_i hbase
    rwa [hbase] at h
  · rename_i hbase
    rw [hbase] at h
    cases h
  · exact h

lemma isBroken_binary {x : Binary64} (hx : x.Valid) (h : Diff.number? v = some (.binary x)) :
    isBroken v = false ↔ ∃ n : ℤ, Measures v n := by
  have hq := quantity?_content (quantity?_of_number? h)
  have hbroken : isBroken v = !x.isIntegral := by rw [isBroken, h]
  rw [hbroken, Bool.not_eq_false']
  constructor
  · intro hint
    have htrunc : x.toInt? = some x.truncate := by rw [Binary64.toInt?, if_pos hint]
    exact ⟨x.truncate, _, hq, (Binary64.toInt?_eq_some hx _).mp htrunc⟩
  · rintro ⟨n, q, hq', hn⟩
    obtain rfl := Option.some.inj (hq.symm.trans hq')
    have hint := (Binary64.toInt?_eq_some hx n).mpr hn
    rw [Binary64.toInt?] at hint
    split at hint
    · assumption
    · cases hint

lemma isBroken_other (h : ∀ x, Diff.number? v ≠ some (.binary x)) : isBroken v = false := by
  unfold isBroken
  split
  · rename_i x hx
    exact absurd hx (h x)
  · rfl

lemma readInteger_unbroken (hv : ∀ x, Diff.number? v = some (.binary x) → x.Valid) :
    readInteger v = .ok n ∧ isBroken v = false ↔ Denotes v n ∨ Carries v n ∨
      (∀ x, Diff.number? v ≠ some (.binary x)) ∧ ∃ r, Measures v r ∧ wholePart r = n := by
  rw [readInteger_eq_ok]
  by_cases hbinary : ∃ x, Diff.number? v = some (.binary x)
  · obtain ⟨x, hx⟩ := hbinary
    have hq := quantity?_content (quantity?_of_number? hx)
    have hspells : ¬ Spells v n := fun h => by cases hq.symm.trans h.1
    have hcarries : ¬ Carries v n := fun h => by
      cases h with
      | bytes hc => rw [hc] at hq; cases hq
      | uuid hc => rw [hc] at hq; cases hq
    have hother : ¬ ∀ x, Diff.number? v ≠ some (.binary x) := fun h => h x hx
    simp only [isBroken_binary (hv x hx) hx, Denotes, hspells, hcarries, hother, or_false, false_or,
      false_and]
    constructor
    · rintro ⟨h | ⟨r, hr, rfl⟩, k, hk⟩
      · exact h
      · obtain rfl : r = k := hr.unique hk
        rwa [wholePart_intCast]
    · exact fun h => ⟨.inl h, n, h⟩
  · have hother : ∀ x, Diff.number? v ≠ some (.binary x) := not_exists.mp hbinary
    simp only [isBroken_other hother, hother, ne_eq, not_false_eq_true, implies_true, true_and, and_true]

lemma not_unbounded (h : ∀ f, readInteger v ≠ .error (.fault f)) : ¬ Unbounded v := by
  intro hv
  obtain ⟨name, hname⟩ := readInteger_unbounded hv
  exact h _ hname

/-- The integer of a value, but for those that are refused. -/
def validated (what rule : String) (refused : ℤ → Prop) [DecidablePred refused] (v : Value) : Except Fault ℤ :=
  match readInteger v with
  | .error (.fault f) => .error f
  | .error .malformed => .error (complain what rule v)
  | .ok n => if refused n then .error (complain what rule v) else .ok n

section Validated

variable {what rule : String} {refused : ℤ → Prop} [DecidablePred refused]

lemma validated_eq_ok : validated what rule refused v = .ok n ↔ readInteger v = .ok n ∧ ¬ refused n := by
  unfold validated
  split
  · rename_i hread
    simp [hread]
  · rename_i hread
    simp [hread]
  · rename_i k hread
    simp only [hread, Except.ok.injEq]
    split
    · rename_i hrefused
      refine iff_of_false nofun ?_
      rintro ⟨rfl, haccepted⟩
      exact haccepted hrefused
    · rename_i haccepted
      rw [Except.ok.injEq]
      exact ⟨fun h => ⟨h, h ▸ haccepted⟩, fun h => h.1⟩

lemma validated_eq_error {f : Fault} (h : validated what rule refused v = .error f) :
    Unbounded v ∧ f.kind = .overflow ∨ ¬ Unbounded v ∧ f = complain what rule v := by
  unfold validated at h
  split at h
  · rename_i hread
    cases h
    exact .inl (unbounded_of_fault hread)
  · rename_i hread
    cases h
    exact .inr ⟨not_unbounded (by simp [hread]), rfl⟩
  · rename_i hread
    split at h
    · cases h
      exact .inr ⟨not_unbounded (by simp [hread]), rfl⟩
    · cases h

end Validated

lemma port_eq (v : Value) :
    port v = validated "port" portRule (fun n => (isBroken v || n < 1 || 65535 < n) = true) v := rfl

lemma timeout_eq (v : Value) : timeout v = validated "timeout" timeoutRule (fun n => n < 1) v := rfl

lemma port_eq_ok : port v = .ok n ↔ (readInteger v = .ok n ∧ isBroken v = false) ∧ 1 ≤ n ∧ n ≤ 65535 := by
  rw [port_eq, validated_eq_ok, and_assoc]
  simp only [Bool.or_eq_true, decide_eq_true_eq, not_or, Bool.not_eq_true, not_lt, and_assoc]

lemma timeout_eq_ok : timeout v = .ok n ↔ readInteger v = .ok n ∧ 1 ≤ n := by
  rw [timeout_eq, validated_eq_ok, not_lt]

lemma port_eq_error {f : Fault} (h : port v = .error f) :
    Unbounded v ∧ f.kind = .overflow ∨ ¬ Unbounded v ∧ f = complain "port" portRule v :=
  validated_eq_error (port_eq v ▸ h)

lemma timeout_eq_error {f : Fault} (h : timeout v = .error f) :
    Unbounded v ∧ f.kind = .overflow ∨ ¬ Unbounded v ∧ f = complain "timeout" timeoutRule v :=
  validated_eq_error (timeout_eq v ▸ h)

end Readings

variable {v : Value}

/-- Whatever value an option is given. As a port it is accepted if it is read as an integer from 1 to
65535, as a timeout if it is read as a positive one. An integer is read from a value that denotes it, from
bytes and identifiers, and from numbers that it is the integer part of; binary fractions among the latter
are refused as ports. All other values are refused by a complaint, but for infinities; a complaint about
an integer that is too long to be written is one about that. -/
theorem options_read (hv : ∀ x, Diff.number? v = some (.binary x) → x.Valid) :
    (∀ n, port v = .ok n ↔ (1 ≤ n ∧ n ≤ 65535) ∧ (Denotes v n ∨ Carries v n ∨
      (∀ x, Diff.number? v ≠ some (.binary x)) ∧ ∃ r, Measures v r ∧ wholePart r = n)) ∧
    (∀ n, timeout v = .ok n ↔ 1 ≤ n ∧
      (Denotes v n ∨ Carries v n ∨ ∃ r, Measures v r ∧ wholePart r = n)) ∧
    (∀ f, port v = .error f →
      Unbounded v ∧ f.kind = .overflow ∨ ¬ Unbounded v ∧ f = complain "port" portRule v) ∧
    (∀ f, timeout v = .error f →
      Unbounded v ∧ f.kind = .overflow ∨ ¬ Unbounded v ∧ f = complain "timeout" timeoutRule v) ∧
    ∀ what rule, (complain what rule v).kind = if v.tooLong then .value else .option := by
  refine ⟨fun n => ?_, fun n => ?_, fun _ => port_eq_error, fun _ => timeout_eq_error, fun what rule => ?_⟩
  · rw [port_eq_ok, readInteger_unbroken hv, and_comm]
  · rw [timeout_eq_ok, readInteger_eq_ok, and_comm]
  · unfold complain
    split <;> rfl

def oneAndHalf : Value := .float (.finite false 3 (-1))

lemma measures_oneAndHalf : Measures oneAndHalf (3 / 2) := by
  refine ⟨_, rfl, ?_⟩
  norm_num [Quantity.magnitude?, Binary64.magnitude?, signedRat]

/-- A timeout of one and a half is taken for one, and there is no such port. -/
theorem options_read_half : (∀ x, Diff.number? oneAndHalf = some (.binary x) → x.Valid) ∧
    timeout oneAndHalf = .ok 1 ∧ ¬ Denotes oneAndHalf 1 ∧ ∀ n, port oneAndHalf ≠ .ok n := by
  have hv : ∀ x, Diff.number? oneAndHalf = some (.binary x) → x.Valid := by
    rintro x ⟨⟩
    exact .inr (by decide)
  obtain ⟨hport, htimeout, -⟩ := options_read hv
  have hnone : ∀ n : ℤ, ¬ Denotes oneAndHalf n := by
    rintro n (h | ⟨h, -⟩)
    · have hn : ((3 : ℤ) : ℚ) = (2 * n : ℤ) := by
        push_cast
        linarith [measures_oneAndHalf.unique h]
      have : 3 = 2 * n := by exact_mod_cast hn
      omega
    · cases h
  refine ⟨hv, (htimeout 1).mpr ⟨le_rfl, .inr (.inr ⟨3 / 2, measures_oneAndHalf, ?_⟩)⟩, hnone 1, fun n h => ?_⟩
  · rw [wholePart, if_pos (by norm_num), Int.floor_eq_iff]
    norm_num
  · rcases ((hport n).mp h).2 with h | h | ⟨h, -⟩
    · exact hnone n h
    · cases h with
      | bytes h => cases h
      | uuid h => cases h
    · exact h _ rfl

end CallSnapshot.Options
