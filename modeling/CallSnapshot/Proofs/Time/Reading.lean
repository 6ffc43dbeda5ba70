import CallSnapshot.Proofs.Steps
import CallSnapshot.Proofs.Time.Iso

/-! Whatever is read as a date or a time is one, and is read again from its own text. -/

namespace CallSnapshot

lemma Date.valid_of_check {d c : Date} (h : d.check = .ok c) : c.Valid := by
  unfold check at h
  split at h
  · cases h
  · rename_i hyear
    split at h
    · cases h
    · rename_i hmonth
      split at h
      · cases h
      · rename_i hday
        cases h
        simp only [Bool.or_eq_true, decide_eq_true_eq, not_or, not_lt] at hyear hmonth hday
        exact ⟨hyear.1, hyear.2, hmonth.1, hmonth.2, hday.1, hday.2⟩

lemma ClockTime.check_bounds {t c : ClockTime} (h : t.check = .ok c) :
    c = t ∧ t.hour < 24 ∧ t.minute < 60 ∧ t.second < 60 := by
  unfold check at h
  split at h
  · cases h
  · split at h
    · cases h
    · split at h
      · cases h
      · exact ⟨(Except.ok.inj h).symm, by omega, by omega, by omega⟩

namespace Iso

lemma digit_le {c : Char} (h : c.isDigit = true) : c.toNat - '0'.toNat ≤ 9 :=
  Text.forall_isDigit (P := fun c => c.toNat - '0'.toNat ≤ 9) (by decide) h

lemma takeNumber_lt {width value n : ℕ} {cs rest : List Char} (h : takeNumber width value cs = some (n, rest)) :
    n < (value + 1) * 10 ^ width := by
  induction width generalizing value cs with
  | zero =>
    cases h
    omega
  | succ width ih =>
    cases cs with
    | nil => cases h
    | cons c cs =>
      rw [takeNumber] at h
      split at h
      · rename_i hc
        have hle := digit_le hc
        calc n < (value * 10 + (c.toNat - '0'.toNat) + 1) * 10 ^ width := ih h
          _ ≤ ((value + 1) * 10) * 10 ^ width := Nat.mul_le_mul_right _ (by omega)
          _ = (value + 1) * 10 ^ (width + 1) := by ring
      · cases h

lemma readFraction_lt {length micro : ℕ} {cs : List Char} {more : Bool}
    (h : readFraction length cs = some (micro, more)) : micro < 1000000 := by
  unfold readFraction at h
  obtain ⟨⟨value, rest⟩, hvalue, h⟩ := Option.bind_eq_some_iff.mp h
  cases h
  have hlt := takeNumber_lt hvalue
  have hwidth : min length 6 ≤ 6 := min_le_right _ _
  calc value * 10 ^ (6 - min length 6) < 10 ^ min length 6 * 10 ^ (6 - min length 6) :=
        Nat.mul_lt_mul_of_pos_right (by omega) (by positivity)
    _ = 1000000 := by
      rw [← pow_add, Nat.add_sub_cancel' hwidth]
      norm_num

lemma readFields_lt {separated first more : Bool} {left micro : ℕ} {read fields : List ℕ} {length : ℤ}
    {cs : List Char} (h : readFields separated left first read length cs = some (fields, micro, more)) :
    micro < 1000000 := by
  induction left generalizing separated first read length cs with
  | zero =>
    obtain ⟨⟨micro, more⟩, hread, h⟩ := Option.bind_eq_some_iff.mp h
    cases h
    exact readFraction_lt hread
  | succ left ih =>
    rw [readFields] at h
    obtain ⟨⟨value, rest⟩, -, h⟩ := Option.bind_eq_some_iff.mp h
    dsimp only at h
    -- a field, and then the end, another field or the fraction
    generalize (if first = true then rest.head? == some ':' else separated) = mark at h
    split at h
    · cases h
      decide
    · split at h
      · exact ih h
      · split at h
        · obtain ⟨⟨micro, more⟩, hread, h⟩ := Option.bind_eq_some_iff.mp h
          cases h
          exact readFraction_lt hread
        · split at h
          · exact ih h
          · cases h

lemma readClock_lt {length : ℕ} {cs : List Char} {t : Clock} (h : readClock length cs = some t) :
    t.micro < 1000000 := by
  obtain ⟨⟨fields, micro, more⟩, hread, h⟩ := Option.bind_eq_some_iff.mp h
  cases h
  exact readFields_lt hread

lemma readTime_bounds {cs : List Char} {t : Clock} {offset : Option ℤ} (h : readTime cs = some (t, offset)) :
    t.micro < 1000000 ∧ ∀ o ∈ offset, o = 0 ∨ 1000000 ≤ o.natAbs := by
  unfold readTime at h
  obtain ⟨u, hu, h⟩ := Option.bind_eq_some_iff.mp h
  have hmicro := readClock_lt hu
  split at h
  · split at h
    · cases h
    · cases h
      exact ⟨hmicro, by simp⟩
  · cases h
    exact ⟨hmicro, by simp⟩
  · cases h
  · obtain ⟨o, -, h⟩ := Option.bind_eq_some_iff.mp h
    split at h
    · cases h
    · cases h
      refine ⟨hmicro, fun x hx => ?_⟩
      obtain rfl := Option.some.inj hx
      split <;> split <;> simp_all <;> omega

lemma checkTime_valid {cs : List Char} {t : Clock} {offset : Option ℤ} {c : ClockTime}
    (hread : readTime cs = some (t, offset)) (h : checkTime t offset = .ok c) : c.Valid ∧ c.Readable := by
  obtain ⟨hmicro, hoffset⟩ := readTime_bounds hread
  unfold checkTime at h
  split at h
  · rename_i o
    split at h
    · rename_i hlt
      obtain ⟨rfl, hh, hm, hs⟩ := ClockTime.check_bounds h
      refine ⟨⟨hh, hm, hs, hmicro, fun x hx => ?_⟩, hoffset⟩
      obtain rfl := Option.some.inj hx
      exact hlt
    · cases h
  · obtain ⟨rfl, hh, hm, hs⟩ := ClockTime.check_bounds h
    exact ⟨⟨hh, hm, hs, hmicro, nofun⟩, hoffset⟩

theorem parseDate_valid {s : String} {d : Date} (h : parseDate s = .ok d) : d.Valid := by
  unfold parseDate at h
  dsimp only at h
  split at h
  · split at h
    · exact Date.valid_of_check h
    · cases h
  · cases h

theorem parseTime_valid {s : String} {t : ClockTime} (h : parseTime s = .ok t) : t.Valid ∧ t.Readable := by
  unfold parseTime at h
  dsimp only at h
  split at h
  · rename_i hread
    exact checkTime_valid hread h
  · cases h

theorem parseDateTime_valid {s : String} {m : DateTime} (h : parseDateTime s = .ok m) :
    m.Valid ∧ m.time.Readable := by
  have both : ∀ {cs : List Char} {t offset} {d : Date}, readTime cs = some (t, offset) →
      (do let d ← d.check; let t ← checkTime t offset; Except.ok (⟨d, t⟩ : DateTime)) = .ok m →
      m.Valid ∧ m.time.Readable := by
    intro cs t offset d hread h
    obtain ⟨e, hd, h⟩ := bind_eq_ok.mp h
    obtain ⟨c, hc, h⟩ := bind_eq_ok.mp h
    cases h
    obtain ⟨hvalid, hreadable⟩ := checkTime_valid hread hc
    exact ⟨⟨Date.valid_of_check hd, hvalid⟩, hreadable⟩
  have midnight : ClockTime.Valid ⟨0, 0, 0, 0, none⟩ := ⟨by decide, by decide, by decide, by decide, nofun⟩
  unfold parseDateTime at h
  dsimp only at h
  split at h
  · cases h
  · split at h
    · cases h
    · split at h
      · cases h
      · split at h
        · obtain ⟨e, hd, h⟩ := bind_eq_ok.mp h
          cases h
          exact ⟨⟨Date.valid_of_check hd, midnight⟩, nofun⟩
        · split at h
          · cases h
          · rename_i hread
            split at h
            · split at h
              · exact both hread h
              · cases h
            · exact both hread h

end Iso

end CallSnapshot
