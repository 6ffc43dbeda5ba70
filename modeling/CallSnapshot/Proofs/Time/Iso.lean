import CallSnapshot.Proofs.Text.Digits
import CallSnapshot.Proofs.Value.Plain

/-!
Dates and times read back from their texts. Of an offset below one second nothing is kept: the
reader takes it for universal time.
-/

namespace CallSnapshot

namespace Iso

open Text

lemma two_digits {n : ℕ} (h : n < 100) :
    ∃ a b, digits 2 n = [a, b] ∧ a.isDigit = true ∧ b.isDigit = true := by
  have hlen := length_digits (w := 2) (n := n) (by decide) h
  have hd := digits_digits 2 n
  match hab : digits 2 n with
  | [a, b] =>
    rw [hab] at hd
    exact ⟨a, b, rfl, hd a (by simp), hd b (by simp)⟩
  | [] => simp [hab] at hlen
  | [_] => simp [hab] at hlen
  | _ :: _ :: _ :: _ => simp [hab] at hlen

lemma readDate_dateChars {d : Date} (h : d.Valid) (length : ℕ) (rest : List Char) :
    readDate (dateChars d ++ rest) length = some d := by
  obtain ⟨-, hy, -, hm, -, hd⟩ := h
  have hday : d.day < 100 := by
    have : d.day ≤ 31 := hd.trans (by unfold Date.monthLength; split <;> (try split) <;> decide)
    omega
  obtain ⟨a, b, hab, ha, -⟩ := two_digits (n := d.month) (by omega)
  have hW : a ≠ 'W' := by rintro rfl; simp [Char.isDigit] at ha
  have hyear := takeNumber_digits (w := 4) (n := d.year) (by decide) (by omega)
    ('-' :: digits 2 d.month ++ '-' :: digits 2 d.day ++ rest)
  have hmonth := takeNumber_digits (w := 2) (n := d.month) (by decide) (by omega)
    ('-' :: digits 2 d.day ++ rest)
  have hdays := takeNumber_digits (w := 2) (n := d.day) (by decide) (by omega) rest
  simp only [List.append_assoc, List.cons_append] at hyear hmonth hdays
  simp only [readDate, dateChars, List.append_assoc, List.cons_append, hyear]
  simp only [bind, Option.bind, List.head?_cons, beq_self_eq_true, if_true, List.drop_one,
    List.tail_cons]
  rw [hab] at hmonth ⊢
  simp only [List.cons_append, List.nil_append] at hmonth ⊢
  split
  · rename_i heq
    exact absurd (List.cons.inj heq).1 hW
  · simp [hmonth, hdays]

lemma ascii_dateChars (d : Date) : Ascii (dateChars d) := by
  intro c hc
  simp only [dateChars, List.mem_append, List.mem_cons] at hc
  obtain (hc | rfl | hc) | rfl | hc := hc
  · exact (digits_digits _ _).ascii c hc
  · decide
  · exact (digits_digits _ _).ascii c hc
  · decide
  · exact (digits_digits _ _).ascii c hc

lemma length_dateChars {d : Date} (h : d.Valid) : (dateChars d).length = 10 := by
  obtain ⟨-, hy, -, hm, -, hd⟩ := h
  have hday : d.day ≤ 31 := hd.trans (by unfold Date.monthLength; split <;> (try split) <;> decide)
  simp [dateChars, length_digits (w := 4) (n := d.year) (by decide) (by omega),
    length_digits (w := 2) (n := d.month) (by decide) (by omega),
    length_digits (w := 2) (n := d.day) (by decide) (by omega)]

theorem parseDate_dateText {d : Date} (h : d.Valid) : parseDate (dateText d) = .ok d := by
  have hread := readDate_dateChars h 10 []
  rw [List.append_nil] at hread
  simp [parseDate, dateText, bytes_ascii (ascii_dateChars d), length_dateChars h, hread,
    Date.check_eq_ok h]

lemma readClock_short {hour minute : ℕ} (hh : hour < 100) (hm : minute < 100) :
    readClock 5 (digits 2 hour ++ ':' :: digits 2 minute) = some ⟨hour, minute, 0, 0, false⟩ := by
  have h₁ := takeNumber_digits (w := 2) (n := hour) (by decide) hh (':' :: digits 2 minute)
  have h₂ := takeNumber_digits (w := 2) (n := minute) (by decide) hm []
  rw [List.append_nil] at h₂
  simp [readClock, readFields, h₁, h₂]

/-- What follows a clock time, of which the digits would belong to its fraction. -/
def trailing (micro : ℕ) (rest : List Char) : Bool :=
  if micro = 0 then !rest.isEmpty else !(rest.dropWhile Char.isDigit).isEmpty

lemma length_clockChars {hour minute second micro : ℕ} (hh : hour < 100) (hm : minute < 100)
    (hs : second < 100) (hu : micro < 1000000) :
    (clockChars hour minute second micro).length = if micro = 0 then 8 else 15 := by
  have h₁ := length_digits (w := 2) (n := hour) (by decide) hh
  have h₂ := length_digits (w := 2) (n := minute) (by decide) hm
  have h₃ := length_digits (w := 2) (n := second) (by decide) hs
  have h₄ := length_digits (w := 6) (n := micro) (by decide) hu
  by_cases h : micro = 0 <;> simp [clockChars, h, h₁, h₂, h₃, h₄]

lemma readClock_clockChars {hour minute second micro : ℕ} (hh : hour < 100) (hm : minute < 100)
    (hs : second < 100) (hu : micro < 1000000) (rest : List Char) :
    readClock (clockChars hour minute second micro).length
        (clockChars hour minute second micro ++ rest) =
      some ⟨hour, minute, second, micro, trailing micro rest⟩ := by
  rw [length_clockChars hh hm hs hu]
  by_cases h : micro = 0
  · have h₁ := takeNumber_digits (w := 2) (n := hour) (by decide) hh
      (':' :: (digits 2 minute ++ ':' :: (digits 2 second ++ rest)))
    have h₂ := takeNumber_digits (w := 2) (n := minute) (by decide) hm
      (':' :: (digits 2 second ++ rest))
    have h₃ := takeNumber_digits (w := 2) (n := second) (by decide) hs rest
    simp [readClock, readFields, clockChars, h, h₁, h₂, h₃, trailing]
    cases rest <;> simp
  · have h₁ := takeNumber_digits (w := 2) (n := hour) (by decide) hh
      (':' :: (digits 2 minute ++ ':' :: (digits 2 second ++ '.' :: (digits 6 micro ++ rest))))
    have h₂ := takeNumber_digits (w := 2) (n := minute) (by decide) hm
      (':' :: (digits 2 second ++ '.' :: (digits 6 micro ++ rest)))
    have h₃ := takeNumber_digits (w := 2) (n := second) (by decide) hs
      ('.' :: (digits 6 micro ++ rest))
    have h₄ := takeNumber_digits (w := 6) (n := micro) (by decide) hu rest
    simp [readClock, readFields, readFraction, clockChars, h, h₁, h₂, h₃, h₄, trailing]

lemma not_startsOffset_digit {c : Char} (h : c.isDigit = true) : startsOffset c = false := by
  have : ∀ d : Char, d.isDigit = false → c ≠ d := by
    rintro d hd rfl
    rw [h] at hd
    cases hd
  simp [startsOffset, this '+' rfl, this '-' rfl, this 'Z' rfl]

lemma mem_clockChars {hour minute second micro : ℕ} {c : Char}
    (hc : c ∈ clockChars hour minute second micro) : c.isDigit = true ∨ c = ':' ∨ c = '.' := by
  have digit : ∀ {w n : ℕ}, c ∈ digits w n → c.isDigit = true := fun h => digits_digits _ _ c h
  simp only [clockChars, List.mem_append, List.mem_cons] at hc
  obtain ((hc | rfl | hc) | rfl | hc) | hc := hc
  · exact .inl (digit hc)
  · exact .inr (.inl rfl)
  · exact .inl (digit hc)
  · exact .inr (.inl rfl)
  · exact .inl (digit hc)
  · split at hc
    · simp at hc
    · rcases List.mem_cons.mp hc with rfl | hc
      · exact .inr (.inr rfl)
      · exact .inl (digit hc)

lemma split_clockChars (hour minute second micro : ℕ) {z : List Char}
    (hz : ∀ c, z.head? = some c → startsOffset c = true) :
    (clockChars hour minute second micro ++ z).takeWhile (fun c => !startsOffset c) =
        clockChars hour minute second micro ∧
      (clockChars hour minute second micro ++ z).dropWhile (fun c => !startsOffset c) = z := by
  have hclock : ∀ c ∈ clockChars hour minute second micro, (!startsOffset c) = true := by
    intro c hc
    rcases mem_clockChars hc with hd | rfl | rfl
    · rw [not_startsOffset_digit hd]
      rfl
    · rfl
    · rfl
  rw [List.takeWhile_append_of_pos hclock, List.dropWhile_append_of_pos hclock]
  cases z with
  | nil => simp
  | cons c z => simp [hz c rfl]

/-- What is read of an offset that was written: of less than a second, nothing. -/
def heard (offset : ℤ) : ℤ := if offset.natAbs < 1000000 then 0 else offset

def zoneChars (offset : ℤ) : List Char :=
  let n := offset.natAbs
  if n / 1000000 % 60 = 0 ∧ n % 1000000 = 0 then
    digits 2 (n / 1000000 / 3600) ++ ':' :: digits 2 (n / 1000000 / 60 % 60)
  else clockChars (n / 1000000 / 3600) (n / 1000000 / 60 % 60) (n / 1000000 % 60) (n % 1000000)

lemma offsetChars_eq (offset : ℤ) :
    offsetChars offset = (if offset < 0 then '-' else '+') :: zoneChars offset := by
  by_cases h : offset.natAbs / 1000000 % 60 = 0 ∧ offset.natAbs % 1000000 = 0
  · simp [offsetChars, zoneChars, h]
  · simp only [offsetChars, zoneChars, if_neg h, clockChars]
    simp [h]

lemma readClock_zoneChars {offset : ℤ} (h : offset.natAbs < offsetLimit) :
    readClock (zoneChars offset).length (zoneChars offset) =
      some ⟨offset.natAbs / 1000000 / 3600, offset.natAbs / 1000000 / 60 % 60,
        offset.natAbs / 1000000 % 60, offset.natAbs % 1000000, false⟩ := by
  have hh : offset.natAbs / 1000000 / 3600 < 100 := by
    simp only [offsetLimit] at h
    omega
  have hm : offset.natAbs / 1000000 / 60 % 60 < 100 := by omega
  have hs : offset.natAbs / 1000000 % 60 < 100 := by omega
  have hu : offset.natAbs % 1000000 < 1000000 := by omega
  by_cases hz : offset.natAbs / 1000000 % 60 = 0 ∧ offset.natAbs % 1000000 = 0
  · have hlen : (zoneChars offset).length = 5 := by
      simp [zoneChars, hz, length_digits (w := 2) (by decide) hh,
        length_digits (w := 2) (by decide) hm]
    rw [hlen, zoneChars, if_pos hz, readClock_short hh hm, hz.1, hz.2]
  · have := readClock_clockChars hh hm hs hu []
    rw [List.append_nil] at this
    rw [zoneChars, if_neg hz, this]
    simp [trailing]

lemma readTime_timeChars {t : ClockTime} (h : t.Valid) :
    ∃ more, readTime (timeChars t) =
      some (⟨t.hour, t.minute, t.second, t.micro, more⟩, t.offset.map heard) := by
  obtain ⟨hh, hm, hs, hu, ho⟩ := h
  have hread := readClock_clockChars (show t.hour < 100 by omega) (show t.minute < 100 by omega)
    (show t.second < 100 by omega) hu
  cases hoff : t.offset with
  | none =>
    obtain ⟨htake, hdrop⟩ := split_clockChars t.hour t.minute t.second t.micro (z := []) (by simp)
    refine ⟨trailing t.micro [], ?_⟩
    have hmore : trailing t.micro [] = false := by simp [trailing]
    simp only [timeChars, hoff, Option.elim, readTime, htake, hdrop]
    rw [hread []]
    simp [hmore]
  | some o =>
    have hsign : startsOffset (if o < 0 then '-' else '+') = true := by split <;> rfl
    have hne : (if o < 0 then '-' else '+') ≠ 'Z' := by split <;> decide
    have hzone := readClock_zoneChars (ho o hoff)
    obtain ⟨htake, hdrop⟩ := split_clockChars t.hour t.minute t.second t.micro
      (z := (if o < 0 then '-' else '+') :: zoneChars o) (by simpa using hsign)
    refine ⟨trailing t.micro ((if o < 0 then '-' else '+') :: zoneChars o), ?_⟩
    simp only [timeChars, hoff, Option.elim, offsetChars_eq, readTime, htake, hdrop]
    rw [hread]
    set n := o.natAbs with hn
    rcases lt_or_ge o 0 with hneg | hpos
    · simp [hneg, hzone, heard, ← hn]
      split <;> split <;> omega
    · simp [not_lt.mpr hpos, hzone, heard, ← hn]
      split <;> split <;> omega

end Iso

def ClockTime.kept (t : ClockTime) : ClockTime := { t with offset := t.offset.map Iso.heard }

def ClockTime.Readable (t : ClockTime) : Prop :=
  ∀ o ∈ t.offset, o = 0 ∨ 1000000 ≤ o.natAbs

lemma ClockTime.kept_eq_iff {t : ClockTime} : t.kept = t ↔ t.Readable := by
  obtain ⟨hour, minute, second, micro, offset⟩ := t
  cases offset with
  | none => simp [kept, Readable]
  | some o =>
    simp only [kept, Readable, Iso.heard, Option.map_some, ClockTime.mk.injEq, true_and,
      Option.some.injEq, Option.mem_def, forall_eq']
    split <;> omega

namespace Iso

open Text

lemma heard_lt {o : ℤ} (h : o.natAbs < offsetLimit) : (heard o).natAbs < 86400000000 := by
  unfold heard
  split
  · decide
  · exact h

lemma valid_kept {t : ClockTime} (h : t.Valid) : t.kept.Valid := by
  obtain ⟨hh, hm, hs, hu, ho⟩ := h
  refine ⟨hh, hm, hs, hu, fun o hmem => ?_⟩
  obtain ⟨o', ho', rfl⟩ := Option.map_eq_some_iff.mp hmem
  exact heard_lt (ho o' ho')

lemma checkTime_kept {t : ClockTime} (h : t.Valid) (more : Bool) :
    checkTime ⟨t.hour, t.minute, t.second, t.micro, more⟩ (t.offset.map heard) = .ok t.kept := by
  have hcheck := ClockTime.check_eq_ok (valid_kept h)
  cases hoff : t.offset with
  | none => simpa [checkTime, ClockTime.kept, hoff] using hcheck
  | some o =>
    have := heard_lt (h.2.2.2.2 o hoff)
    simpa [checkTime, ClockTime.kept, hoff, this] using hcheck

lemma ascii_timeChars (t : ClockTime) : Ascii (timeChars t) := by
  have clock : ∀ {hour minute second micro : ℕ} {c : Char},
      c ∈ clockChars hour minute second micro → c.toNat < 128 := by
    intro hour minute second micro c hc
    rcases mem_clockChars hc with hd | rfl | rfl
    · exact isDigit_lt hd
    · decide
    · decide
  intro c hc
  rcases List.mem_append.mp hc with hc | hc
  · exact clock hc
  · cases hoff : t.offset with
    | none => simp [hoff] at hc
    | some o =>
      rw [hoff, Option.elim, offsetChars_eq] at hc
      rcases List.mem_cons.mp hc with rfl | hc
      · split <;> decide
      · simp only [zoneChars] at hc
        split at hc
        · rcases List.mem_append.mp hc with hc | hc
          · exact isDigit_lt (digits_digits _ _ c hc)
          · rcases List.mem_cons.mp hc with rfl | hc
            · decide
            · exact isDigit_lt (digits_digits _ _ c hc)
        · exact clock hc

lemma timeChars_head (t : ClockTime) (h : t.Valid) :
    ∃ a rest, timeChars t = a :: rest ∧ a.isDigit = true := by
  obtain ⟨a, b, hab, ha, -⟩ := two_digits (n := t.hour) (by have := h.1; omega)
  exact ⟨a, _, by rw [timeChars, clockChars, hab]; rfl, ha⟩

theorem parseTime_timeText {t : ClockTime} (h : t.Valid) : parseTime (timeText t) = .ok t.kept := by
  obtain ⟨a, rest, hhead, ha⟩ := timeChars_head t h
  have hT : a ≠ 'T' := by rintro rfl; simp [Char.isDigit] at ha
  obtain ⟨more, hread⟩ := readTime_timeChars h
  have hb : bytes (timeText t) = a :: rest := by
    rw [timeText, bytes_ascii (ascii_timeChars t), hhead]
  rw [hhead] at hread
  simp [parseTime, hb, hT, hread, checkTime_kept h]

lemma separatorIndex_dateChars {d : Date} (h : d.Valid) (rest : List Char) :
    separatorIndex (dateChars d ++ 'T' :: rest) = some 10 := by
  have hyear := length_digits (w := 4) (n := d.year) (by decide) (by have := h.2.1; omega)
  obtain ⟨a, b, hab, ha, -⟩ := two_digits (n := d.month) (by have := h.2.2.2.1; omega)
  have hW : a ≠ 'W' := by rintro rfl; simp [Char.isDigit] at ha
  have hlen : (dateChars d ++ 'T' :: rest).length ≠ 7 := by
    rw [List.length_append, length_dateChars h]
    omega
  have h₄ : (dateChars d ++ 'T' :: rest)[4]? = some '-' := by
    simp [dateChars, hyear]
  have h₅ : (dateChars d ++ 'T' :: rest)[5]? = some a := by
    simp [dateChars, List.getElem?_append, hyear, hab]
  simp only [separatorIndex, beq_iff_eq, if_neg hlen, h₄, h₅]
  simp [hW]

theorem parseDateTime_dateTimeText {m : DateTime} (h : m.Valid) :
    parseDateTime (dateTimeText m) = .ok ⟨m.date, m.time.kept⟩ := by
  obtain ⟨hd, ht⟩ := h
  obtain ⟨more, hread⟩ := readTime_timeChars ht
  have hascii : Ascii (dateChars m.date ++ 'T' :: timeChars m.time) := by
    intro c hc
    rcases List.mem_append.mp hc with hc | hc
    · exact ascii_dateChars _ c hc
    · rcases List.mem_cons.mp hc with rfl | hc
      · decide
      · exact ascii_timeChars _ c hc
  have hlen := length_dateChars hd
  have hlong : ¬ (dateChars m.date ++ 'T' :: timeChars m.time).length < 7 := by
    rw [List.length_append, hlen]
    omega
  have hdrop : (dateChars m.date ++ 'T' :: timeChars m.time).drop 10 = 'T' :: timeChars m.time := by
    rw [← hlen, List.drop_left]
  have hcheck := checkTime_kept ht more
  simp only [parseDateTime, dateTimeText, bytes_ascii hascii, if_neg hlong,
    separatorIndex_dateChars hd, readDate_dateChars hd, hdrop]
  have hT : characterWidth 'T' = 1 := rfl
  simp only [List.isEmpty_cons, Bool.false_eq_true, if_false, List.head?_cons, Option.elim, hT,
    List.drop_one, List.tail_cons, hread]
  cases hoff : m.time.offset with
  | none =>
    rw [hoff] at hcheck
    simp only [Option.map_none] at hcheck
    simp [Date.check_eq_ok hd, hcheck, bind, Except.bind]
  | some o =>
    rw [hoff] at hcheck
    have hlt := heard_lt (ht.2.2.2.2 o hoff)
    simp only [Option.map_some] at hcheck
    simp [hlt, Date.check_eq_ok hd, hcheck, bind, Except.bind]

lemma offsetChars_inj {o p : ℤ} (ho : o.natAbs < offsetLimit) (hp : p.natAbs < offsetLimit)
    (h : offsetChars o = offsetChars p) : o = p := by
  rw [offsetChars_eq, offsetChars_eq, List.cons.injEq] at h
  obtain ⟨hsign, hzone⟩ := h
  have hclock := readClock_zoneChars ho
  rw [hzone, readClock_zoneChars hp] at hclock
  simp only [Option.some.injEq, Clock.mk.injEq, and_true] at hclock
  by_cases hneg : o < 0 <;> by_cases hneg' : p < 0 <;> simp [hneg, hneg'] at hsign <;> omega

lemma timeChars_inj {s t : ClockTime} (hs : s.Valid) (ht : t.Valid) (hkept : s.kept = t.kept)
    (h : timeChars s = timeChars t) : s = t := by
  obtain ⟨hour, minute, second, micro, o⟩ := s
  obtain ⟨hour', minute', second', micro', p⟩ := t
  simp only [ClockTime.kept, ClockTime.mk.injEq] at hkept
  obtain ⟨rfl, rfl, rfl, rfl, hheard⟩ := hkept
  have hoffset := List.append_cancel_left h
  cases o with
  | none =>
    cases p with
    | none => rfl
    | some p => cases hheard
  | some o =>
    cases p with
    | none => cases hheard
    | some p => rw [offsetChars_inj (hs.2.2.2.2 o rfl) (ht.2.2.2.2 p rfl) hoffset]

/-- Times of different offsets have different texts, also where the offsets are read alike. -/
lemma timeText_inj {s t : ClockTime} (hs : s.Valid) (ht : t.Valid) (h : timeText s = timeText t) : s = t := by
  have hkept := parseTime_timeText hs
  rw [h, parseTime_timeText ht, Except.ok.injEq] at hkept
  exact timeChars_inj hs ht hkept.symm (String.ofList_inj.mp h)

lemma dateTimeText_inj {m n : DateTime} (hm : m.Valid) (hn : n.Valid) (h : dateTimeText m = dateTimeText n) :
    m = n := by
  have hkept := parseDateTime_dateTimeText hm
  rw [h, parseDateTime_dateTimeText hn, Except.ok.injEq, DateTime.mk.injEq] at hkept
  have hchars := String.ofList_inj.mp h
  rw [hkept.1] at hchars
  have htime := timeChars_inj hm.2 hn.2 hkept.2.symm (List.cons.inj (List.append_cancel_left hchars)).2
  obtain ⟨d, s⟩ := m
  obtain ⟨e, t⟩ := n
  obtain rfl : e = d := hkept.1
  obtain rfl : s = t := htime
  rfl

end Iso

end CallSnapshot
