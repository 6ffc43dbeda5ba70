import CallSnapshot.Proofs.Text.Digits
import CallSnapshot.Proofs.Value.Plain
import CallSnapshot.Uuid

/-! Hexadecimal digits, and identifiers read back from them. -/

namespace CallSnapshot

namespace Text

lemma length_hexDigits (w n : ℕ) : (hexDigits w n).length = w := by
  induction w generalizing n with
  | zero => rfl
  | succ w ih => rw [hexDigits, List.length_append, ih, List.length_singleton]

lemma mem_hexDigits {w n : ℕ} {c : Char} (hc : c ∈ hexDigits w n) : ∃ d < 16, c = hexDigit d := by
  induction w generalizing n with
  | zero => simp [hexDigits] at hc
  | succ w ih =>
    rw [hexDigits] at hc
    rcases List.mem_append.mp hc with hc | hc
    · exact ih hc
    · exact ⟨n % 16, Nat.mod_lt _ (by decide), List.mem_singleton.mp hc⟩

lemma forall_hexDigits {P : Char → Prop} (h : ∀ d < 16, P (hexDigit d)) (w n : ℕ) :
    ∀ c ∈ hexDigits w n, P c := by
  intro c hc
  obtain ⟨d, hd, rfl⟩ := mem_hexDigits hc
  exact h d hd

end Text

namespace Numeral

lemma takeDigits_all {base : ℕ} {cs : List Char}
    (hc : ∀ c ∈ cs, c ≠ '_' ∧ (digitIn base c).isSome) :
    takeDigits base cs = some (cs.filterMap (digitIn base), []) := by
  induction cs with
  | nil => rfl
  | cons c cs ih =>
    simp only [List.forall_mem_cons] at hc
    obtain ⟨d, hd⟩ := Option.isSome_iff_exists.mp hc.1.2
    rw [takeDigits, hd, ih hc.2, List.filterMap_cons_some hd]
    · rfl
    · rintro c' cs' rfl
      exact absurd rfl hc.1.1
    · rintro rfl
      exact absurd rfl hc.1.1

lemma ofDigits_append (base : ℕ) (ds es : List ℕ) :
    ofDigits base (ds ++ es) = es.foldl (fun n d => base * n + d) (ofDigits base ds) :=
  List.foldl_append ..

open Text in
lemma ofDigits_hexDigits (w n : ℕ) :
    ofDigits 16 ((hexDigits w n).filterMap (digitIn 16)) = n % 16 ^ w := by
  have value : ∀ d < 16, digitIn 16 (hexDigit d) = some d := by decide
  induction w generalizing n with
  | zero => simp [hexDigits, ofDigits, Nat.mod_one]
  | succ w ih =>
    have hlast := value (n % 16) (Nat.mod_lt _ (by decide))
    rw [hexDigits, List.filterMap_append, ofDigits_append, ih]
    simp only [List.filterMap_cons_some hlast, List.filterMap_nil, List.foldl_cons, List.foldl_nil]
    rw [pow_succ', Nat.mod_mul]
    omega

lemma takeDigits_bounds {base : ℕ} {cs rest : List Char} {ds : List ℕ}
    (h : takeDigits base cs = some (ds, rest)) : ds.length ≤ cs.length ∧ ∀ d ∈ ds, d < base := by
  have digit : ∀ {c d}, digitIn base c = some d → d < base := by
    intro c d hd
    simp only [digitIn, Option.ite_none_right_eq_some, Option.some.injEq] at hd
    obtain ⟨hlt, rfl⟩ := hd
    exact hlt
  induction cs using takeDigits.induct base generalizing ds with
  | case1 =>
    cases h
    exact ⟨le_rfl, nofun⟩
  | case2 c cs d hd ih =>
    rw [takeDigits, hd] at h
    obtain ⟨⟨es, rest'⟩, hes, heq⟩ := Option.map_eq_some_iff.mp h
    cases heq
    obtain ⟨hlen, hall⟩ := ih hes
    exact ⟨by simp only [List.length_cons]; omega, List.forall_mem_cons.mpr ⟨digit hd, hall⟩⟩
  | case3 c cs hd =>
    rw [takeDigits, hd] at h
    cases h
  | case4 => cases h
  | case5 c cs _ _ d hd ih =>
    rw [takeDigits, hd] at h
    · obtain ⟨⟨es, rest'⟩, hes, heq⟩ := Option.map_eq_some_iff.mp h
      cases heq
      obtain ⟨hlen, hall⟩ := ih hes
      exact ⟨by simp only [List.length_cons]; omega, List.forall_mem_cons.mpr ⟨digit hd, hall⟩⟩
    all_goals assumption
  | case6 c cs _ _ hd =>
    rw [takeDigits, hd] at h
    · cases h
      exact ⟨by simp, nofun⟩
    all_goals assumption

lemma foldl_digits_lt {base : ℕ} {ds : List ℕ} (h : ∀ d ∈ ds, d < base) (acc : ℕ) :
    ds.foldl (fun n d => base * n + d) acc < (acc + 1) * base ^ ds.length := by
  induction ds generalizing acc with
  | nil => simp
  | cons d ds ih =>
    rw [List.forall_mem_cons] at h
    calc ds.foldl (fun n d => base * n + d) (base * acc + d)
        < (base * acc + d + 1) * base ^ ds.length := ih h.2 _
      _ ≤ (base * (acc + 1)) * base ^ ds.length := by
        refine Nat.mul_le_mul_right _ ?_
        have := h.1
        rw [mul_add]
        omega
      _ = (acc + 1) * base ^ (d :: ds).length := by
        rw [List.length_cons]
        ring

lemma length_dropMarker_le (base : ℕ) (cs : List Char) : (dropMarker base cs).length ≤ cs.length := by
  unfold dropMarker
  split
  · split <;> simp only [List.length_cons] <;> omega
  · split <;> simp only [List.length_cons] <;> omega
  · exact le_rfl

lemma length_splitSign_le (cs : List Char) : (splitSign cs).2.length ≤ cs.length := by
  unfold splitSign
  split <;> simp

open Text in
lemma length_trimNumeral_le (cs : List Char) : (trimNumeral cs).length ≤ cs.length := by
  rw [trimNumeral, List.length_reverse]
  refine (List.dropWhile_sublist _).length_le.trans ?_
  rw [List.length_reverse]
  exact (List.dropWhile_sublist _).length_le

lemma readInt_lt {base : ℕ} (hb : 0 < base) {s : String} {n : ℤ} (h : readInt base s = .ok n) :
    n < base ^ s.toList.length := by
  unfold readInt at h
  dsimp only at h
  split at h
  · cases h
  · split at h
    · cases h
    · rename_i ds rest hds
      obtain ⟨hlen, hall⟩ := takeDigits_bounds hds
      have hlt := foldl_digits_lt hall 0
      have hle : ds.length ≤ s.toList.length := by
        refine hlen.trans ((length_dropMarker_le _ _).trans ((length_splitSign_le _).trans ?_))
        refine (length_trimNumeral_le _).trans ?_
        rw [Text.toNumeral, List.length_map]
      have hpow : base ^ ds.length ≤ base ^ s.toList.length := Nat.pow_le_pow_right hb hle
      split at h
      · cases h
      · split at h
        · cases h
        · cases h
          have hdigits : (ofDigits base ds : ℤ) < base ^ s.toList.length := by
            rw [ofDigits]
            exact_mod_cast (by omega : ds.foldl (fun n d => base * n + d) 0 < base ^ s.toList.length)
          split <;> omega

end Numeral

namespace Uuid

open Text

theorem parse_valid {s : String} {u : Uuid} (h : parse s = .ok u) : u.Valid := by
  unfold parse at h
  dsimp only at h
  split at h
  · cases h
  · rename_i hlen
    split at h
    · rename_i n hn
      cases h
      have hlt := Numeral.readInt_lt (by decide) hn
      rw [String.toList_ofList, show (bare s).length = 32 by simpa using hlen] at hlt
      norm_num [Valid] at hlt ⊢
      omega
    · cases h

lemma dropStart?_none {h : Char} {hs cs : List Char} (hc : h ∉ cs) :
    dropStart? (h :: hs) cs = none := by
  cases cs with
  | nil => rfl
  | cons c cs =>
    simp only [List.mem_cons, not_or] at hc
    simp [dropStart?, hc.1]

lemma replace_absent {h : Char} {hs new cs : List Char} (hc : h ∉ cs) :
    replace (h :: hs) new cs = cs := by
  have from_fuel : ∀ fuel, replaceFrom (h :: hs) new fuel cs = cs := by
    intro fuel
    induction fuel generalizing cs with
    | zero => rfl
    | succ fuel ih =>
      cases cs with
      | nil => rfl
      | cons c cs =>
        rw [replaceFrom, dropStart?_none hc]
        simp only [List.mem_cons, not_or] at hc
        rw [ih hc.2]
  exact from_fuel _

lemma dropWhile_absent {p : Char → Bool} {cs : List Char} (h : ∀ c ∈ cs, p c = false) :
    cs.dropWhile p = cs := by
  cases cs with
  | nil => rfl
  | cons c cs => simp [h c List.mem_cons_self]

lemma trimNumeral_absent {cs : List Char} (h : ∀ c ∈ cs, isAsciiBlank c = false) :
    trimNumeral cs = cs := by
  rw [trimNumeral, dropWhile_absent h, dropWhile_absent (by simpa using h), List.reverse_reverse]

lemma toNumeral_ascii {cs : List Char} (h : Ascii cs) : toNumeral (String.ofList cs) = cs := by
  rw [toNumeral, String.toList_ofList]
  conv_rhs => rw [← List.map_id cs]
  refine List.map_congr_left fun c hc => ?_
  rw [if_pos (h c hc)]
  rfl

lemma dropMarker_absent {cs : List Char} (hx : 'x' ∉ cs) (hX : 'X' ∉ cs) (base : ℕ) :
    Numeral.dropMarker base cs = cs := by
  have marker : ∀ {a x : Char} {rest : List Char}, cs = a :: x :: rest → (x == 'x' || x == 'X') = false := by
    rintro a x rest rfl
    simp only [List.mem_cons, not_or] at hx hX
    simp [Ne.symm hx.2.1, Ne.symm hX.2.1]
  unfold Numeral.dropMarker
  split
  · rw [marker rfl, Bool.and_false]
    rfl
  · rw [marker rfl, Bool.and_false]
    rfl
  · rfl

/-- What a hexadecimal digit is and what it is not. -/
structure HexChar (c : Char) : Prop where
  minus : c ≠ '-'
  plus : c ≠ '+'
  underscore : c ≠ '_'
  lowerMarker : c ≠ 'x'
  upperMarker : c ≠ 'X'
  noPrefix : c ≠ 'u'
  noBrace : isBrace c = false
  noBlank : isAsciiBlank c = false
  ascii : c.toNat < 128
  digit : (Numeral.digitIn 16 c).isSome

lemma hexChar_hexDigit (d : ℕ) (hd : d < 16) : HexChar (hexDigit d) := by
  constructor <;> (revert d; decide)

lemma readInt_hexDigits {w : ℕ} (hw : 0 < w) (n : ℕ) :
    Numeral.readInt 16 (String.ofList (hexDigits w n)) = .ok ((n % 16 ^ w : ℕ) : ℤ) := by
  have marks := forall_hexDigits hexChar_hexDigit w n
  have hblank : trimNumeral (hexDigits w n) = hexDigits w n :=
    trimNumeral_absent fun c hc => (marks c hc).noBlank
  have hmarker : Numeral.dropMarker 16 (hexDigits w n) = hexDigits w n :=
    dropMarker_absent (fun h => (marks _ h).lowerMarker rfl) (fun h => (marks _ h).upperMarker rfl) 16
  have htake := @Numeral.takeDigits_all 16 (hexDigits w n)
    fun c hc => ⟨(marks c hc).underscore, (marks c hc).digit⟩
  have hvalue := Numeral.ofDigits_hexDigits w n
  have hlen := length_hexDigits w n
  unfold Numeral.readInt
  rw [toNumeral_ascii fun c hc => (marks c hc).ascii, hblank]
  match hcs : hexDigits w n with
  | [] =>
    rw [hcs] at hlen
    simp at hlen
    omega
  | c :: cs =>
    rw [hcs] at marks hmarker htake hvalue
    have hc := marks c List.mem_cons_self
    have hsign : Numeral.splitSign (c :: cs) = (false, c :: cs) := by
      simp [Numeral.splitSign, hc.minus, hc.plus]
    simp [hsign, hmarker, htake, hc.underscore, hvalue]
    intro hnone
    simpa [hnone] using hc.digit

lemma text_toList (u : Uuid) :
    u.text.toList = (hexDigits 32 u.bits).take 8 ++ '-' :: ((hexDigits 32 u.bits).drop 8).take 4 ++
      '-' :: ((hexDigits 32 u.bits).drop 12).take 4 ++
      '-' :: ((hexDigits 32 u.bits).drop 16).take 4 ++ '-' :: (hexDigits 32 u.bits).drop 20 := by
  simp [text, joinWith]

lemma bare_text (u : Uuid) : bare u.text = hexDigits 32 u.bits := by
  have marks := forall_hexDigits hexChar_hexDigit 32 u.bits
  set ds := hexDigits 32 u.bits with hds
  have mem : ∀ c ∈ u.text.toList, c = '-' ∨ c ∈ ds := by
    intro c hc
    rw [text_toList, ← hds] at hc
    simp only [List.mem_append, List.mem_cons] at hc
    obtain (((hc | hc | hc) | hc | hc) | hc | hc) | hc | hc := hc
    · exact .inr (List.mem_of_mem_take hc)
    · exact .inl hc
    · exact .inr (List.mem_of_mem_drop (List.mem_of_mem_take hc))
    · exact .inl hc
    · exact .inr (List.mem_of_mem_drop (List.mem_of_mem_take hc))
    · exact .inl hc
    · exact .inr (List.mem_of_mem_drop (List.mem_of_mem_take hc))
    · exact .inl hc
    · exact .inr (List.mem_of_mem_drop hc)
  have hu : 'u' ∉ u.text.toList := by
    intro h
    rcases mem _ h with h | h
    · exact absurd h (by decide)
    · exact (marks _ h).noPrefix rfl
  have hbrace : ∀ c ∈ u.text.toList, isBrace c = false := by
    intro c h
    rcases mem c h with rfl | h
    · rfl
    · exact (marks c h).noBrace
  have hurn : replace "urn:".toList [] u.text.toList = u.text.toList := replace_absent hu
  have huuid : replace "uuid:".toList [] u.text.toList = u.text.toList := replace_absent hu
  rw [bare, hurn, huuid, dropWhile_absent hbrace, dropWhile_absent (by simpa using hbrace),
    List.reverse_reverse, text_toList, ← hds]
  have keep : ∀ {cs : List Char}, (∀ c ∈ cs, c ∈ ds) → cs.filter (· != '-') = cs := by
    intro cs hcs
    rw [List.filter_eq_self]
    exact fun c hc => by simpa using (marks c (hcs c hc)).minus
  have drop₁ : ds.drop 12 = (ds.drop 8).drop 4 := by rw [List.drop_drop]
  have drop₂ : ds.drop 16 = (ds.drop 12).drop 4 := by rw [List.drop_drop]
  have drop₃ : ds.drop 20 = (ds.drop 16).drop 4 := by rw [List.drop_drop]
  simp only [List.filter_append, List.filter_cons, bne_self_eq_false, Bool.false_eq_true, if_false]
  rw [keep fun c hc => List.mem_of_mem_take hc,
    keep fun c hc => List.mem_of_mem_drop (List.mem_of_mem_take hc),
    keep fun c hc => List.mem_of_mem_drop (List.mem_of_mem_take hc),
    keep fun c hc => List.mem_of_mem_drop (List.mem_of_mem_take hc),
    keep fun c hc => List.mem_of_mem_drop hc, drop₃, List.append_assoc, List.take_append_drop, drop₂,
    List.append_assoc, List.take_append_drop, drop₁, List.append_assoc, List.take_append_drop,
    List.take_append_drop]

theorem parse_text {u : Uuid} (h : u.Valid) : parse u.text = .ok u := by
  have hmod : u.bits % 16 ^ 32 = u.bits := Nat.mod_eq_of_lt (by norm_num [Valid] at h ⊢; exact h)
  have hread := readInt_hexDigits (w := 32) (by decide) u.bits
  rw [hmod] at hread
  simp [parse, bare_text, length_hexDigits, hread]

end Uuid

end CallSnapshot
