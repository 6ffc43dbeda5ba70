import CallSnapshot.Proofs.Diff.Disagreement
import CallSnapshot.Proofs.Number.Difference
import CallSnapshot.Proofs.Number.Reading

/-!
What the exact comparison finds equal: fractions that denote the same, and integers that are the same. An
integer is compared to a fraction by the nearest fraction to it, so that two integers can be equal to one
fraction; nowhere else does the comparison fail to be an equivalence.
-/

namespace CallSnapshot.Diff

open Binary64 (ofInt?)
open Value (Distinct)

namespace Number

def Valid : Number → Prop
  | .int _ => True
  | .binary x => x.Valid

def magnitude? : Number → Option Magnitude
  | .int n => some (.exact n)
  | .binary x => x.magnitude?

end Number

/-- An integer that is no fraction, and the fraction that stands for it. -/
def Merged : Number → Number → Prop
  | .int n, .binary x | .binary x, .int n =>
    x.magnitude? ≠ some (.exact n) ∧ ∃ y, ofInt? n = some y ∧ y.magnitude? = x.magnitude?
  | _, _ => False

/-- A value of `None`, truth values, texts, integers and fractions, with texts for keys. -/
inductive Document : Value → Prop
  | null : Document .null
  | bool (b : Bool) : Document (.bool b)
  | str (s : String) : Document (.str s)
  | int (n : ℤ) : Document (.int n)
  | float {x : Binary64} (h : x.Valid) : Document (.float x)
  | list {xs : List Value} (h : ∀ x ∈ xs, Document x) : Document (.list xs)
  | tuple {xs : List Value} (h : ∀ x ∈ xs, Document x) : Document (.tuple xs)
  | dict {es : List (Value × Value)} (hk : ∀ e ∈ es, ∃ s, e.1 = .str s) (hd : Distinct (es.map Prod.fst))
      (hv : ∀ e ∈ es, Document e.2) : Document (.dict es)

/-- Two different integers at the same place. -/
inductive Parted : Value → Value → Prop
  | here {m n : ℤ} (h : m ≠ n) : Parted (.int m) (.int n)
  | inner {a b k v w : Value} (hv : Holds a k v) (hw : child? k b = some w) (h : Parted v w) : Parted a b

variable {m n k : Number} {a b c : Value}

section Numbers

lemma close_exact_iff {x y : Binary64} (hx : x.Valid) (hy : y.Valid) :
    close exact x y = true ↔ x.magnitude? = y.magnitude? := by
  cases x with
  | nan => cases y <;> simp [close, exact, Binary64.isNan, Binary64.magnitude?]
  | infinity s =>
    cases y <;> simp [close, Binary64.isNan, Binary64.isInfinite, Binary64.eq, Binary64.magnitude?]
  | finite s m e =>
    cases y with
    | nan => simp [close, Binary64.isNan, Binary64.magnitude?]
    | infinity t => simp [close, Binary64.isNan, Binary64.isInfinite, Binary64.eq, Binary64.magnitude?]
    | finite t l f =>
      have hbound : Binary64.zero.add (Binary64.zero.mul (Binary64.finite t l f).abs) = Binary64.zero := by
        simp [Binary64.zero, Binary64.mul, Binary64.abs, Binary64.add, Binary64.toRatio, Binary64.signed,
          Binary64.isNegative]
      simp only [close, Binary64.isNan, Binary64.isInfinite, Bool.or_self, Bool.false_eq_true, if_false, exact,
        hbound, Binary64.abs_le_zero]
      rw [Binary64.sub_isZero_iff hx hy rfl rfl, Binary64.magnitude?_finite rfl, Binary64.magnitude?_finite rfl]
      simp

/-- Where two numbers are not both integers, the fractions that stand for them are compared. -/
def Approximate (m n : Number) : Prop :=
  ∃ x y, m.toBinary = .ok x ∧ n.toBinary = .ok y ∧ x.magnitude? = y.magnitude?

lemma toBinary_eq_ok {i : ℤ} {x : Binary64} : (Number.int i).toBinary = .ok x ↔ ofInt? i = some x := by
  cases h : ofInt? i <;> simp [Number.toBinary, h]

lemma toBinary_binary (x : Binary64) : (Number.binary x).toBinary = .ok x := rfl

lemma toBinary_valid (hm : m.Valid) {x : Binary64} (h : m.toBinary = .ok x) : x.Valid := by
  cases m with
  | int i => exact Binary64.ofInt?_valid (toBinary_eq_ok.mp h)
  | binary y => cases h; exact hm

lemma numbersEqual_int {i j : ℤ} : numbersEqual exact (.int i) (.int j) = .ok true ↔ i = j := by
  simp [numbersEqual]

lemma numbersEqual_mixed (hm : m.Valid) (hn : n.Valid) (hne : ∀ i j, m = .int i → n ≠ .int j) :
    numbersEqual exact m n = .ok true ↔ Approximate m n := by
  have hfractions : numbersEqual exact m n = .ok true ↔
      ∃ x, m.toBinary = .ok x ∧ ∃ y, n.toBinary = .ok y ∧ close exact x y = true := by
    have hdef : numbersEqual exact m n = (do fractionsEqual exact (← m.toBinary) (← n.toBinary)) := by
      cases m with
      | int i => cases n with
        | int j => exact absurd rfl (hne i j rfl)
        | binary => rfl
      | binary => rfl
    rw [hdef, bind_eq_ok]
    simp only [bind_eq_ok, fractionsEqual, exact, Except.ok.injEq]
  rw [hfractions]
  constructor
  · rintro ⟨x, hx, y, hy, h⟩
    exact ⟨x, y, hx, hy, (close_exact_iff (toBinary_valid hm hx) (toBinary_valid hn hy)).mp h⟩
  · rintro ⟨x, y, hx, hy, h⟩
    exact ⟨x, hx, y, hy, (close_exact_iff (toBinary_valid hm hx) (toBinary_valid hn hy)).mpr h⟩

/-- Numbers are found equal where they denote the same, or where one stands for the other. -/
lemma numbersEqual_exact_iff (hm : m.Valid) (hn : n.Valid) :
    numbersEqual exact m n = .ok true ↔ m.magnitude? = n.magnitude? ∨ Merged m n := by
  have mixed : ∀ {i : ℤ} {x : Binary64}, x.Valid → ((∃ y, ofInt? i = some y ∧ y.magnitude? = x.magnitude?) ↔
      x.magnitude? = some (.exact i) ∨ Merged (.int i) (.binary x)) := by
    intro i x hx
    by_cases h : x.magnitude? = some (.exact i)
    · refine iff_of_true ?_ (.inl h)
      obtain ⟨y, hy, hyi⟩ := Binary64.ofInt?_of_magnitude hx h
      exact ⟨y, hy, hyi.trans h.symm⟩
    · simp [Merged, h]
  cases m with
  | int i =>
    cases n with
    | int j => simp [numbersEqual_int, Number.magnitude?, Merged]
    | binary y =>
      rw [numbersEqual_mixed hm hn (by simp), eq_comm (a := Number.magnitude? _)]
      refine Iff.trans ?_ (mixed hn)
      simp [Approximate, toBinary_eq_ok, toBinary_binary]
  | binary x =>
    rw [numbersEqual_mixed hm hn nofun]
    cases n with
    | int j =>
      refine Iff.trans ?_ (mixed hm)
      simp [Approximate, toBinary_eq_ok, toBinary_binary, eq_comm (a := x.magnitude?)]
    | binary y => simp [Approximate, Number.toBinary, Number.magnitude?, Merged]

lemma Merged.large (h : Merged m n) : ∃ i : ℤ, (m = .int i ∨ n = .int i) ∧ 2 ^ 53 < i.natAbs := by
  have large : ∀ {i : ℤ} {x : Binary64}, Merged (.int i) (.binary x) → 2 ^ 53 < i.natAbs := by
    rintro i x ⟨hne, y, hy, hyx⟩
    by_contra hsmall
    obtain ⟨z, hz, hzi⟩ := Binary64.ofInt?_small (not_lt.mp hsmall)
    obtain rfl := Option.some.inj (hy.symm.trans hz)
    exact hne (hyx.symm.trans hzi)
  cases m with
  | int i =>
    cases n with
    | int => exact h.elim
    | binary => exact ⟨i, .inl rfl, large h⟩
  | binary =>
    cases n with
    | int j => exact ⟨j, .inr rfl, large h⟩
    | binary => exact h.elim

lemma numbersEqual_symm (hm : m.Valid) (hn : n.Valid) (h : numbersEqual exact m n = .ok true) :
    numbersEqual exact n m = .ok true := by
  rw [numbersEqual_exact_iff hm hn] at h
  rw [numbersEqual_exact_iff hn hm]
  refine h.imp Eq.symm fun h => ?_
  cases m <;> cases n <;> exact h

lemma numbersEqual_trans (hm : m.Valid) (hn : n.Valid) (hk : k.Valid) (h : numbersEqual exact m n = .ok true)
    (h' : numbersEqual exact n k = .ok true) (hne : ∀ i j, m = .int i → k = .int j → i = j) :
    numbersEqual exact m k = .ok true := by
  by_cases hmk : ∃ i j, m = .int i ∧ k = .int j
  · obtain ⟨i, j, rfl, rfl⟩ := hmk
    exact numbersEqual_int.mpr (hne i j rfl rfl)
  by_cases hmn : ∃ i j, m = .int i ∧ n = .int j
  · obtain ⟨i, j, rfl, rfl⟩ := hmn
    obtain rfl := numbersEqual_int.mp h
    exact h'
  by_cases hnk : ∃ i j, n = .int i ∧ k = .int j
  · obtain ⟨i, j, rfl, rfl⟩ := hnk
    obtain rfl := numbersEqual_int.mp h'
    exact h
  · rw [numbersEqual_mixed hm hn (fun i j hi hj => hmn ⟨i, j, hi, hj⟩)] at h
    rw [numbersEqual_mixed hn hk (fun i j hi hj => hnk ⟨i, j, hi, hj⟩)] at h'
    rw [numbersEqual_mixed hm hk (fun i j hi hj => hmk ⟨i, j, hi, hj⟩)]
    obtain ⟨x, y, hx, hy, hxy⟩ := h
    obtain ⟨y', z, hy', hz, hyz⟩ := h'
    obtain rfl := Except.ok.inj (hy.symm.trans hy')
    exact ⟨x, z, hx, hz, hxy.trans hyz⟩

end Numbers

lemma valuesEqual_numbers {t : Tolerance} (hm : number? a = some m) (hn : number? b = some n) :
    valuesEqual t a b = numbersEqual t m n := by
  rw [valuesEqual, hm, hn, isBool_of_number? hm, isBool_of_number? hn, Bool.or_self, if_neg Bool.false_ne_true]

section Documents

namespace Document

lemma keyed (h : Document a) : Keyed a := by
  induction h with
  | list _ ih => exact .list ih
  | tuple _ ih => exact .tuple ih
  | dict hk hd _ ih =>
    refine .dict (fun e he => ?_) hd ih
    obtain ⟨s, hs⟩ := hk e he
    exact .of_element (hs ▸ .atom (.str s) trivial)
  | _ => exact .leaf rfl

lemma child {key v : Value} (h : Document a) (hv : Holds a key v) : Document v := by
  cases hv with
  | list hx => cases h with
    | list h => exact h v (List.mem_of_getElem? hx)
  | tuple hx => cases h with
    | tuple h => exact h v (List.mem_of_getElem? hx)
  | dict he => cases h with
    | dict _ _ h => exact h _ he

lemma holds_of_child? {key v w : Value} (ha : Document a) (hb : Document b) (hv : Holds a key v)
    (hw : child? key b = some w) : Holds b key w := by
  have spelled : (∃ i : ℤ, key = .int i) ∨ ∃ s, key = .str s := by
    cases hv with
    | list => exact .inl ⟨_, rfl⟩
    | tuple => exact .inl ⟨_, rfl⟩
    | dict he => cases ha with
      | dict hk => exact .inr (hk _ he)
  cases hb with
  | list => exact Sequence.list.holds_of_child? hw
  | tuple => exact Sequence.tuple.holds_of_child? hw
  | dict hk =>
    obtain ⟨e, he, heq, rfl⟩ := lookup?_mem hw
    obtain ⟨s, hs⟩ := hk e he
    rw [hs] at heq
    obtain rfl : key = .str s := by
      rcases spelled with ⟨i, rfl⟩ | ⟨s', rfl⟩
      · simp [Value.eq, Value.textOf?] at heq
      · rw [show s' = s by simpa [Value.eq, Value.textOf?] using heq]
    exact .dict (hs ▸ he)
  | _ => cases hw

lemma number_valid (h : Document a) (hm : number? a = some m) : m.Valid := by
  cases h with
  | int => cases hm; trivial
  | float hx => cases hm; exact hx
  | _ => cases hm

lemma eq_int {i : ℤ} (h : Document a) (hm : number? a = some (.int i)) : a = .int i := by
  cases h with
  | int => cases hm; rfl
  | _ => cases hm

lemma leaf_iff (ha : Document a) (hb : Document b) (hac : container? a = none) (hbc : container? b = none) :
    valuesEqual exact a b = .ok true ↔
      (∃ m n, number? a = some m ∧ number? b = some n ∧ numbersEqual exact m n = .ok true) ∨
        (number? a = none ∧ a = b) := by
  by_cases hnumbers : ∃ m n, number? a = some m ∧ number? b = some n
  · obtain ⟨m, n, hm, hn⟩ := hnumbers
    simp [valuesEqual_numbers hm hn, hm, hn]
  · cases ha with
    | bool x =>
      cases hb with
      | bool y => cases x <;> cases y <;> simp [valuesEqual, isBool, number?, Value.eq, Value.quantityEq,
          Value.complexParts?, Value.quantity?, Quantity.eq]
      | _ => simp [valuesEqual, isBool, number?]
    | str x =>
      cases hb with
      | str y =>
        simp only [valuesEqual, isBool, number?, container?, Value.eq, Value.textOf?]
        simpa using eq_comm
      | _ => simp_all [valuesEqual, isBool, number?, container?, Value.eq, Value.textOf?]
    | _ =>
      cases hb <;> simp_all [valuesEqual, isBool, number?, container?, Value.eq, Value.base, Value.quantityEq,
        Value.complexParts?, Value.quantity?]

end Document

lemma Matches.refl (h : Document a) : Matches exact a a := by
  refine matches_self (fun h hv => h.child hv) (fun {v} hv hc => (hv.leaf_iff hv hc hc).mpr ?_) h.keyed h
  cases hn : number? v with
  | none => exact .inr ⟨rfl, rfl⟩
  | some m =>
    have hm := hv.number_valid hn
    exact .inl ⟨m, m, rfl, rfl, (numbersEqual_exact_iff hm hm).mpr (.inl rfl)⟩

lemma Matches.symm (ha : Document a) (hb : Document b) (h : Matches exact a b) : Matches exact b a := by
  induction h with
  | leaf hac hbc h =>
    refine .leaf hbc hac ((hb.leaf_iff ha hbc hac).mpr ?_)
    rcases (ha.leaf_iff hb hac hbc).mp h with ⟨m, n, hm, hn, hmn⟩ | ⟨hn, rfl⟩
    · exact .inl ⟨n, m, hn, hm, numbersEqual_symm (ha.number_valid hm) (hb.number_valid hn) hmn⟩
    · exact .inr ⟨hn, rfl⟩
  | container hac hbc hv hw _ ih =>
    refine .container hbc hac hw hv fun k w v hwk hvk => ?_
    have held := hb.holds_of_child? ha hwk hvk
    exact ih k v w held (hb.keyed.child?_of_holds hwk) (ha.child held) (hb.child hwk)

lemma Matches.trans (ha : Document a) (hb : Document b) (hc : Document c) (h : Matches exact a b)
    (h' : Matches exact b c) (hne : ¬ Parted a c) : Matches exact a c := by
  induction h generalizing c with
  | @leaf a b hac hbc h =>
    cases h' with
    | container hbc' => cases hbc.symm.trans hbc'
    | leaf _ hcc h' =>
      refine .leaf hac hcc ((ha.leaf_iff hc hac hcc).mpr ?_)
      rcases (ha.leaf_iff hb hac hbc).mp h with ⟨m, n, hm, hn, hmn⟩ | ⟨hn, rfl⟩
      · rcases (hb.leaf_iff hc hbc hcc).mp h' with ⟨n', k, hn', hk, hnk⟩ | ⟨hnone, -⟩
        · obtain rfl := Option.some.inj (hn.symm.trans hn')
          refine .inl ⟨m, k, hm, hk, numbersEqual_trans (ha.number_valid hm) (hb.number_valid hn)
            (hc.number_valid hk) hmn hnk ?_⟩
          rintro i j rfl rfl
          obtain rfl := ha.eq_int hm
          obtain rfl := hc.eq_int hk
          by_contra hij
          exact hne (.here hij)
        · cases hnone.symm.trans hn
      · exact (ha.leaf_iff hc hac hcc).mp h'
  | @container a b kind hac hbc hv hw hin ih =>
    cases h' with
    | leaf hbc' => cases hbc'.symm.trans hbc
    | container hbc' hcc hv' hw' hin' =>
      obtain rfl := Option.some.inj (hbc.symm.trans hbc')
      have through : ∀ k v, Holds a k v → ∃ w, child? k b = some w ∧ Holds b k w := by
        intro k v hk
        obtain ⟨w, hw⟩ := Option.isSome_iff_exists.mp (hv k v hk)
        exact ⟨w, hw, ha.holds_of_child? hb hk hw⟩
      refine .container hac hcc (fun k v hk => ?_) (fun k u hk => ?_) fun k v u hk hu => ?_
      · obtain ⟨w, -, hwk⟩ := through k v hk
        exact hv' k w hwk
      · obtain ⟨w, hwk⟩ := Option.isSome_iff_exists.mp (hw' k u hk)
        exact hw k w (hc.holds_of_child? hb hk hwk)
      · obtain ⟨w, hw, hwk⟩ := through k v hk
        exact ih k v w hk hw (ha.child hk) (hb.child hwk) (hc.child (ha.holds_of_child? hc hk hu))
          (hin' k w u hwk hu) fun hp => hne (.inner hk hu hp)

lemma Matches.not_parted (h : Matches exact a b) : ¬ Parted a b := by
  intro hp
  induction hp with
  | here hne =>
    cases h with
    | leaf _ _ h => exact hne (numbersEqual_int.mp h)
    | container ha => cases ha
  | inner hv hw _ ih =>
    cases h with
    | leaf ha => cases hv <;> cases ha
    | container _ _ _ _ hin => exact ih (hin _ _ _ hv hw)

end Documents

/-- Two numbers can be compared but where an integer is beyond all fractions, and are found equal where they
denote the same or one of them, of more than 53 digits, is merged with the other; documents are equal to
themselves, and what equals the same document is equal but for different integers merged with one fraction. -/
theorem exact_comparison (ha : Document a) (hb : Document b) (hc : Document c) :
    (∀ m n, number? a = some m → number? b = some n →
      ((∃ same, valuesEqual exact a b = .ok same) ↔ ¬ NumberClash exact m n) ∧
      (valuesEqual exact a b = .ok true ↔ m.magnitude? = n.magnitude? ∨ Merged m n) ∧
      (Merged m n → ∃ i : ℤ, (m = .int i ∨ n = .int i) ∧ 2 ^ 53 < i.natAbs)) ∧
    changes exact a a = .ok [] ∧ (changes exact a b = .ok [] → changes exact b a = .ok []) ∧
      (changes exact a b = .ok [] → changes exact b c = .ok [] → (changes exact a c = .ok [] ↔ ¬ Parted a c)) := by
  refine ⟨fun m n hm hn => ⟨?_, ?_, Merged.large⟩, ?_, fun h => ?_, fun h h' => ?_⟩
  · rw [valuesEqual_numbers hm hn]
    exact numbersEqual_ok_iff
  · rw [valuesEqual_numbers hm hn]
    exact numbersEqual_exact_iff (ha.number_valid hm) (hb.number_valid hn)
  · exact (changes_eq_nil_iff ha.keyed ha.keyed).mpr (.refl ha)
  · rw [changes_eq_nil_iff ha.keyed hb.keyed] at h
    exact (changes_eq_nil_iff hb.keyed ha.keyed).mpr (h.symm ha hb)
  · rw [changes_eq_nil_iff ha.keyed hb.keyed] at h
    rw [changes_eq_nil_iff hb.keyed hc.keyed] at h'
    rw [changes_eq_nil_iff ha.keyed hc.keyed]
    exact ⟨Matches.not_parted, h.trans ha hb hc h'⟩

/-- Two integers that no fraction lies between: both equal one, and not each other. -/
theorem exact_comparison_merged :
    changes exact (.int 9007199254740992) (.float (.finite false 1 53)) = .ok [] ∧
      changes exact (.float (.finite false 1 53)) (.int 9007199254740993) = .ok [] ∧
      changes exact (.int 9007199254740992) (.int 9007199254740993) ≠ .ok [] := by
  have below : Document (.int 9007199254740992) := .int _
  have fraction : Document (.float (.finite false 1 53)) := .float (.inr (by decide))
  have above : Document (.int 9007199254740993) := .int _
  have same : (Number.int 9007199254740992).magnitude? = (Number.binary (.finite false 1 53)).magnitude? := by
    norm_num [Number.magnitude?, Binary64.magnitude?, signedRat]
  have merged : Merged (.binary (.finite false 1 53)) (.int 9007199254740993) := by
    refine ⟨by norm_num [Binary64.magnitude?, signedRat], .finite false 1 53, ?_, rfl⟩
    decide +kernel
  have first := ((exact_comparison below fraction above).1 _ _ rfl rfl).2.1.mpr (.inl same)
  have second := ((exact_comparison fraction above below).1 _ _ rfl rfl).2.1.mpr (.inr merged)
  have first := (changes_eq_nil_iff below.keyed fraction.keyed).mpr (.leaf rfl rfl first)
  have second := (changes_eq_nil_iff fraction.keyed above.keyed).mpr (.leaf rfl rfl second)
  refine ⟨first, second, fun h => ?_⟩
  exact ((exact_comparison below fraction above).2.2.2 first second).mp h (.here (by decide))

end CallSnapshot.Diff
