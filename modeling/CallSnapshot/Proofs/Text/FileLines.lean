import CallSnapshot.Proofs.Text.Decoding
import CallSnapshot.Proofs.Text.Lines

/-!
The lines of a text file, in its bytes and in its characters alike. A line feed ends a line, and so
does a carriage return, or both of them in the order return, feed.
-/

namespace CallSnapshot.Text

section Lines

variable {α : Type} [DecidableEq α]

/-- The lines, each with what ends it. -/
def linesAt (feed ret : α) : List α → List (List α)
  | [] => []
  | c :: cs =>
    if c = feed ∨ c = ret ∧ cs.head? ≠ some feed then [c] :: linesAt feed ret cs
    else match linesAt feed ret cs with
      | [] => [[c]]
      | l :: ls => (c :: l) :: ls

def Whole (feed ret : α) (l : List α) : Prop := ∀ c ∈ l, c ≠ feed ∧ c ≠ ret

def Ended (feed ret : α) (l : List α) : Prop := ∀ c ∈ l.getLast?, c = feed ∨ c = ret

variable {feed ret c : α} {xs ys l : List α}

lemma induction_at (feed ret : α) {P : List α → Prop} (nil : P [])
    (last : ∀ c cs, c = feed ∨ c = ret ∧ cs.head? ≠ some feed → P cs → P (c :: cs))
    (both : ∀ cs, P cs → P (ret :: feed :: cs))
    (mid : ∀ c cs, c ≠ feed → c ≠ ret → P cs → P (c :: cs)) (xs : List α) : P xs := by
  suffices h : ∀ n, ∀ xs : List α, xs.length = n → P xs from h _ xs rfl
  intro n
  induction n using Nat.strong_induction_on with
  | _ n ih =>
    rintro xs rfl
    cases xs with
    | nil => exact nil
    | cons c cs =>
      have hcs : P cs := ih _ (Nat.lt_succ_self _) cs rfl
      by_cases hfeed : c = feed
      · exact last c cs (.inl hfeed) hcs
      · by_cases hret : c = ret
        · by_cases hnext : cs.head? = some feed
          · obtain ⟨ds, rfl⟩ : ∃ ds, cs = feed :: ds := by
              obtain ⟨d, ds, rfl⟩ := List.exists_cons_of_ne_nil (l := cs) (by rintro rfl; cases hnext)
              exact ⟨ds, by rw [Option.some.inj hnext]⟩
            rw [hret]
            exact both ds (ih ds.length (by simp) ds rfl)
          · exact last c cs (.inr ⟨hret, hnext⟩) hcs
        · exact mid c cs hfeed hret hcs

lemma linesAt_last (hc : c = feed ∨ c = ret ∧ xs.head? ≠ some feed) :
    linesAt feed ret (c :: xs) = [c] :: linesAt feed ret xs := by
  rw [linesAt, if_pos hc]

lemma linesAt_both (h : ret ≠ feed) (xs : List α) :
    linesAt feed ret (ret :: feed :: xs) = [ret, feed] :: linesAt feed ret xs := by
  rw [linesAt, linesAt_last (.inl rfl), if_neg]
  rintro (h' | ⟨-, h'⟩)
  · exact h h'
  · exact h' rfl

lemma linesAt_whole_append (hl : Whole feed ret l) (hne : l ≠ []) (xs : List α) :
    linesAt feed ret (l ++ xs) = match linesAt feed ret xs with
      | [] => [l]
      | m :: ms => (l ++ m) :: ms := by
  induction l with
  | nil => exact absurd rfl hne
  | cons c cs ih =>
    obtain ⟨hc, hcs⟩ := List.forall_mem_cons.mp hl
    have hmid : ¬(c = feed ∨ c = ret ∧ (cs ++ xs).head? ≠ some feed) := by
      rintro (h | ⟨h, -⟩)
      · exact hc.1 h
      · exact hc.2 h
    rw [List.cons_append, linesAt, if_neg hmid]
    by_cases hnil : cs = []
    · rw [hnil, List.nil_append]
      cases linesAt feed ret xs <;> rfl
    · rw [ih hcs hnil]
      cases linesAt feed ret xs <;> rfl

omit [DecidableEq α] in
lemma whole_singleton (hfeed : c ≠ feed) (hret : c ≠ ret) : Whole feed ret [c] := by
  intro d hd
  rw [List.mem_singleton.mp hd]
  exact ⟨hfeed, hret⟩

lemma linesAt_mid (hfeed : c ≠ feed) (hret : c ≠ ret) (xs : List α) :
    linesAt feed ret (c :: xs) = match linesAt feed ret xs with
      | [] => [[c]]
      | m :: ms => (c :: m) :: ms :=
  linesAt_whole_append (whole_singleton hfeed hret) (List.cons_ne_nil c []) xs

lemma flatten_linesAt (feed ret : α) (xs : List α) : (linesAt feed ret xs).flatten = xs := by
  induction xs with
  | nil => rfl
  | cons c cs ih =>
    rw [linesAt]
    split
    · rw [List.flatten_cons, ih, List.singleton_append]
    · cases hls : linesAt feed ret cs <;> rw [hls] at ih <;> simp [← ih]

lemma linesAt_ne_nil (h : xs ≠ []) : linesAt feed ret xs ≠ [] := by
  intro hnil
  have hflat := flatten_linesAt feed ret xs
  rw [hnil] at hflat
  exact h hflat.symm

lemma linesAt_append (hx : Ended feed ret xs) (hy : ys.head? ≠ some feed) :
    linesAt feed ret (xs ++ ys) = linesAt feed ret xs ++ linesAt feed ret ys := by
  induction xs with
  | nil => rfl
  | cons c cs ih =>
    by_cases hnil : cs = []
    · have hc : c = feed ∨ c = ret := hx c (by rw [hnil]; rfl)
      rw [hnil, List.singleton_append, linesAt_last (hc.imp_right fun h => ⟨h, hy⟩),
        linesAt_last (hc.imp_right fun h => ⟨h, by simp⟩)]
      rfl
    · have hcs : Ended feed ret cs := by
        intro d hd
        refine hx d ?_
        rwa [List.getLast?_cons_of_ne_nil hnil]
      rw [List.cons_append, linesAt, linesAt, List.head?_append_of_ne_nil cs hnil, ih hcs]
      split
      · rfl
      · obtain ⟨l, ls, hls⟩ := List.exists_cons_of_ne_nil (linesAt_ne_nil hnil : linesAt feed ret cs ≠ [])
        rw [hls]
        rfl

lemma mem_linesAt (hne : ret ≠ feed) (h : l ∈ linesAt feed ret xs) : ∃ body tail, l = body ++ tail ∧
    Whole feed ret body ∧ tail ∈ [[], [feed], [ret], [ret, feed]] := by
  induction xs using induction_at feed ret generalizing l with
  | nil => cases h
  | last c cs hc ih =>
    rw [linesAt_last hc] at h
    rcases List.mem_cons.mp h with rfl | h
    · refine ⟨[], [c], rfl, nofun, ?_⟩
      rcases hc with rfl | ⟨rfl, -⟩ <;> simp
    · exact ih h
  | both cs ih =>
    rw [linesAt_both hne] at h
    rcases List.mem_cons.mp h with rfl | h
    · exact ⟨[], [ret, feed], rfl, nofun, by simp⟩
    · exact ih h
  | mid c cs hfeed hret ih =>
    have hwhole := whole_singleton hfeed hret
    rw [linesAt_mid hfeed hret] at h
    cases hls : linesAt feed ret cs with
    | nil =>
      rw [hls] at h
      obtain rfl := List.mem_singleton.mp h
      exact ⟨[c], [], rfl, hwhole, by simp⟩
    | cons m ms =>
      rw [hls] at h
      rcases List.mem_cons.mp h with rfl | h
      · obtain ⟨body, tail, rfl, hbody, htail⟩ := ih (hls ▸ List.mem_cons_self)
        exact ⟨c :: body, tail, rfl, List.forall_mem_cons.mpr ⟨⟨hfeed, hret⟩, hbody⟩, htail⟩
      · exact ih (hls ▸ List.mem_cons_of_mem m h)

end Lines

def byteLines (content : List UInt8) : List (List UInt8) := linesAt 10 13 content

def textLines (cs : List Char) : List (List Char) := linesAt '\n' '\r' cs

lemma utf8EncodeChar_high {c : Char} (hc : 128 ≤ c.toNat) {b : UInt8} (hb : b ∈ String.utf8EncodeChar c) :
    128 ≤ b.toNat := by
  have hval : c.val.toNat = c.toNat := rfl
  unfold String.utf8EncodeChar at hb
  simp only [hval] at hb
  split_ifs at hb <;> simp only [List.mem_cons, List.not_mem_nil, or_false] at hb
  · omega
  · rcases hb with rfl | rfl <;> rw [toNat_byte (by omega)] <;> omega
  · rcases hb with rfl | rfl | rfl <;> rw [toNat_byte (by omega)] <;> omega
  · rcases hb with rfl | rfl | rfl | rfl <;> rw [toNat_byte (by omega)] <;> omega

lemma utf8EncodeChar_low {c : Char} (hc : c.toNat < 128) : String.utf8EncodeChar c = [UInt8.ofNat c.toNat] := by
  have hval : c.val.toNat = c.toNat := rfl
  rw [String.utf8EncodeChar, hval, if_pos (by omega)]

lemma whole_utf8EncodeChar {c : Char} (hfeed : c ≠ '\n') (hret : c ≠ '\r') :
    Whole (10 : UInt8) 13 (String.utf8EncodeChar c) := by
  intro b hb
  rcases lt_or_ge c.toNat 128 with hlow | hhigh
  · rw [utf8EncodeChar_low hlow, List.mem_singleton] at hb
    have hnat : b.toNat = c.toNat := by rw [hb, toNat_byte (by omega)]
    have hchar : c = Char.ofNat b.toNat := by rw [hnat, Char.ofNat_toNat]
    exact ⟨fun h => hfeed (by rw [hchar, h]; rfl), fun h => hret (by rw [hchar, h]; rfl)⟩
  · have hbyte := utf8EncodeChar_high hhigh hb
    refine ⟨?_, ?_⟩
    all_goals
      rintro rfl
      exact absurd hbyte (by decide)

lemma utf8EncodeChar_eq_cons (c : Char) : ∃ b bs, String.utf8EncodeChar c = b :: bs :=
  List.exists_cons_of_length_pos (length_utf8EncodeChar_pos c)

lemma head?_bytesOf (cs : List Char) : (bytesOf cs).head? = some 10 ↔ cs.head? = some '\n' := by
  cases cs with
  | nil => exact ⟨nofun, nofun⟩
  | cons c cs =>
    by_cases hfeed : c = '\n'
    · rw [hfeed]
      exact iff_of_true rfl rfl
    · refine iff_of_false (fun h => ?_) fun h => hfeed (Option.some.inj h)
      obtain ⟨b, bs, he⟩ := utf8EncodeChar_eq_cons c
      rw [bytesOf_cons, he] at h
      obtain rfl : b = 10 := Option.some.inj h
      by_cases hret : c = '\r'
      · rw [hret] at he
        cases he
      · exact (whole_utf8EncodeChar hfeed hret 10 (by rw [he]; exact List.mem_cons_self)).1 rfl

lemma byteLines_bytesOf (cs : List Char) : byteLines (bytesOf cs) = (textLines cs).map bytesOf := by
  unfold byteLines textLines
  induction cs using induction_at '\n' '\r' with
  | nil => rfl
  | last c cs hc ih =>
    rw [linesAt_last hc, List.map_cons, ← ih]
    rcases hc with rfl | ⟨rfl, hnext⟩
    · exact linesAt_last (.inl rfl)
    · exact linesAt_last (.inr ⟨rfl, mt (head?_bytesOf cs).mp hnext⟩)
  | both cs ih =>
    rw [linesAt_both (by decide), List.map_cons, ← ih]
    exact linesAt_both (by decide) (bytesOf cs)
  | mid c cs hfeed hret ih =>
    obtain ⟨b, bs, he⟩ := utf8EncodeChar_eq_cons c
    rw [bytesOf_cons, linesAt_whole_append (whole_utf8EncodeChar hfeed hret) (by rw [he]; nofun), ih,
      linesAt_mid hfeed hret]
    cases linesAt '\n' '\r' cs with
    | nil => simp [bytesOf]
    | cons l ls => rfl

lemma unifyLineEnds_return {cs : List Char} (hc : cs.head? ≠ some '\n') :
    unifyLineEnds ('\r' :: cs) = '\n' :: unifyLineEnds cs := by
  rw [unifyLineEnds]
  rintro ds rfl
  exact hc rfl

/-- Where the forms of line ends are made one, the lines stay as they are but for their ends. -/
lemma splitLines_unifyLineEnds (cs : List Char) :
    splitLines (unifyLineEnds cs) = (textLines cs).map unifyLineEnds := by
  unfold textLines
  induction cs using induction_at '\n' '\r' with
  | nil => rfl
  | last c cs hc ih =>
    rw [linesAt_last hc, List.map_cons, ← ih]
    rcases hc with rfl | ⟨rfl, hnext⟩
    · rw [unifyLineEnds_cons (by decide)]
      rfl
    · rw [unifyLineEnds_return hnext]
      rfl
  | both cs ih =>
    rw [linesAt_both (by decide), List.map_cons, ← ih]
    rfl
  | mid c cs hfeed hret ih =>
    rw [unifyLineEnds_cons hret, linesAt_mid hfeed hret, splitLines, if_neg (by simpa using hfeed), ih]
    cases linesAt '\n' '\r' cs with
    | nil => simp [unifyLineEnds_cons hret, unifyLineEnds]
    | cons l ls => simp [unifyLineEnds_cons hret]

lemma trimChars_unifyLineEnds {cs l : List Char} (h : l ∈ textLines cs) :
    trimChars (unifyLineEnds l) = trimChars l := by
  obtain ⟨body, tail, rfl, hbody, htail⟩ := mem_linesAt (by decide) h
  have hret : '\r' ∉ body := fun hm => (hbody _ hm).2 rfl
  have hblank : ∀ t ∈ [[], ['\n'], ['\r'], ['\r', '\n']],
      (∀ c ∈ t, isBlank c) ∧ ∀ c ∈ unifyLineEnds t, isBlank c := by
    simp [unifyLineEnds, isBlank]
  obtain ⟨h₁, h₂⟩ := hblank tail htail
  rw [unifyLineEnds_append hret, trimChars_append_blank h₁, trimChars_append_blank h₂]

end CallSnapshot.Text
