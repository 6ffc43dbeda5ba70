import CallSnapshot.Proofs.Json.RoundTrip

/-!
The lines of a text are those of its layout: no data bring a line end with them. So compact text is one line,
and that of an object has no blanks around it.
-/

namespace CallSnapshot

open Numeral Text

lemma Numeral.Written.unbroken {cs : List Char} (h : Written cs) : Unbroken cs := by
  intro c hc
  have hblank := (h.char hc).2.1
  constructor <;> (rintro rfl; cases hblank)

namespace Binary64

lemma written_exponentText (e : ℤ) : Written (exponentText e) := by
  intro c hc
  rcases List.mem_cons.mp hc with rfl | hc
  · exact .inr (by simp)
  rcases List.mem_cons.mp hc with rfl | hc
  · split <;> exact .inr (by simp)
  · exact .inl (Iso.digits_digits 2 e.natAbs c hc)

lemma written_laid {whole part : List Char} (hw : Leading whole) (hp : Digits part) (exponent : Option ℤ) :
    Written (laid whole part exponent) := by
  refine .append (.digits hw.digits) (.append ?_ ?_)
  · cases part with
    | nil => simp [Decimal.fraction, Written]
    | cons c part => exact Decimal.written_point (.digits hp)
  · cases exponent with
    | none => simp [Written]
    | some e => exact written_exponentText e

end Binary64

namespace Json

lemma written_signed {cs : List Char} (negative : Bool) (h : Written cs) : Written (signed negative cs) := by
  cases negative with
  | true =>
    have hminus : Written ['-'] := fun c hc => .inr (by simp_all)
    exact hminus.append h
  | false => exact h

/-- No return stands in the characters, and no line end where the layout has no lines. -/
def Layout.Lined (l : Layout) (cs : List Char) : Prop := ∀ c ∈ cs, c ≠ '\r' ∧ (c = '\n' → l.indent ≠ none)

section Lined

variable {l : Layout} {depth : ℕ} {cs ds : List Char}

lemma Layout.lined_of_unbroken (h : Unbroken cs) : l.Lined cs := fun c hc =>
  ⟨(h c hc).2, fun hline => absurd hline (h c hc).1⟩

lemma Layout.Lined.append (hc : l.Lined cs) (hd : l.Lined ds) : l.Lined (cs ++ ds) := fun c h =>
  (List.mem_append.mp h).elim (hc c) (hd c)

lemma lined_spaced {c : Char} (hc : c ≠ '\n' ∧ c ≠ '\r') (k : ℕ) : l.Lined (c :: List.replicate k ' ') := by
  refine Layout.lined_of_unbroken (.cons hc fun d hd => ?_)
  rw [List.eq_of_mem_replicate hd]
  decide

lemma lined_line : l.Lined (l.line depth) := by
  unfold Layout.line
  intro c hc
  cases hi : l.indent with
  | none =>
    rw [hi] at hc
    cases hc
  | some k =>
    rw [hi] at hc
    refine ⟨?_, fun _ => Option.some_ne_none k⟩
    rcases List.mem_cons.mp hc with rfl | hc
    · decide
    · rw [List.eq_of_mem_replicate hc]
      decide

lemma lined_trail (hl : l.Legible) {ps : List (List Char)} (h : ∀ p ∈ ps, l.Lined p) {closing : Char}
    (hc : closing ≠ '\n' ∧ closing ≠ '\r') : l.Lined (l.trail depth ps closing []) := by
  obtain ⟨k, hcomma⟩ := hl.comma
  refine .append (fun c hm => ?_) (lined_line.append (lined_spaced hc 0))
  obtain ⟨p, hp, hm⟩ := List.mem_flatMap.mp hm
  rw [hcomma] at hm
  exact ((lined_spaced (by decide) k).append lined_line).append (h p hp) c hm

lemma lined_enclose (hl : l.Legible) {opening closing : Char} {parts : List (List Char)}
    (ho : opening ≠ '\n' ∧ opening ≠ '\r') (hc : closing ≠ '\n' ∧ closing ≠ '\r')
    (h : ∀ p ∈ parts, l.Lined p) : l.Lined (l.enclose depth opening closing parts) := by
  have hopening : l.Lined [opening] := lined_spaced ho 0
  cases parts with
  | nil => exact hopening.append (lined_spaced hc 0)
  | cons p ps =>
    have heq := l.enclose_cons depth opening closing p ps []
    rw [List.append_nil] at heq
    rw [heq]
    exact hopening.append (lined_line.append ((h p List.mem_cons_self).append
      (lined_trail hl (fun q hq => h q (List.mem_cons_of_mem p hq)) hc)))

lemma lined_memberText (hl : l.Legible) (k : String) (h : l.Lined cs) : l.Lined (l.memberText (k, cs)) := by
  obtain ⟨n, hcolon⟩ := hl.colon
  refine .append (.append (Layout.lined_of_unbroken (unbroken_stringChars _ k)) ?_) h
  rw [hcolon]
  exact lined_spaced (by decide) n

end Lined

section Texts

variable {l : Layout}

mutual

lemma lined_chars (hl : l.Legible) {depth : ℕ} {cs : List Char} : (data : Json) → data.Faithful →
    l.chars depth data = .ok cs → l.Lined cs
  | .null, _, h => by
    cases h
    exact Layout.lined_of_unbroken (by simp [Unbroken])
  | .bool b, _, h => by
    cases h
    exact Layout.lined_of_unbroken (by cases b <;> simp [Unbroken])
  | .int n, _, h => by
    rw [(intChars_signed h).1]
    exact Layout.lined_of_unbroken (written_signed _ (.digits (digits_toDigits _))).unbroken
  | .float .nan, _, h => by
    cases h
    exact Layout.lined_of_unbroken (by simp [Unbroken, floatText])
  | .float (.infinity negative), _, h => by
    cases h
    exact Layout.lined_of_unbroken (by cases negative <;> simp [Unbroken, floatText])
  | .float (.finite s m e), hd, h => by
    cases h
    obtain ⟨whole, part, exponent, htext, hw, hp, -⟩ := exists_laid (s := s) hd
    change l.Lined (Binary64.finite s m e).text.toList
    rw [htext]
    exact Layout.lined_of_unbroken (written_signed s (Binary64.written_laid hw hp exponent)).unbroken
  | .str s, _, h => by
    cases h
    exact Layout.lined_of_unbroken (unbroken_stringChars l.ascii s)
  | .arr items, hd, h => by
    obtain ⟨parts, hparts, rfl⟩ := chars_list h
    exact lined_enclose hl (by decide) (by decide) (lined_itemChars hl items hd hparts)
  | .obj members, hd, h => by
    obtain ⟨parts, hparts, rfl⟩ := chars_object hl h
    refine lined_enclose hl (by decide) (by decide) ?_
    rw [List.forall_mem_map]
    exact fun m hm => lined_memberText hl m.1 (lined_memberChars hl members hd.2 hparts m hm)

lemma lined_itemChars (hl : l.Legible) {depth : ℕ} {parts : List (List Char)} : (items : List Json) →
    FaithfulItems items → l.itemChars depth items = .ok parts → ∀ p ∈ parts, l.Lined p
  | [], _, h => by
    cases h
    simp
  | x :: xs, ⟨hx, hxs⟩, h => by
    obtain ⟨p, ps, rfl, hp, hps⟩ := itemChars_cons h
    exact List.forall_mem_cons.mpr ⟨lined_chars hl x hx hp, lined_itemChars hl xs hxs hps⟩

lemma lined_memberChars (hl : l.Legible) {depth : ℕ} {parts : List (String × List Char)} :
    (members : List (String × Json)) → FaithfulMembers members →
      l.memberChars depth members = .ok parts → ∀ m ∈ parts, l.Lined m.2
  | [], _, h => by
    cases h
    simp
  | (k, x) :: xs, ⟨hx, hxs⟩, h => by
    obtain ⟨p, ps, rfl, hp, hps⟩ := memberChars_cons h
    exact List.forall_mem_cons.mpr ⟨lined_chars hl x hx hp, lined_memberChars hl xs hxs hps⟩

end

end Texts

lemma trimChars_between {opening closing : Char} (ho : isBlank opening = false)
    (hc : isBlank closing = false) (cs : List Char) :
    trimChars (opening :: cs ++ [closing]) = opening :: cs ++ [closing] := by
  simp [trimChars, trimLeft, trimRight, ho, hc]

/-- The text of an object: one line that is read as the object. -/
theorem print_object {members : List (String × Json)} {line : String} (hd : (Json.obj members).Faithful)
    (h : print compact (.obj members) = .ok line) :
    Unbroken line.toList ∧ trim line = line ∧ parse line = .ok (.obj members) := by
  have hcs := chars_of_print h
  have hlined := lined_chars Layout.legible_compact _ hd hcs
  refine ⟨fun c hc => ⟨fun hline => (hlined c hc).2 hline rfl, (hlined c hc).1⟩, ?_, parse_print hd h⟩
  obtain ⟨parts, -, hline⟩ := chars_object Layout.legible_compact hcs
  have htrim : trimChars line.toList = line.toList := by
    rw [hline]
    cases parts with
    | nil => decide
    | cons m ms =>
      exact trimChars_between (by decide : isBlank '\x7b' = false) (by decide : isBlank '\x7d' = false) _
  rw [trim, htrim, String.ofList_toList]

end Json

end CallSnapshot
