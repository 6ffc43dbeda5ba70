import CallSnapshot.Proofs.Files.Appending
import CallSnapshot.Proofs.Json.Printable
import CallSnapshot.Proofs.Number.Layout
import CallSnapshot.Proofs.Session.Sparing
import CallSnapshot.Proofs.Text.Utf8

/-! An integer is read from the text that it is written as. -/

namespace CallSnapshot.Numeral

open Nat (ofDigitChars toDigits)
open Text Decimal

lemma digitIn_digit {c : Char} (h : c.isDigit = true) : digitIn 10 c = some (charValue c) := by
  have hlt : charValue c < 10 := forall_isDigit (P := fun c => charValue c < 10) (by decide) h
  rw [digitIn]
  simp only [h, if_true]
  exact if_pos hlt

lemma takeDigits_digits {cs : List Char} (h : Digits cs) : takeDigits 10 cs = some (cs.map charValue, []) := by
  have hall : cs.filterMap (digitIn 10) = cs.map charValue := by
    rw [← List.filterMap_eq_map]
    exact List.filterMap_congr fun c hc => digitIn_digit (h c hc)
  rw [takeDigits_all, hall]
  intro c hc
  exact ⟨digit_ne (h c hc) rfl, by rw [digitIn_digit (h c hc)]; rfl⟩

lemma toString_nat (n : ℕ) : toString n = String.ofList (toDigits 10 n) := by
  rw [← String.toList_inj, String.toList_ofList]
  exact Nat.toList_repr

theorem readInt_nat {n : ℕ} (h : Short n) : readInt 10 (toString n) = .ok n := by
  have hdigits := digits_toDigits n
  have hlen : (toDigits 10 n).length ≤ digitLimit := by
    rw [Nat.length_toDigits_le_iff (by decide) (by decide)]
    simpa [Short] using h
  have hblank : trimNumeral (toDigits 10 n) = toDigits 10 n :=
    Uuid.trimNumeral_absent fun c hc => ((Written.digits hdigits).char hc).2.2.1
  have hmarker : dropMarker 10 (toDigits 10 n) = toDigits 10 n :=
    Uuid.dropMarker_absent (fun hx => digit_ne (hdigits _ hx) rfl rfl)
      (fun hx => digit_ne (hdigits _ hx) rfl rfl) 10
  have hvalue : ofDigits 10 ((toDigits 10 n).map charValue) = n :=
    (ofDigits_charValue _).trans Nat.ofDigitChars_ten_toDigits
  have htake := takeDigits_digits hdigits
  have hne : toDigits 10 n ≠ [] := Nat.toDigits_ne_nil
  unfold readInt
  rw [toString_nat, (Written.digits hdigits).toNumeral, hblank]
  cases hcs : toDigits 10 n with
  | nil => exact absurd hcs hne
  | cons c cs =>
    rw [hcs] at hdigits hmarker htake hvalue hlen
    have hc := hdigits c List.mem_cons_self
    have hsign : splitSign (c :: cs) = (false, c :: cs) := by
      simp [splitSign, digit_ne hc (d := '-') rfl, digit_ne hc (d := '+') rfl]
    have hunder : c ≠ '_' := digit_ne hc rfl
    have hshort : ¬ digitLimit ≤ cs.length := by simpa using hlen
    rw [List.map_cons] at hvalue
    simp [hsign, hmarker, htake, hunder, hshort, hvalue]

end CallSnapshot.Numeral

/-! The number of the collector as it is kept, and as it is read again. -/

namespace CallSnapshot.Workspace

open Files Acting

variable {w : Workspace} {fs gs : Files} {pid : ℤ}

def IsPid (pid : ℤ) : Prop := 0 < pid ∧ pid < 2 ^ 31

def numberText (pid : ℤ) : List UInt8 := Text.encodeUtf8 (toString pid)

lemma pidOf?_numberText (h : IsPid pid) : pidOf? (numberText pid) = some pid := by
  obtain ⟨n, rfl⟩ := Int.eq_ofNat_of_zero_le h.1.le
  have hshort : Numeral.Short n := by
    have hlt : n < 2 ^ 31 := by exact_mod_cast h.2
    have hle : 2 ^ 31 ≤ 10 ^ Numeral.digitLimit :=
      le_trans (by norm_num : 2 ^ 31 ≤ 10 ^ 10) (Nat.pow_le_pow_right (by decide) (by decide))
    exact hlt.trans_le hle
  have htext : toString (n : ℤ) = toString n := rfl
  have htrim : Text.trim (toString n) = toString n := by
    rw [Numeral.toString_nat]
    exact (Numeral.Written.digits (Text.digits_toDigits n)).trim
  rw [pidOf?, numberText, htext, Text.decodeUtf8_encodeUtf8]
  dsimp only
  rw [htrim, Numeral.readInt_nat hshort]
  rfl

def keptPid (w : Workspace) (fs : Files) : Option ℤ := (fs.read w.pidFile).toOption.bind pidOf?

lemma savedPid_does (h : fs.hasEntry w.pidFile = true → ∃ bs, fs.read w.pidFile = .ok bs) :
    Does w.savedPid fs fun a gs => gs = fs ∧ a = w.keptPid fs := by
  unfold savedPid
  refine does_files_bind ?_
  cases hhas : fs.hasEntry w.pidFile with
  | false =>
    have hread : w.keptPid fs = none := by
      cases hr : fs.read w.pidFile with
      | error e => simp [keptPid, hr, Except.toOption]
      | ok bs =>
        obtain ⟨q, hq, hbs⟩ := read_eq_ok.mp hr
        simp [hasEntry, entryAt?, hq, hbs] at hhas
    exact does_pure ⟨rfl, hread.symm⟩
  | true =>
    obtain ⟨bs, hbs⟩ := h hhas
    have hread : w.keptPid fs = pidOf? bs := by simp [keptPid, hbs, Except.toOption]
    refine does_ask_bind hbs ?_
    rw [hread]
    cases pidOf? bs with
    | some pid => exact does_pure ⟨rfl, rfl⟩
    | none => exact does_note_bind _ (does_pure ⟨rfl, rfl⟩)

lemma savedPid_keeps : Ends w.savedPid fs fun _ gs => gs = fs := by
  refine ends_files_bind ?_
  split
  · exact ends_pure rfl
  · refine (ends_ask (Q := fun _ gs => gs = fs) (fun _ _ => rfl) fun _ => rfl).bind ?_ fun _ _ => id
    rintro content gs rfl
    cases pidOf? content with
    | some pid => exact ends_pure rfl
    | none =>
      refine (does_note _ (Q := fun _ hs => hs = gs) rfl).ends_bind ?_
      rintro _ _ rfl
      exact ends_pure rfl

/-! The number in a tree without links. -/

section Direct

variable (hw : Layout w) (h : Ready w fs)

include hw

lemma pidFile_proper : ∀ n ∈ w.pidFile.names, n ≠ ".." := by
  intro n hn
  rw [pidFile_names, sessionDir_names] at hn
  simp only [List.append_assoc, List.mem_append, List.mem_singleton] at hn
  rcases hn with hn | rfl | rfl
  · exact (hw.temp.proper n hn).2
  · exact (sessionName_proper w).2
  · decide

lemma startOf_pidFile (fs : Files) : fs.startOf w.pidFile = [] := startOf_absolute hw.temp.absolute fs

include h

lemma placeOf_pidFile (hsession : fs.get? w.sessionDir.names = some .directory) :
    fs.placeOf w.pidFile = .ok w.pidFile.names := by
  unfold placeOf
  rw [startOf_pidFile hw]
  refine walk_through (pidFile_proper hw) (fun r hr hne => ?_) (h.direct _) (by rw [stepLimit]; omega)
  rw [List.nil_append]
  rcases prefix_pidFile.mp hr with hr | rfl | rfl
  · exact h.temp r hr
  · exact hsession
  · exact absurd rfl hne

lemma read_pinned {bs : List UInt8} (hp : Pinned w fs bs) : fs.read w.pidFile = .ok bs :=
  read_eq_ok.mpr ⟨_, placeOf_pidFile hw h hp.session, hp.number⟩

lemma keptPid_pinned (hpid : IsPid pid) (hp : Pinned w fs (numberText pid)) : w.keptPid fs = some pid := by
  rw [keptPid, read_pinned hw h hp]
  exact pidOf?_numberText hpid

lemma savePid_pins (pid : ℤ) :
    Does (w.savePid pid) fs fun _ gs => Ready w gs ∧ Pinned w gs (numberText pid) := by
  have hparent : w.pidFile.parent.names = w.sessionDir.names := by
    rw [Path.parent, pidFile_names, List.dropLast_concat]
  have hstart : fs.startOf w.pidFile.parent = [] := startOf_pidFile hw fs
  obtain ⟨gs, hgs, hcurrent, hsession, hothers⟩ : ∃ gs, fs.makeDirectories w.pidFile.parent = .ok gs ∧
      gs.current = fs.current ∧ gs.get? w.sessionDir.names = some .directory ∧
      ∀ q, q ≠ w.sessionDir.names → gs.get? q = fs.get? q := by
    unfold makeDirectories
    rw [hstart, hparent]
    refine makeFrom_through (fun n hn => pidFile_proper hw n ?_) (fun r hr hne => ?_) ?_
      (by rw [stepLimit]; omega)
    · rw [pidFile_names]
      exact List.mem_append_left _ hn
    · rw [List.nil_append]
      rw [sessionDir_names] at hr hne
      exact h.temp r ((List.prefix_concat_iff.mp hr).resolve_left hne)
    · rw [List.nil_append]
      refine h.session.symm.imp_right fun hnone => ⟨?_, hnone⟩
      rw [sessionDir_names]
      simp
  have hspared : Spared w fs gs := by
    refine Spared.made h hcurrent fun q => ?_
    by_cases hq : q = w.sessionDir.names
    · subst hq
      rcases h.session with hnone | hdir
      · refine .inr ⟨hnone, hsession, ?_⟩
        rw [pidFile_names]
        simp
      · exact .inl (hsession.trans hdir.symm)
    · exact .inl (hothers q hq)
  have hgs' := hspared.ready
  refine does_change_bind hgs (does_change (write_file (placeOf_pidFile hw hgs' hsession) hgs'.number _) ?_)
  have hget := get?_put gs (p := w.pidFile.names) (by rw [pidFile_names]; simp) (.file (numberText pid))
  have hdir : ∀ q, gs.get? q = some .directory →
      (gs.put w.pidFile.names (.file (numberText pid))).get? q = some .directory := by
    intro q hq
    rw [hget, if_neg, hq]
    rintro rfl
    exact hgs'.number hq
  refine ⟨⟨fun q t => ?_, hgs'.current, fun r hr => hdir r (hgs'.temp r hr), .inr (hdir _ hsession), ?_⟩,
    hdir _ hsession, ?_⟩
  · change (gs.put w.pidFile.names (.file (numberText pid))).get? q ≠ _
    rw [hget]
    split
    · simp
    · exact hgs'.direct q t
  · change (gs.put w.pidFile.names (.file (numberText pid))).get? _ ≠ _
    rw [hget, if_pos rfl]
    simp
  · change (gs.put w.pidFile.names (.file (numberText pid))).get? _ = _
    rw [hget, if_pos rfl]

omit hw in
lemma removePid_ready : Ends w.removePid fs fun _ gs => Ready w gs := by
  refine ends_files_bind ?_
  split
  · refine ends_change (fun gs hgs => ?_) fun _ => h
    obtain ⟨rfl, c, hc⟩ := remove_erase h.direct hgs
    have hne := ne_nil_of_file hc
    have hget := get?_erase fs hne
    have hdir : ∀ q, fs.get? q = some .directory → q ≠ follow (fs.startOf w.pidFile) w.pidFile.names := by
      rintro q hq rfl
      rw [hq] at hc
      cases hc
    refine ⟨fun q t => ?_, h.current, fun r hr => ?_, ?_, ?_⟩
    · rw [hget]
      split
      · simp
      · exact h.direct q t
    · rw [hget, if_neg (hdir r (h.temp r hr)), h.temp r hr]
    · rw [hget]
      split
      · exact .inl rfl
      · exact h.session
    · rw [hget]
      split
      · simp
      · exact h.number
  · exact ends_pure h

end Direct

end CallSnapshot.Workspace
