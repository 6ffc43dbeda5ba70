import CallSnapshot.Proofs.Log.Storing
import CallSnapshot.Proofs.Text.FileLines

/-!
A log of any content. A line that cannot be parsed, is no record or cannot be decoded costs only
itself; bytes that are no text cost all that is read with them.
-/

namespace CallSnapshot.Log

open Noting Text

variable {content pending rest line bs cut : List UInt8} {cs : List Char}

lemma decodePart_eq_ok (h : decodePart bs = .ok (cs, cut)) : bs = bytesOf cs ++ cut := by
  unfold decodePart at h
  split at h
  · rename_i s hs
    cases h
    rw [List.append_nil]
    exact decodeUtf8_eq_ok.mp hs
  · rename_i e _
    split at h
    · split at h
      · rename_i s hs
        cases h
        rw [← decodeUtf8_eq_ok.mp hs, List.take_append_drop]
      · cases h
    · cases h

lemma readChunks_text {fuel : ℕ} (hf : rest.length < fuel) (h : (readChunks fuel pending rest).fault = none) :
    pending ++ rest = bytesOf (readChunks fuel pending rest).text := by
  induction fuel generalizing pending rest with
  | zero => omega
  | succ fuel ih =>
    unfold readChunks at h ⊢
    by_cases hrest : rest = []
    · subst hrest
      cases hs : decodeUtf8 pending with
      | ok s =>
        rw [List.append_nil]
        exact decodeUtf8_eq_ok.mp hs
      | error e =>
        rw [hs] at h
        cases h
    · rw [if_neg (by simpa using hrest)] at h ⊢
      cases hpart : decodePart (pending ++ rest.take chunkSize) with
      | error e =>
        rw [hpart] at h
        cases h
      | ok r =>
        obtain ⟨cs, cut⟩ := r
        rw [hpart] at h
        have hlength : (rest.drop chunkSize).length < fuel := by
          have := List.length_pos_of_ne_nil hrest
          rw [List.length_drop, chunkSize]
          omega
        have hnext := ih hlength h
        calc pending ++ rest
            = (pending ++ rest.take chunkSize) ++ rest.drop chunkSize := by
              rw [List.append_assoc, List.take_append_drop]
          _ = bytesOf cs ++ (cut ++ rest.drop chunkSize) := by rw [decodePart_eq_ok hpart, List.append_assoc]
          _ = _ := by rw [hnext, ← bytesOf_append]

lemma linesOf_bytesOf (cs : List Char) : linesOf (bytesOf cs) = ((textLines cs).map unifyLineEnds, none) := by
  unfold linesOf
  rw [readChunks_bytesOf cs rfl (by omega)]
  simp only [splitLines_unifyLineEnds]

lemma linesOf_fault (h : ∀ cs, content ≠ bytesOf cs) : ∃ e, (linesOf content).2 = some e := by
  unfold linesOf
  cases hfault : (readChunks (content.length + 2) [] content).fault with
  | none => exact absurd (readChunks_text (by omega) hfault) (h _)
  | some e => exact ⟨e, by simp only [hfault]⟩

/-- A file is a text if and only if each of its lines is. -/
lemma forall_byteLines : (∀ line ∈ byteLines content, ∃ s, decodeUtf8 line = .ok s) ↔
    ∃ cs, content = bytesOf cs := by
  constructor
  · intro h
    rw [← flatten_linesAt 10 13 content]
    change ∃ cs, (byteLines content).flatten = bytesOf cs
    generalize byteLines content = ls at h
    induction ls with
    | nil => exact ⟨[], rfl⟩
    | cons l ls ih =>
      obtain ⟨⟨s, hs⟩, hls⟩ := List.forall_mem_cons.mp h
      obtain ⟨cs, hcs⟩ := ih hls
      exact ⟨s.toList ++ cs, by rw [List.flatten_cons, hcs, bytesOf_append, decodeUtf8_eq_ok.mp hs]⟩
  · rintro ⟨cs, rfl⟩ line hline
    rw [byteLines_bytesOf] at hline
    obtain ⟨l, -, rfl⟩ := List.mem_map.mp hline
    exact ⟨_, decodeUtf8_bytesOf l⟩

/-- The record on a line of a file, which may be anything. -/
def recordIn? (line : List UInt8) : Option Record :=
  (decodeUtf8 line).toOption.bind fun s => recordOn? s.toList

/-- The call that a line of a file holds, where it is a text, the text is a record and the record is
that of a call. -/
def eventIn? (line : List UInt8) : Option Event := (decodeUtf8 line).toOption.bind eventOn?

lemma eventIn?_eq (line : List UInt8) : eventIn? line = (recordIn? line).bind (decoded? none) :=
  (Option.bind_assoc _ _ _).symm

lemma recordIn?_bytesOf (l : List Char) : recordIn? (bytesOf l) = recordOn? l := by
  rw [recordIn?, decodeUtf8_bytesOf]
  change recordOn? (String.ofList l).toList = _
  rw [String.toList_ofList]

lemma recordOn?_unifyLineEnds {l : List Char} (h : l ∈ textLines cs) :
    recordOn? (unifyLineEnds l) = recordOn? l := by
  rw [recordOn?, recordOn?, trimChars_unifyLineEnds h]

lemma start_recordsOf_bytesOf (cs : List Char) :
    (recordsOf (bytesOf cs)).start.1 = .ok ((byteLines (bytesOf cs)).filterMap recordIn?) := by
  unfold recordsOf
  rw [linesOf_bytesOf]
  dsimp only
  rw [(steady_readLines 1 _).start_bind fun _ => steady_pure _, start_readLines, byteLines_bytesOf,
    List.filterMap_map, List.filterMap_map]
  refine congrArg Except.ok (List.filterMap_congr fun l hl => ?_)
  simp only [Function.comp_apply, recordIn?_bytesOf, recordOn?_unifyLineEnds hl]

lemma start_recordsOf_fault (h : ∀ cs, content ≠ bytesOf cs) :
    ∃ message, (recordsOf content).start.1 = .error ⟨.textDecoding, message⟩ := by
  obtain ⟨e, he⟩ := linesOf_fault h
  refine ⟨e.message, ?_⟩
  unfold recordsOf
  obtain ⟨lines, hlines⟩ : ∃ lines, linesOf content = (lines, some e) := ⟨_, Prod.ext rfl he⟩
  rw [hlines]
  dsimp only
  rw [(steady_readLines 1 _).start_bind fun _ => steady_fail _ _, start_readLines]
  rfl

variable {log : Log} {scene : Scene}

/-- The calls of a log of any content, line by line. It can be read if and only if each line is a text;
then each line has the call that it alone holds, whatever is on the others. -/
theorem read_lines (h : scene.files.read log.path = .ok content) :
    ((∃ events, (log.read.run.run scene).1 = .ok events) ↔
      ∀ line ∈ byteLines content, ∃ s, decodeUtf8 line = .ok s) ∧
    (∀ events, (log.read.run.run scene).1 = .ok events →
      events = (byteLines content).filterMap eventIn?) ∧
    (∀ fault, (log.read.run.run scene).1 = .error fault → fault.kind = .textDecoding) := by
  obtain ⟨scene', hrecords⟩ := records_run h
  rw [forall_byteLines]
  by_cases htext : ∃ cs, content = bytesOf cs
  · obtain ⟨cs, rfl⟩ := htext
    have hread : (log.read.run.run scene).1 = .ok ((byteLines (bytesOf cs)).filterMap eventIn?) := by
      unfold read
      rw [Acting.run_bind, hrecords, start_recordsOf_bytesOf]
      obtain ⟨last, hlast, -⟩ := Acting.run_ofNoting
        (decodeRecords none ((byteLines (bytesOf cs)).filterMap recordIn?)) scene'
      dsimp only
      rw [hlast, start_decodeRecords, List.filterMap_filterMap]
      exact congrArg Except.ok (List.filterMap_congr fun line _ => (eventIn?_eq line).symm)
    rw [hread]
    refine ⟨iff_of_true ⟨_, rfl⟩ ⟨cs, rfl⟩, fun events he => (Except.ok.inj he).symm, nofun⟩
  · have hne : ∀ cs, content ≠ bytesOf cs := fun cs he => htext ⟨cs, he⟩
    obtain ⟨message, hfault⟩ := start_recordsOf_fault hne
    have hread : (log.read.run.run scene).1 = .error ⟨.textDecoding, message⟩ := by
      unfold read
      rw [Acting.run_bind, hrecords, hfault]
    rw [hread]
    refine ⟨iff_of_false nofun htext, nofun, ?_⟩
    rintro _ ⟨⟩
    rfl

/-- A log in a directory. -/
def brokenLog : Log := ⟨.parse "/site/calls.jsonl"⟩

/-- It holds a call, behind a byte that is no text. -/
def brokenContent : List UInt8 := [0xff, 10] ++ bytesOf "\x7b\"fn_name\": \"f\"\x7d\n".toList

def brokenScene : Scene :=
  { (default : Scene) with files := { (default : Files) with
      entries := [(["site"], .directory), (["site", "calls.jsonl"], .file brokenContent)] } }

theorem read_lines_broken : brokenScene.files.read brokenLog.path = .ok brokenContent ∧
    (byteLines brokenContent).map (fun line => (eventIn? line).isSome) = [false, true] ∧
    ∀ events, (brokenLog.read.run.run brokenScene).1 ≠ .ok events := by
  have hread : brokenScene.files.read brokenLog.path = .ok brokenContent := by decide +kernel
  refine ⟨hread, by decide +kernel, fun events he => ?_⟩
  obtain ⟨s, hs⟩ := (read_lines hread).1.mp ⟨events, he⟩ [0xff, 10] (by decide +kernel)
  cases hs

end CallSnapshot.Log
