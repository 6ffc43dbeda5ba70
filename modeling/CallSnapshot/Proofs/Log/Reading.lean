import CallSnapshot.Log.Store
import CallSnapshot.Proofs.Codec.Steady
import CallSnapshot.Proofs.Text.Lines
import CallSnapshot.Proofs.Text.Utf8

/-! The calls of a log are those of its records, each decoded on its own. -/

namespace CallSnapshot

open Noting

lemma Event.steady_ofRecord (mode : Codec.Mode) (r : Record) : Steady (ofRecord mode r) := by
  have recur : ∀ data, Steady (Codec.decode mode data) := Codec.steady_decode
  exact (steady_settle _).bind fun _ => (Codec.closed_decodeParts closed_steady recur _).bind fun _ =>
    (steady_settle _).bind fun _ => (Codec.closed_decodeMembers closed_steady recur _).bind fun _ =>
      (Codec.steady_decode _).bind fun _ => steady_pure _

namespace Log

def decoded? (mode : Codec.Mode) (r : Record) : Option Event := (Event.ofRecord mode r).start.1.toOption

/-- One record: its call, or a note that it has none. -/
def decodeRecord (mode : Codec.Mode) (r : Record) : Noting (Option Event) := do
  try
    let e ← Event.ofRecord mode r
    pure (some e)
  catch f =>
    let name := (Codec.ofJson r.name).plainText
    note ⟨.warning, s!"Failed to decode snapshot of {name}: ", some f⟩
    pure none

lemma decodeRecords_cons (mode : Codec.Mode) (r : Record) (rs : List Record) :
    decodeRecords mode (r :: rs) = (do
      let o ← decodeRecord mode r
      let es ← decodeRecords mode rs
      return o.elim es (· :: es)) := rfl

lemma steady_decodeRecord (mode : Codec.Mode) (r : Record) : Steady (decodeRecord mode r) :=
  ((Event.steady_ofRecord mode r).bind fun _ => steady_pure _).tryCatch fun _ =>
    (steady_note _).bind fun _ => steady_pure _

lemma steady_decodeRecords (mode : Codec.Mode) (rs : List Record) : Steady (decodeRecords mode rs) := by
  induction rs with
  | nil => exact steady_pure _
  | cons r rs ih =>
    exact (steady_decodeRecord mode r).bind fun _ => ih.bind fun _ => steady_pure _

lemma start_decodeRecord (mode : Codec.Mode) (r : Record) :
    (decodeRecord mode r).start.1 = .ok (decoded? mode r) := by
  have h := Event.steady_ofRecord mode r
  refine ((h.bind fun _ => steady_pure _).start_tryCatch fun _ =>
    (steady_note _).bind fun _ => steady_pure _).trans ?_
  rw [h.start_bind fun _ => steady_pure _, decoded?]
  cases (Event.ofRecord mode r).start.1 <;> rfl

lemma start_decodeRecords (mode : Codec.Mode) (rs : List Record) :
    (decodeRecords mode rs).start.1 = .ok (rs.filterMap (decoded? mode)) := by
  induction rs with
  | nil => rfl
  | cons r rs ih =>
    have hrest := steady_decodeRecords mode rs
    rw [decodeRecords_cons, (steady_decodeRecord mode r).start_bind fun _ => hrest.bind fun _ => steady_pure _,
      start_decodeRecord]
    dsimp only
    rw [hrest.start_bind fun _ => steady_pure _, ih]
    cases hd : decoded? mode r <;> simp [hd] <;> rfl

end Log

end CallSnapshot

/-!
Reading a log back. It is read in chunks of bytes, which are cut anywhere, and lines are found in
what was decoded; in the end each line that was added to it is read as a record of its own.
-/

namespace CallSnapshot.Log

open Noting Text

/-- Bytes that begin a text are decoded up to a character that is cut off. -/
lemma decodePart_prefix {cs : List Char} {bs : List UInt8} (h : bs <+: bytesOf cs) :
    ∃ ds es cut, cs = ds ++ es ∧ bs = bytesOf ds ++ cut ∧ decodePart bs = .ok (ds, cut) := by
  obtain ⟨ds, es, cut, rfl, rfl, hcut⟩ := prefix_bytesOf h
  refine ⟨ds, es, cut, rfl, rfl, ?_⟩
  rcases hcut with rfl | ⟨c, fs, rfl, hp, hne, hlt⟩
  · simp [decodePart, decodeUtf8_bytesOf]
  · have hlength : ds.length < (bytesOf ds ++ cut).length := by
      have := length_le_bytesOf ds
      have := List.length_pos_of_ne_nil hne
      rw [List.length_append]
      omega
    obtain ⟨n, b, hcut⟩ := decodeChars_bytesOf_cut hp hne hlt hlength 0
    have hall : decodeUtf8 (bytesOf ds ++ cut) = .error ⟨.unexpectedEnd, (bytesOf ds).length, n, b⟩ := by
      rw [decodeUtf8, hcut, Nat.zero_add]
      rfl
    simp [decodePart, hall, decodeUtf8_bytesOf]

lemma readChunks_bytesOf (cs : List Char) {fuel : ℕ} {pending rest : List UInt8}
    (h : pending ++ rest = bytesOf cs) (hf : rest.length < fuel) :
    readChunks fuel pending rest = ⟨cs, none⟩ := by
  induction fuel generalizing cs pending rest with
  | zero => omega
  | succ fuel ih =>
    unfold readChunks
    by_cases hrest : rest = []
    · subst hrest
      rw [List.append_nil] at h
      simp [h, decodeUtf8_bytesOf]
    · have hprefix : pending ++ rest.take chunkSize <+: bytesOf cs := by
        rw [← h]
        exact (List.prefix_append_right_inj _).mpr (List.take_prefix _ _)
      obtain ⟨ds, es, cut, rfl, hbs, hpart⟩ := decodePart_prefix hprefix
      have hnext : cut ++ rest.drop chunkSize = bytesOf es := by
        rw [← List.take_append_drop chunkSize rest, ← List.append_assoc, hbs, bytesOf_append,
          List.append_assoc] at h
        exact List.append_cancel_left h
      have hlength : (rest.drop chunkSize).length < fuel := by
        have := List.length_pos_of_ne_nil hrest
        rw [List.length_drop, chunkSize]
        omega
      rw [if_neg (by simpa using hrest), hpart]
      simp only [ih _ hnext hlength]

lemma linesOf_joinLines {ls : List (List Char)} (h : ∀ l ∈ ls, Unbroken l) :
    linesOf (bytesOf (joinLines ls)) = (ls.map (· ++ ['\n']), none) := by
  unfold linesOf
  rw [readChunks_bytesOf (joinLines ls) rfl (by omega)]
  simp only [splitLines_joinLines h]

def recordOn? (line : List Char) : Option Record :=
  if (trimChars line).isEmpty then none
  else (Json.parse (String.ofList (trimChars line))).toOption.bind Record.ofData?

def eventOn? (line : String) : Option Event := (recordOn? line.toList).bind (decoded? none)

lemma steady_readLine (number : ℕ) (line : List Char) : Steady (readLine number line) := by
  unfold readLine
  dsimp only
  split
  · exact steady_pure _
  · split
    · exact (steady_note _).bind fun _ => steady_pure _
    · exact steady_pure _

lemma start_readLine (number : ℕ) (line : List Char) :
    (readLine number line).start.1 = .ok (recordOn? line) := by
  unfold readLine recordOn?
  dsimp only
  split
  · rfl
  · split
    · rename_i h
      rw [h]
      rfl
    · rename_i h
      rw [h]
      rfl

lemma steady_readLines (number : ℕ) (lines : List (List Char)) : Steady (readLines number lines) := by
  induction lines generalizing number with
  | nil => exact steady_pure _
  | cons l ls ih =>
    exact (steady_readLine number l).bind fun _ => (ih _).bind fun _ => steady_pure _

lemma start_readLines (number : ℕ) (lines : List (List Char)) :
    (readLines number lines).start.1 = .ok (lines.filterMap recordOn?) := by
  induction lines generalizing number with
  | nil => rfl
  | cons l ls ih =>
    have hrest := steady_readLines (number + 1) ls
    rw [readLines, (steady_readLine number l).start_bind fun _ => hrest.bind fun _ => steady_pure _,
      start_readLine]
    dsimp only
    rw [hrest.start_bind fun _ => steady_pure _, ih]
    cases hr : recordOn? l <;> simp [hr] <;> rfl

lemma start_recordsOf {ls : List (List Char)} (h : ∀ l ∈ ls, Unbroken l) :
    (recordsOf (bytesOf (joinLines ls))).start.1 = .ok (ls.filterMap recordOn?) := by
  have hline : ∀ l : List Char, recordOn? (l ++ ['\n']) = recordOn? l := fun l => by
    rw [recordOn?, recordOn?, trimChars_line]
  unfold recordsOf
  rw [linesOf_joinLines h]
  dsimp only
  rw [(steady_readLines 1 _).start_bind fun _ => steady_pure _, start_readLines]
  simp only [List.filterMap_map, Function.comp_def, hline]
  rfl

end CallSnapshot.Log
