import CallSnapshot.Proofs.Acting
import CallSnapshot.Proofs.Files.Appending
import CallSnapshot.Proofs.Json.OneLine
import CallSnapshot.Proofs.Log.Reading

/-!
A log to which lines are added: it holds them behind those that were there, and each is read as a
record of its own.
-/

namespace CallSnapshot.Log

open Acting Text

structure Line (line : String) : Prop where
  unbroken : Unbroken line.toList
  trimmed : trim line = line
  filled : line ≠ ""

def Holds (log : Log) (fs : Files) (lines : List String) : Prop :=
  fs.read log.path = .ok (bytesOf (joinLines (lines.map String.toList)))

variable {log : Log} {fs : Files} {lines : List String} {line : String} {scene : Scene}

lemma recordOn?_print {members : List (String × Json)} (hd : (Json.obj members).Faithful)
    (h : Json.print Json.compact (.obj members) = .ok line) :
    Line line ∧ recordOn? line.toList = Record.ofData? (.obj members) := by
  obtain ⟨hunbroken, htrim, hparse⟩ := Json.print_object hd h
  have hchars : trimChars line.toList = line.toList := by
    have := congrArg String.toList htrim
    rwa [trim, String.toList_ofList] at this
  have hfilled : line ≠ "" := by
    rintro rfl
    cases hparse
  have hne : line.toList.isEmpty = false := by
    rw [List.isEmpty_eq_false_iff]
    exact fun hnil => hfilled (String.toList_eq_nil_iff.mp hnil)
  refine ⟨⟨hunbroken, htrim, hfilled⟩, ?_⟩
  rw [recordOn?, hchars, if_neg (by simp [hne]), String.ofList_toList, hparse]
  rfl

lemma joinLines_append (ls ms : List (List Char)) : joinLines (ls ++ ms) = joinLines ls ++ joinLines ms :=
  List.flatMap_append

lemma appendLine_run (hline : Line line) (scene : Scene) : (log.appendLine line).run.run scene =
    (change log.path fun fs => fs.append log.path (encodeUtf8 (line ++ "\n"))).run.run scene := by
  have hempty : line.isEmpty = false := by
    rw [Bool.eq_false_iff, Ne, String.isEmpty_iff]
    exact hline.filled
  unfold appendLine
  simp only [hline.trimmed, hempty, Bool.false_eq_true, if_false]

lemma appendLine_holds (h : log.Holds scene.files lines) (hline : Line line) :
    ∃ scene', (log.appendLine line).run.run scene = (.ok (), scene') ∧
      log.Holds scene'.files (lines ++ [line]) := by
  obtain ⟨gs, happend, hread⟩ := Files.append_read h (encodeUtf8 (line ++ "\n"))
  refine ⟨{ scene with files := gs }, ?_, ?_⟩
  · rw [appendLine_run hline]
    simp only [change, run_bind, run_files, happend]
    rfl
  · change gs.read log.path = _
    rw [hread, encodeUtf8_eq, List.map_append, joinLines_append, bytesOf_append]
    simp [bytesOf, joinLines]

lemma appendLine_fails {e : FileError}
    (h : scene.files.append log.path (encodeUtf8 (line ++ "\n")) = .error e) (hline : Line line) :
    ∃ f, (log.appendLine line).run.run scene = (.error f, scene) := by
  refine ⟨e.fault log.path.text, ?_⟩
  rw [appendLine_run hline]
  simp only [change, run_bind, run_files, h]
  rfl

lemma records_run {content : List UInt8} (h : scene.files.read log.path = .ok content) :
    ∃ scene', (log.records false).run.run scene = ((recordsOf content).start.1, scene') := by
  obtain ⟨scene', hrecords, -⟩ := run_ofNoting (recordsOf content) scene
  refine ⟨scene', ?_⟩
  unfold records
  simp only [run_bind, run_files, Files.hasEntry_of_read h, Bool.not_true, Bool.false_eq_true, if_false, ask, h,
    run_pure, hrecords, Bool.false_and]
  cases (recordsOf content).start.1 <;> rfl

lemma records_holds (h : log.Holds scene.files lines) (hlines : ∀ line ∈ lines, Unbroken line.toList) :
    ∃ scene', (log.records false).run.run scene = (.ok (lines.filterMap fun l => recordOn? l.toList), scene') := by
  have hunbroken : ∀ l ∈ lines.map String.toList, Unbroken l := List.forall_mem_map.mpr hlines
  obtain ⟨scene', hrecords⟩ := records_run h
  refine ⟨scene', ?_⟩
  rw [hrecords, start_recordsOf hunbroken, List.filterMap_map]
  rfl

end CallSnapshot.Log
