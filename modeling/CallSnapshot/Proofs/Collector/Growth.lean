import CallSnapshot.Proofs.Collector.Telemetry
import CallSnapshot.Proofs.Text.FileLines

/-!
How the log of a collector grows, whatever it is sent. What was in the log stays there; a line is
added for each reply that says so, unless what was sent is blank.
-/

namespace CallSnapshot

open Acting Text

def Response.isCaptured (r : Response) : Bool :=
  match r.status, r.body with
  | 200, .data (.obj [("status", .str "captured")]) => true
  | _, _ => false

lemma Response.isCaptured_iff {r : Response} : r.isCaptured = true ↔
    r.status = 200 ∧ r.body = .data (.obj [("status", .str "captured")]) := by
  unfold isCaptured
  constructor
  · intro h
    split at h
    · exact ⟨‹_›, ‹_›⟩
    · cases h
  · rintro ⟨hstatus, hbody⟩
    rw [hstatus, hbody]
    rfl

namespace Log

variable {log : Log} {scene left : Scene} {text : String} {content : List UInt8} {f : Fault}

def written (text : String) : List Char := trimChars text.toList

/-- The lines that a text becomes, as bytes: one, or none where it is blank. -/
def linesFor (text : String) : List (List UInt8) :=
  if written text = [] then [] else [bytesOf (written text ++ ['\n'])]

lemma toList_trim (text : String) : (trim text).toList = written text := by
  rw [trim, String.toList_ofList, written]

lemma appendLine_blank (h : written text = []) (scene : Scene) :
    (log.appendLine text).run.run scene = (.ok (), scene) := by
  have hempty : (trim text).isEmpty = true := by
    rw [String.isEmpty_iff, ← String.toList_eq_nil_iff, toList_trim, h]
  unfold appendLine
  simp only [hempty, if_true]
  rfl

lemma appendLine_filled (h : written text ≠ []) (scene : Scene) : (log.appendLine text).run.run scene =
    (change log.path fun fs => fs.append log.path (bytesOf (written text ++ ['\n']))).run.run scene := by
  have hempty : (trim text).isEmpty = false := by
    rw [Bool.eq_false_iff, Ne, String.isEmpty_iff, ← String.toList_eq_nil_iff, toList_trim]
    exact h
  have hbytes : encodeUtf8 (trim text ++ "\n") = bytesOf (written text ++ ['\n']) := by
    rw [encodeUtf8_eq, String.toList_append, toList_trim]
    rfl
  unfold appendLine
  simp only [hempty, Bool.false_eq_true, if_false, hbytes]

lemma appendLine_read (h : scene.files.read log.path = .ok content)
    (hrun : (log.appendLine text).run.run scene = (.ok (), left)) :
    left.files.read log.path = .ok (content ++ (linesFor text).flatten) := by
  by_cases hblank : written text = []
  · rw [appendLine_blank hblank] at hrun
    cases hrun
    rw [linesFor, if_pos hblank, List.flatten_nil, List.append_nil, h]
  · obtain ⟨gs, happend, hread⟩ := Files.append_read h (bytesOf (written text ++ ['\n']))
    rw [appendLine_filled hblank] at hrun
    simp only [change, run_bind, run_files, happend] at hrun
    cases hrun
    rw [linesFor, if_neg hblank, List.flatten_cons, List.flatten_nil, List.append_nil]
    exact hread

lemma appendLine_error (hrun : (log.appendLine text).run.run scene = (.error f, left)) : left = scene := by
  by_cases hblank : written text = []
  · rw [appendLine_blank hblank] at hrun
    cases congrArg Prod.fst hrun
  · rw [appendLine_filled hblank] at hrun
    simp only [change, run_bind, run_files] at hrun
    split at hrun
    · cases congrArg Prod.fst hrun
    · cases hrun
      rfl

lemma byteLines_linesFor (h : Unbroken (written text)) : byteLines (linesFor text).flatten = linesFor text := by
  unfold linesFor
  split
  · rfl
  · rename_i hfilled
    have hlines : textLines (written text ++ ['\n']) = [written text ++ ['\n']] :=
      linesAt_whole_append h hfilled ['\n']
    rw [List.flatten_cons, List.flatten_nil, List.append_nil, byteLines_bytesOf, hlines]
    rfl

lemma byteLines_append_linesFor (hended : Ended 10 13 content) (h : Unbroken (written text)) :
    byteLines (content ++ (linesFor text).flatten) = byteLines content ++ linesFor text := by
  have hhead : (linesFor text).flatten.head? ≠ some 10 := by
    unfold linesFor
    split
    · nofun
    · rename_i hfilled
      obtain ⟨c, cs, hcs⟩ := List.exists_cons_of_ne_nil hfilled
      rw [List.flatten_cons, List.flatten_nil, List.append_nil, Ne, head?_bytesOf, hcs]
      intro hc
      exact (h c (hcs ▸ List.mem_cons_self)).1 (Option.some.inj hc)
  exact (linesAt_append hended hhead).trans (by rw [← byteLines, ← byteLines, byteLines_linesFor h])

lemma ended_append_linesFor (hended : Ended 10 13 content) (text : String) :
    Ended 10 13 (content ++ (linesFor text).flatten) := by
  unfold linesFor
  split
  · rwa [List.flatten_nil, List.append_nil]
  · have hlast : bytesOf (written text ++ ['\n']) = bytesOf (written text) ++ [10] := bytesOf_append _ _
    rw [List.flatten_cons, List.flatten_nil, List.append_nil, hlast, ← List.append_assoc]
    intro b hb
    rw [List.getLast?_concat] at hb
    exact .inl (Option.some.inj hb).symm

lemma byteLines_append_texts {texts : List String} (hended : Ended 10 13 content)
    (h : ∀ text ∈ texts, Unbroken (written text)) :
    byteLines (content ++ (texts.flatMap linesFor).flatten) = byteLines content ++ texts.flatMap linesFor := by
  induction texts generalizing content with
  | nil => rw [List.flatMap_nil, List.flatten_nil, List.append_nil, List.append_nil]
  | cons text texts ih =>
    obtain ⟨htext, htexts⟩ := List.forall_mem_cons.mp h
    rw [List.flatMap_cons, List.flatten_append, ← List.append_assoc,
      ih (ended_append_linesFor hended text) htexts, byteLines_append_linesFor hended htext,
      List.append_assoc]

lemma length_linesFor (text : String) : (linesFor text).length = if written text = [] then 0 else 1 := by
  unfold linesFor
  split <;> rfl

lemma length_flatMap_linesFor (texts : List String) :
    (texts.flatMap linesFor).length = (texts.filter fun text => written text ≠ []).length := by
  induction texts with
  | nil => rfl
  | cons text texts ih =>
    rw [List.flatMap_cons, List.length_append, ih, length_linesFor, List.filter_cons]
    by_cases hblank : written text = []
    · simp [hblank]
    · simp [hblank, Nat.add_comm]

end Log

namespace Service

variable {now : Binary64} {r : Request} {resp : Response} {s s' : Service} {scene left : Scene}

/-- What a request does to the log and the files: nothing, or what its reply says. -/
def Keeps (body : List UInt8) (s : Service) (scene : Scene) (resp : Response) (s' : Service) (left : Scene) : Prop :=
  s'.log = s.log ∧ (resp.isCaptured = false ∧ left.files = scene.files ∨ resp.isCaptured = true ∧
    ∃ text, decodeUtf8 body = .ok text ∧ (s.log.appendLine text).run.run scene = (.ok (), left))

lemma store_run (body : List UInt8) (scene : Scene) : (store s.log body).run.run scene =
    match decodeUtf8 body with
    | .ok text => (s.log.appendLine text).run.run scene
    | .error e => (.error ⟨.textDecoding, e.message⟩, scene) := by
  unfold store
  cases decodeUtf8 body <;> rfl

lemma take_keeps (h : (take now r.body).run (s, scene) = (resp, s', left)) : Keeps r.body s scene resp s' left := by
  cases hon : s.recording.isOn with
  | false =>
    rw [take_off now s scene hon] at h
    cases h
    exact ⟨rfl, .inl ⟨rfl, rfl⟩⟩
  | true =>
    rw [take_on now s scene hon, store_run] at h
    cases hbody : decodeUtf8 r.body with
    | error e =>
      rw [hbody] at h
      cases h
      exact ⟨rfl, .inl ⟨rfl, Scene.add_files _ _⟩⟩
    | ok text =>
      rw [hbody] at h
      dsimp only at h
      rcases hrun : (s.log.appendLine text).run.run scene with ⟨f | ⟨⟩, found⟩
      · rw [hrun] at h
        cases h
        refine ⟨rfl, .inl ⟨rfl, ?_⟩⟩
        rw [Scene.add_files, Log.appendLine_error hrun]
      · rw [hrun] at h
        cases h
        exact ⟨rfl, .inr ⟨rfl, text, hbody, hrun⟩⟩

lemma refusal_isCaptured (method : String) (status : ℕ) (detail : String) :
    (refusal method status detail).isCaptured = false := by
  rw [Bool.eq_false_iff, Ne, Response.isCaptured_iff]
  unfold refusal
  split <;> simp

lemma leave_isCaptured (s : Service) (origin asked : String) : (s.leave origin asked).isCaptured = false := by
  rw [Bool.eq_false_iff, Ne, Response.isCaptured_iff]
  unfold leave
  extract_lets refused
  split <;> simp

lemma answer_keeps (h : (answer now r).run (s, scene) = (resp, s', left)) : Keeps r.body s scene resp s' left := by
  unfold answer at h
  split at h
  · cases h
    exact ⟨rfl, .inl ⟨refusal_isCaptured _ _ _, rfl⟩⟩
  · split at h
    · cases h
      exact ⟨rfl, .inl ⟨refusal_isCaptured _ _ _, rfl⟩⟩
    · split at h
      · cases h
        exact ⟨rfl, .inl ⟨rfl, rfl⟩⟩
      · cases h
        exact ⟨rfl, .inl ⟨rfl, Scene.add_files _ _⟩⟩
      · cases h
        exact ⟨rfl, .inl ⟨rfl, Scene.add_files _ _⟩⟩
      · exact take_keeps h

lemma handle_keeps (h : (handle now r).run (s, scene) = (resp, s', left)) : Keeps r.body s scene resp s' left := by
  unfold handle at h
  split at h
  · exact answer_keeps h
  · rename_i origin _
    have hmarked : ∀ {resp s' left},
        (do return { ← answer now r with allowedOrigin := s.letIn origin } : Serving Response).run (s, scene) =
          (resp, s', left) → Keeps r.body s scene resp s' left := by
      intro resp s' left h
      rcases hanswer : (answer now r).run (s, scene) with ⟨told, s₁, left₁⟩
      rw [StateT.run_bind, hanswer] at h
      cases h
      have hkeeps := answer_keeps hanswer
      exact hkeeps
    simp only [StateT.run_bind, StateT.run_get, pure_bind] at h
    split at h
    · cases h
      exact ⟨rfl, .inl ⟨leave_isCaptured _ _ _, rfl⟩⟩
    · exact hmarked h

def capturedBodies (requests : List (Binary64 × Request)) (handled : List Handled) : List (List UInt8) :=
  ((requests.zip handled).filter fun x => x.2.response.isCaptured).map fun x => x.1.2.body

lemma capturedBodies_cons (request : Binary64 × Request) (requests : List (Binary64 × Request)) (h : Handled)
    (handled : List Handled) : capturedBodies (request :: requests) (h :: handled) =
      (if h.response.isCaptured then [request.2.body] else []) ++ capturedBodies requests handled := by
  unfold capturedBodies
  rw [List.zip_cons_cons, List.filter_cons]
  split <;> rfl

lemma handleAll_cons {requests : List (Binary64 × Request)} {last : Service × Scene} {handled : List Handled}
    (hrun : (handle now r).run (s, { scene with notes := [] }) = (resp, s', left))
    (hall : (handleAll requests).run (s', { left with notes := scene.notes }) = (handled, last)) :
    (handleAll ((now, r) :: requests)).run (s, scene) =
      (⟨now, resp, s'.recording, left.notes⟩ :: handled, last) := by
  rw [handleAll]
  simp only [StateT.run_bind, StateT.run_get, pure_bind, StateT.run_set, hrun]
  exact congrArg (fun x => (Handled.mk now resp s'.recording left.notes :: x.1, x.2)) hall

/-- Requests, one after another: which replies say that something is in the log, and what is. -/
lemma handleAll_captured (requests : List (Binary64 × Request)) {content : List UInt8}
    (h : scene.files.read s.log.path = .ok content) :
    ∃ handled s' left texts, (handleAll requests).run (s, scene) = (handled, s', left) ∧
      List.Forall₂ (fun body text => decodeUtf8 body = .ok text) (capturedBodies requests handled) texts ∧
      left.files.read s.log.path = .ok (content ++ (texts.flatMap Log.linesFor).flatten) := by
  induction requests generalizing s scene content with
  | nil => exact ⟨[], s, scene, [], rfl, .nil, by simpa using h⟩
  | cons request requests ih =>
    obtain ⟨now, r⟩ := request
    rcases hrun : (handle now r).run (s, { scene with notes := [] }) with ⟨resp, s₁, left₁⟩
    obtain ⟨hlog, ⟨hcaptured, hfiles⟩ | ⟨hcaptured, text, htext, hadded⟩⟩ := handle_keeps hrun
    · have hread : left₁.files.read s₁.log.path = .ok content := by rw [hlog, hfiles]; exact h
      obtain ⟨handled, s', left, texts, hall, htexts, hlast⟩ :=
        ih (show ({ left₁ with notes := scene.notes } : Scene).files.read s₁.log.path = _ from hread)
      refine ⟨_, s', left, texts, handleAll_cons hrun hall, ?_, hlog ▸ hlast⟩
      rw [capturedBodies_cons, hcaptured]
      exact htexts
    · have hread : left₁.files.read s₁.log.path = .ok (content ++ (Log.linesFor text).flatten) := by
        rw [hlog]
        exact Log.appendLine_read (show ({ scene with notes := [] } : Scene).files.read s.log.path = _ from h) hadded
      obtain ⟨handled, s', left, texts, hall, htexts, hlast⟩ :=
        ih (show ({ left₁ with notes := scene.notes } : Scene).files.read s₁.log.path = _ from hread)
      refine ⟨_, s', left, text :: texts, handleAll_cons hrun hall, ?_, ?_⟩
      · rw [capturedBodies_cons, hcaptured]
        exact .cons htext htexts
      · rw [List.flatMap_cons, List.flatten_append, ← List.append_assoc, ← hlog]
        exact hlast

/-- Requests of any kind, at a log of any content. A reply that is not "captured", as one that reports
a failure, leaves all files as they were. After any number of requests the log begins with what it held;
behind that is one line for each captured body, which is a text, without the blanks around it, and
none for a blank body. So, where the last line was not cut off and no body has a line end within it, the
lines that were there are unchanged, and as many are added as bodies were captured that are not blank. -/
theorem lines_captured {content : List UInt8} (h : scene.files.read s.log.path = .ok content) :
    (∀ now r resp s' left, (handle now r).run (s, scene) = (resp, s', left) →
      resp.status = 500 ∨ resp.isCaptured = false → left.files = scene.files) ∧
    ∀ requests : List (Binary64 × Request), ∃ handled s' left texts content',
      (handleAll requests).run (s, scene) = (handled, s', left) ∧
      left.files.read s.log.path = .ok content' ∧
      List.Forall₂ (fun body text => decodeUtf8 body = .ok text) (capturedBodies requests handled) texts ∧
      content' = content ++ (texts.flatMap Log.linesFor).flatten ∧
      (Ended 10 13 content → (∀ text ∈ texts, Unbroken (Log.written text)) →
        byteLines content' = byteLines content ++ texts.flatMap Log.linesFor ∧
        (byteLines content').length =
          (byteLines content).length + (texts.filter fun text => Log.written text ≠ []).length) := by
  constructor
  · intro now r resp s' left hrun hreply
    obtain ⟨-, ⟨-, hfiles⟩ | ⟨hcaptured, -⟩⟩ := handle_keeps hrun
    · exact hfiles
    · rcases hreply with hstatus | hreply
      · rw [(Response.isCaptured_iff.mp hcaptured).1] at hstatus
        cases hstatus
      · rw [hreply] at hcaptured
        cases hcaptured
  · intro requests
    obtain ⟨handled, s', left, texts, hrun, htexts, hread⟩ := handleAll_captured requests h
    refine ⟨handled, s', left, texts, _, hrun, hread, htexts, rfl, fun hended hwhole => ?_⟩
    have hlines := Log.byteLines_append_texts hended hwhole
    refine ⟨hlines, ?_⟩
    rw [hlines, List.length_append, Log.length_flatMap_linesFor]

/-- A service that records into a log that holds this. -/
def grown (content : List UInt8) : Service × Scene :=
  (⟨pageLog, ⟨true, .zero, .zero⟩, 30, "*"⟩, { (default : Scene) with files := { (default : Files) with
    entries := [(["site"], .directory), (["site", "calls.jsonl"], .file content)] } })

def growRequests : List (Binary64 × Request) :=
  [[32, 49, 10], [32], [255]].map (fun body => (.zero, ⟨"POST", "/telemetry", body, none, none⟩)) ++
    [(.zero, ⟨"POST", "/stop", [], none, none⟩), (.zero, ⟨"POST", "/telemetry", [50], none, none⟩)]

theorem lines_captured_page : (grown [91, 10]).2.files.read (grown [91, 10]).1.log.path = .ok [91, 10] ∧
    ∃ handled s' left content', (handleAll growRequests).run (grown [91, 10]) = (handled, s', left) ∧
      left.files.read pageLog.path = .ok content' ∧ byteLines content' = [[91, 10], [49, 10]] := by
  have hread : (grown [91, 10]).2.files.read (grown [91, 10]).1.log.path = .ok [91, 10] := by decide +kernel
  obtain ⟨handled, s', left, texts, content', hrun, hlast, htexts, -, hlines⟩ :=
    (lines_captured hread).2 growRequests
  have hbodies : capturedBodies growRequests handled = [[32, 49, 10], [32]] := by
    have hhandled : handled = ((handleAll growRequests).run (grown [91, 10])).1 := (congrArg Prod.fst hrun).symm
    rw [hhandled]
    decide +kernel
  rw [hbodies] at htexts
  obtain rfl : texts = [" 1\n", " "] := by
    cases htexts with
    | cons hone htexts =>
      cases htexts with
      | cons hblank htexts =>
        cases htexts
        cases hone
        cases hblank
        rfl
  refine ⟨hread, handled, s', left, content', hrun, hlast, ?_⟩
  have hended : Ended (10 : UInt8) 13 [91, 10] := by
    intro b hb
    exact .inl (Option.some.inj hb).symm
  refine (hlines hended ?_).1.trans (by decide +kernel)
  have hone : Log.written " 1\n" = ['1'] := by decide +kernel
  have hblank : Log.written " " = [] := by decide +kernel
  simp [hone, hblank, Unbroken]

/-- Whether a body is captured, and the lines of the log behind it. -/
def grow (content body : List UInt8) : Bool × List (List UInt8) :=
  let (r, _, left) := (handle .zero ⟨"POST", "/telemetry", body, none, none⟩).run (grown content)
  (r.isCaptured, byteLines ((left.files.read pageLog.path).toOption.getD []))

/-- The body is captured, but not as one more line behind those of the log. -/
def Uncounted (content body : List UInt8) : Prop :=
  (grow content body).1 = true ∧ ∀ line, (grow content body).2 ≠ byteLines content ++ [line]

lemma uncounted_of_length {content body : List UInt8} (hcaptured : (grow content body).1 = true)
    (hlength : (grow content body).2.length ≠ (byteLines content).length + 1) : Uncounted content body :=
  ⟨hcaptured, fun line h => hlength (by rw [h, List.length_append, List.length_singleton])⟩

/-- No line is added for a blank body. A line end within a body ends a line, and a line that was cut off
goes on with what comes next. -/
theorem captured_without_line :
    Uncounted [91, 10] [32] ∧ Uncounted [91, 10] [49, 10, 50] ∧ Uncounted [91] [49] :=
  ⟨uncounted_of_length (by decide +kernel) (by decide +kernel),
    uncounted_of_length (by decide +kernel) (by decide +kernel),
    uncounted_of_length (by decide +kernel) (by decide +kernel)⟩

end Service

end CallSnapshot
