import CallSnapshot.Collector.Service
import CallSnapshot.Proofs.Log.Storing

/-!
The collector under messages from any number of programs, in whatever order they arrive. The log
holds the calls that were sent while recording was on and could be stored, each once and in order.
-/

namespace CallSnapshot

open Acting Text

namespace Log

/-- The line of a call: one line, without blanks around it. -/
structure EventLine (line : String) : Prop where
  unbroken : Unbroken line.toList
  trimmed : trim line = line
  event : (eventOn? line).isSome = true

variable {log : Log} {fs : Files} {lines : List String} {line : String} {scene : Scene}

lemma EventLine.toLine (h : EventLine line) : Line line := by
  refine ⟨h.unbroken, h.trimmed, ?_⟩
  rintro rfl
  cases h.event

lemma EventLine.of_print {members : List (String × Json)} (hd : (Json.obj members).Faithful)
    (h : Json.print Json.compact (.obj members) = .ok line)
    (hevent : ((Record.ofData? (.obj members)).bind (decoded? none)).isSome = true) : EventLine line := by
  obtain ⟨hline, hrecord⟩ := recordOn?_print hd h
  exact ⟨hline.unbroken, hline.trimmed, by rwa [eventOn?, hrecord]⟩

lemma store_eq (log : Log) (line : String) : Service.store log (encodeUtf8 line) = log.appendLine line := by
  unfold Service.store
  rw [decodeUtf8_encodeUtf8]

lemma read_holds (h : log.Holds scene.files lines) (hlines : ∀ line ∈ lines, EventLine line) :
    ((log.read).run.run scene).1 = .ok (lines.filterMap eventOn?) := by
  obtain ⟨s₁, hrecords⟩ := records_holds h fun line hline => (hlines line hline).unbroken
  obtain ⟨s₂, hevents, -⟩ := run_ofNoting (decodeRecords none (lines.filterMap fun l => recordOn? l.toList)) s₁
  unfold read
  rw [run_bind, hrecords]
  dsimp only
  rw [hevents, start_decodeRecords, List.filterMap_filterMap]
  rfl

end Log

/-- What programs and their users send. -/
inductive Message (ι : Type) where
  | record
  | stop
  | status
  | telemetry (sender : ι) (line : String)

/-- A message as it arrives, from a page or not. In an outage other files are found for the time of
the request, and lines cannot be added to the log. -/
structure Arrival (ι : Type) where
  time : Binary64
  message : Message ι
  origin : Option String
  outage : Option Files

/-- What becomes of a message. -/
inductive Verdict where
  | heard
  | captured
  | ignored
  | failed
  deriving DecidableEq

namespace Message

variable {ι : Type}

def method : Message ι → String
  | .status => "GET"
  | _ => "POST"

def path : Message ι → String
  | .record => "/record"
  | .stop => "/stop"
  | .status => "/status"
  | .telemetry .. => "/telemetry"

def body : Message ι → List UInt8
  | .telemetry _ line => encodeUtf8 line
  | _ => []

/-- Whether recording is on after a message. -/
def turns (on : Bool) : Message ι → Bool
  | .record => true
  | .stop => false
  | _ => on

end Message

namespace Arrival

variable {ι : Type}

def request (a : Arrival ι) : Request := ⟨a.message.method, a.message.path, a.message.body, a.origin, none⟩

def verdict (on : Bool) (a : Arrival ι) : Verdict :=
  match a.message with
  | .telemetry .. => if !on then .ignored else if a.outage.isSome then .failed else .captured
  | _ => .heard

/-- What becomes of the messages when they arrive in this order. -/
def verdicts : Bool → List (Arrival ι) → List Verdict
  | _, [] => []
  | on, a :: as => a.verdict on :: verdicts (a.message.turns on) as

def sent? (a : Arrival ι) : Option (ι × String) :=
  match a.message with
  | .telemetry i line => some (i, line)
  | _ => none

def kept? (on : Bool) (a : Arrival ι) : Option (ι × String) :=
  if a.verdict on = .captured then a.sent? else none

def captured : Bool → List (Arrival ι) → List (ι × String)
  | _, [] => []
  | on, a :: as => (a.kept? on).toList ++ captured (a.message.turns on) as

/-- The answer to an arrival, and the files as the request leaves them. -/
def serve (a : Arrival ι) : Serving (Response × Files) := fun (s, scene) =>
  let found := { scene with files := a.outage.getD scene.files }
  let (response, s, left) := (Service.handle a.time a.request).run (s, found)
  let scene := { left with files := if a.outage.isSome then scene.files else left.files }
  ((response, left.files), s, scene)

end Arrival

namespace Verdict

/-- The replies that say so. -/
def Says : Verdict → Response → Prop
  | .heard, r => r.status = 200
  | .captured, r => r.status = 200 ∧ r.body = .data (.obj [("status", .str "captured")])
  | .ignored, r =>
    r.status = 200 ∧ r.body = .data (.obj [("status", .str "ignored"), ("reason", .str "not_recording")])
  | .failed, r => r.status = 500

end Verdict

namespace Service

variable (now : Binary64) (s : Service) (scene : Scene) (origin : Option String)

lemma route?_record : route? "/record" = some ("/record", "POST") := by decide

lemma route?_stop : route? "/stop" = some ("/stop", "POST") := by decide

lemma route?_status : route? "/status" = some ("/status", "GET") := by decide

lemma route?_telemetry : route? "/telemetry" = some ("/telemetry", "POST") := by decide

lemma answer_record : (answer now ⟨"POST", "/record", [], origin, none⟩).run (s, scene) =
    (reply [("is_recording", .bool true)], ({ s with recording := s.recording.start now },
      scene.add (.info "Recording started."))) := by
  unfold answer
  rw [route?_record]
  rfl

lemma answer_stop : (answer now ⟨"POST", "/stop", [], origin, none⟩).run (s, scene) =
    (reply [("is_recording", .bool false)], ({ s with recording := s.recording.stop },
      scene.add (.info "Recording stopped."))) := by
  unfold answer
  rw [route?_stop]
  rfl

lemma answer_status : (answer now ⟨"GET", "/status", [], origin, none⟩).run (s, scene) =
    (statusReply now s, (s, scene)) := by
  unfold answer
  rw [route?_status]
  rfl

lemma answer_telemetry (body : List UInt8) :
    (answer now ⟨"POST", "/telemetry", body, origin, none⟩).run (s, scene) =
      (take now body).run (s, scene) := by
  unfold answer
  rw [route?_telemetry]
  rfl

/-- A page is answered as others are, but for what the answer says of pages. -/
lemma handle_of_answer {ι : Type} (m : Message ι) {r : Response} {state : Service × Scene}
    (h : (answer now ⟨m.method, m.path, m.body, origin, none⟩).run (s, scene) = (r, state)) :
    (handle now ⟨m.method, m.path, m.body, origin, none⟩).run (s, scene) =
      ({ r with allowedOrigin := origin.elim r.allowedOrigin s.letIn }, state) := by
  have hhandle : (handle now ⟨m.method, m.path, m.body, origin, none⟩).run (s, scene) =
      let (r, t) := (answer now ⟨m.method, m.path, m.body, origin, none⟩).run (s, scene)
      ({ r with allowedOrigin := origin.elim r.allowedOrigin s.letIn }, t) := by
    cases m <;> cases origin <;> rfl
  rw [hhandle, h]

lemma take_off (h : s.recording.isOn = false) (body : List UInt8) :
    (take now body).run (s, scene) =
      (reply [("status", .str "ignored"), ("reason", .str "not_recording")], (s, scene)) := by
  simp only [take, StateT.run_bind, StateT.run_get, pure_bind, h, Bool.not_false, if_true, StateT.run_pure]
  rfl

lemma take_on (h : s.recording.isOn = true) (body : List UInt8) :
    (take now body).run (s, scene) =
      let t := { s with recording := s.recording.touch now }
      match (store s.log body).run.run scene with
      | (.ok (), left) => (reply [("status", .str "captured")], (t, left))
      | (.error f, left) => (⟨500, .data (.obj [("error", .str f.message)]), none⟩,
          (t, left.add ⟨.error, "Failed to store capture event: ", some f⟩)) := by
  have htouch : (onRecording (·.touch now)).run (s, scene) =
      pure ((), ({ s with recording := s.recording.touch now }, scene)) := rfl
  unfold take
  simp only [StateT.run_bind, StateT.run_get, pure_bind, h, Bool.not_true, Bool.false_eq_true, if_false, htouch]
  rcases hr : (store s.log body).run.run scene with ⟨f | ⟨⟩, left⟩ <;> rfl

end Service

lemma Scene.add_files (scene : Scene) (n : Note) : (scene.add n).files = scene.files := by
  unfold Scene.add
  split <;> rfl

/-- A service at a log that holds these lines, with recording on or off. -/
structure Standing (log : Log) (on : Bool) (lines : List String) (state : Service × Scene) : Prop where
  at_log : state.1.log = log
  isOn : state.1.recording.isOn = on
  holds : log.Holds state.2.files lines

namespace Arrival

variable {ι : Type} {log : Log} {on : Bool} {lines : List String} {s : Service} {found : Scene} {a : Arrival ι}

/-- What programs send are calls, and an outage is one. -/
structure Sound (log : Log) (a : Arrival ι) : Prop where
  line : ∀ i line, a.message = .telemetry i line → Log.EventLine line
  outage : ∀ gs, a.outage = some gs → ∀ bs, ∃ e, gs.append log.path bs = .error e

/-- What an answer says, and that an outage leaves the files as it found them. -/
def Answered (a : Arrival ι) (on : Bool) (answer : Response × Files) : Prop :=
  (a.verdict on).Says answer.1 ∧ ∀ gs, a.outage = some gs → answer.2 = gs

lemma captured_cases (h : a.verdict on = .captured) :
    ∃ i line, a.message = .telemetry i line ∧ a.outage = none := by
  obtain ⟨time, message, origin, outage⟩ := a
  cases message with
  | telemetry i line => cases on <;> cases outage <;> simp [verdict] at h ⊢
  | _ => cases h

lemma failed_cases (h : a.verdict on = .failed) :
    ∃ i line gs, a.message = .telemetry i line ∧ a.outage = some gs := by
  obtain ⟨time, message, origin, outage⟩ := a
  cases message with
  | telemetry i line => cases on <;> cases outage <;> simp [verdict] at h ⊢
  | _ => cases h

/-- A request handled: what is said and known afterwards. -/
structure Handles (a : Arrival ι) (s : Service) (found : Scene) (r : Response) (s' : Service) (left : Scene) :
    Prop where
  run : (Service.handle a.time a.request).run (s, found) = (r, (s', left))
  told : (a.verdict s.recording.isOn).Says r
  log : s'.log = s.log
  isOn : s'.recording.isOn = a.message.turns s.recording.isOn

lemma exists_handles (found : Scene) (h : a.verdict s.recording.isOn = .heard ∨ a.verdict s.recording.isOn = .ignored) :
    ∃ r s' left, a.Handles s found r s' left ∧ left.files = found.files := by
  obtain ⟨time, message, origin, outage⟩ := a
  cases message with
  | record =>
    refine ⟨_, _, _, ⟨Service.handle_of_answer time s found origin (Message.record (ι := ι))
      (Service.answer_record time s found origin), ?_, ?_, ?_⟩, Scene.add_files _ _⟩ <;> rfl
  | stop =>
    refine ⟨_, _, _, ⟨Service.handle_of_answer time s found origin (Message.stop (ι := ι))
      (Service.answer_stop time s found origin), ?_, ?_, ?_⟩, Scene.add_files _ _⟩ <;> rfl
  | status =>
    refine ⟨_, _, _, ⟨Service.handle_of_answer time s found origin (Message.status (ι := ι))
      (Service.answer_status time s found origin), ?_, ?_, ?_⟩, ?_⟩ <;> rfl
  | telemetry i line =>
    have hoff : s.recording.isOn = false := by
      cases hon : s.recording.isOn with
      | false => rfl
      | true => cases outage <;> simp [verdict, hon] at h
    refine ⟨_, _, _, ⟨Service.handle_of_answer time s found origin (.telemetry i line)
      ((Service.answer_telemetry time s found origin (encodeUtf8 line)).trans
        (Service.take_off time s found hoff _)), ?_, rfl, rfl⟩, rfl⟩
    rw [hoff]
    exact ⟨rfl, rfl⟩

lemma exists_handles_captured (found : Scene) (hlog : s.log = log) (h : log.Holds found.files lines) {i : ι} {line : String}
    (hm : a.message = .telemetry i line) (hv : a.verdict s.recording.isOn = .captured)
    (hline : Log.EventLine line) :
    ∃ r s' left, a.Handles s found r s' left ∧ log.Holds left.files (lines ++ [line]) := by
  obtain ⟨time, message, origin, outage⟩ := a
  obtain rfl : message = .telemetry i line := hm
  subst hlog
  have hon : s.recording.isOn = true := by
    cases hon : s.recording.isOn with
    | true => rfl
    | false => simp [verdict, hon] at hv
  obtain ⟨left, hstore, hholds⟩ := Log.appendLine_holds h hline.toLine
  rw [← Log.store_eq] at hstore
  have hanswer := (Service.answer_telemetry time s found origin (encodeUtf8 line)).trans
    (Service.take_on time s found hon _)
  rw [hstore] at hanswer
  refine ⟨_, _, left, ⟨Service.handle_of_answer time s found origin (.telemetry i line) hanswer, ?_, rfl,
    rfl⟩, hholds⟩
  rw [hv]
  exact ⟨rfl, rfl⟩

lemma exists_handles_failed (found : Scene) (h : ∀ bs, ∃ e, found.files.append s.log.path bs = .error e)
    {i : ι} {line : String} (hm : a.message = .telemetry i line)
    (hv : a.verdict s.recording.isOn = .failed) (hline : Log.EventLine line) :
    ∃ r s' left, a.Handles s found r s' left ∧ left.files = found.files := by
  obtain ⟨time, message, origin, outage⟩ := a
  obtain rfl : message = .telemetry i line := hm
  have hon : s.recording.isOn = true := by
    cases hon : s.recording.isOn with
    | true => rfl
    | false => simp [verdict, hon] at hv
  obtain ⟨e, he⟩ := h (encodeUtf8 (line ++ "\n"))
  obtain ⟨f, hstore⟩ := Log.appendLine_fails he hline.toLine
  rw [← Log.store_eq] at hstore
  have hanswer := (Service.answer_telemetry time s found origin (encodeUtf8 line)).trans
    (Service.take_on time s found hon _)
  rw [hstore] at hanswer
  refine ⟨_, _, _, ⟨Service.handle_of_answer time s found origin (.telemetry i line) hanswer, ?_, rfl, rfl⟩,
    Scene.add_files _ _⟩
  rw [hv]
  rfl

section Serve

variable {scene left : Scene} {s' : Service} {r : Response}

lemma serve_of_handles (h : a.Handles s { scene with files := a.outage.getD scene.files } r s' left) :
    a.serve.run (s, scene) =
      ((r, left.files), s', { left with files := if a.outage.isSome then scene.files else left.files }) := by
  have hserve : a.serve.run (s, scene) =
      (fun x : Response × Service × Scene => ((x.1, x.2.2.files), x.2.1,
        { x.2.2 with files := if a.outage.isSome then scene.files else x.2.2.files }))
      ((Service.handle a.time a.request).run (s, { scene with files := a.outage.getD scene.files })) := rfl
  rw [hserve, h.run]

lemma serve_unchanged (h : Standing log on lines (s, scene)) (hkept : a.kept? on = none)
    (hh : a.Handles s { scene with files := a.outage.getD scene.files } r s' left)
    (hfiles : left.files = a.outage.getD scene.files) :
    ∃ answer next, a.serve.run (s, scene) = (answer, next) ∧ a.Answered on answer ∧
      Standing log (a.message.turns on) (lines ++ (a.kept? on).toList.map Prod.snd) next := by
  obtain ⟨hlog, rfl, hholds⟩ := h
  refine ⟨_, _, serve_of_handles hh, ⟨hh.told, ?_⟩, hh.log.trans hlog, hh.isOn, ?_⟩
  · intro gs hgs
    rw [hgs] at hfiles
    exact hfiles
  · have hsame : (if a.outage.isSome then scene.files else left.files) = scene.files := by
      split
      · rfl
      · rename_i hnone
        rw [hfiles, Option.not_isSome_iff_eq_none.mp hnone]
        rfl
    rw [hkept, Option.toList_none, List.map_nil, List.append_nil]
    change log.Holds (if a.outage.isSome then scene.files else left.files) lines
    rwa [hsame]

end Serve

/-- One message: the answer says what became of it, and the log holds its line where it was captured. -/
lemma serve_standing {state : Service × Scene} (h : Standing log on lines state) (ha : a.Sound log) :
    ∃ answer next, a.serve.run state = (answer, next) ∧ a.Answered on answer ∧
      Standing log (a.message.turns on) (lines ++ (a.kept? on).toList.map Prod.snd) next := by
  obtain ⟨s, scene⟩ := state
  have hon : s.recording.isOn = on := h.isOn
  have hlog : s.log = log := h.at_log
  cases hv : a.verdict on with
  | heard =>
    obtain ⟨r, s', left, hh, hfiles⟩ := a.exists_handles (s := s)
      { scene with files := a.outage.getD scene.files } (.inl (hon ▸ hv))
    exact serve_unchanged h (by rw [kept?, hv]; rfl) hh hfiles
  | ignored =>
    obtain ⟨r, s', left, hh, hfiles⟩ := a.exists_handles (s := s)
      { scene with files := a.outage.getD scene.files } (.inr (hon ▸ hv))
    exact serve_unchanged h (by rw [kept?, hv]; rfl) hh hfiles
  | failed =>
    obtain ⟨i, line, gs, hm, hgs⟩ := failed_cases hv
    obtain ⟨r, s', left, hh, hfiles⟩ := exists_handles_failed (s := s)
      { scene with files := a.outage.getD scene.files }
      (by rw [hgs, hlog]; exact ha.outage gs hgs) hm (hon ▸ hv) (ha.line i line hm)
    exact serve_unchanged h (by rw [kept?, hv]; rfl) hh hfiles
  | captured =>
    obtain ⟨i, line, hm, hnone⟩ := captured_cases hv
    obtain ⟨r, s', left, hh, hholds⟩ := exists_handles_captured (s := s)
      { scene with files := a.outage.getD scene.files } hlog
      (by rw [hnone]; exact h.holds) hm (hon ▸ hv) (ha.line i line hm)
    have hkept : a.kept? on = some (i, line) := by rw [kept?, hv, if_pos rfl, sent?, hm]
    refine ⟨_, _, serve_of_handles hh, ⟨hon ▸ hh.told, fun gs hgs => ?_⟩, hh.log.trans hlog,
      hon ▸ hh.isOn, ?_⟩
    · rw [hnone] at hgs
      cases hgs
    · rw [hkept]
      simpa [hnone] using hholds

lemma mapM_serve_standing {state : Service × Scene} {arrivals : List (Arrival ι)}
    (h : Standing log on lines state) (ha : ∀ a ∈ arrivals, a.Sound log) :
    ∃ answers next, (arrivals.mapM serve).run state = (answers, next) ∧
      List.Forall₂ Verdict.Says (verdicts on arrivals) (answers.map Prod.fst) ∧
      List.Forall₂ (fun a answer => ∀ gs, a.outage = some gs → answer.2 = gs) arrivals answers ∧
      ∃ on', Standing log on' (lines ++ (captured on arrivals).map Prod.snd) next := by
  induction arrivals generalizing on lines state with
  | nil => exact ⟨[], state, rfl, .nil, .nil, on, by simpa [captured] using h⟩
  | cons a arrivals ih =>
    obtain ⟨answer, next, hserve, ⟨htold, hleft⟩, hnext⟩ := serve_standing h (ha a List.mem_cons_self)
    obtain ⟨answers, last, hrun, hverdicts, hfound, on', hlast⟩ :=
      ih hnext fun b hb => ha b (List.mem_cons_of_mem a hb)
    refine ⟨answer :: answers, last, ?_, .cons htold hverdicts, .cons hleft hfound, on', ?_⟩
    · rw [List.mapM_cons, StateT.run_bind, hserve]
      change ((arrivals.mapM serve >>= fun answers => pure (answer :: answers)).run next) = _
      rw [StateT.run_bind, hrun]
      rfl
    · rw [captured, List.map_append, ← List.append_assoc]
      exact hlast

lemma captured_sublist (on : Bool) (arrivals : List (Arrival ι)) :
    (captured on arrivals).Sublist (arrivals.filterMap sent?) := by
  induction arrivals generalizing on with
  | nil => exact .slnil
  | cons a arrivals ih =>
    rw [captured, List.filterMap_cons, kept?]
    split
    · cases a.sent? with
      | none => exact ih _
      | some x => exact (ih _).cons_cons x
    · cases a.sent? with
      | none => exact ih _
      | some x => exact (ih _).cons x

def eventOf? (sent : ι × String) : Option (ι × Event) := (Log.eventOn? sent.2).map (Prod.mk sent.1)

lemma isSome_eventOf? (on : Bool) {arrivals : List (Arrival ι)} (ha : ∀ a ∈ arrivals, a.Sound log) :
    ∀ x ∈ captured on arrivals, (eventOf? x).isSome = true ∧ Log.EventLine x.2 := by
  intro x hx
  obtain ⟨a, hmem, hsent⟩ := List.mem_filterMap.mp ((captured_sublist on arrivals).subset hx)
  have hline : Log.EventLine x.2 := by
    obtain ⟨time, message, origin, outage⟩ := a
    cases message with
    | telemetry i line =>
      obtain rfl := Option.some.inj hsent
      exact (ha _ hmem).line i line rfl
    | _ => cases hsent
  exact ⟨by rw [eventOf?, Option.isSome_map]; exact hline.event, hline⟩

end Arrival

lemma forall₂_filterMap {α β : Type} {f : α → Option β} {xs : List α} (h : ∀ x ∈ xs, (f x).isSome = true) :
    List.Forall₂ (fun x y => f x = some y) xs (xs.filterMap f) := by
  induction xs with
  | nil => exact .nil
  | cons x xs ih =>
    obtain ⟨y, hy⟩ := Option.isSome_iff_exists.mp (h x List.mem_cons_self)
    rw [List.filterMap_cons_some hy]
    exact .cons hy (ih fun z hz => h z (List.mem_cons_of_mem x hz))

/-- Messages of users and of any number of programs, in any order, some of them in an outage, at a
service that begins with an empty log. Afterwards the log is read as the calls that were captured,
each once and in the order in which they came; each answer says what became of its message, and an
outage changes nothing. So the calls of some programs are, in their order, among those they sent. -/
theorem Service.captures_in_order {ι : Type} {log : Log} {scene : Scene} {arrivals : List (Arrival ι)}
    (hempty : scene.files.read log.path = .ok []) (ha : ∀ a ∈ arrivals, a.Sound log)
    (begun : Binary64) (timeout : ℤ) (cors : String) :
    ∃ answers next events,
      (arrivals.mapM Arrival.serve).run (⟨log, .begin begun, timeout, cors⟩, scene) = (answers, next) ∧
      (log.read.run.run next.2).1 = .ok (events.map Prod.snd) ∧
      List.Forall₂ (fun x e => Arrival.eventOf? x = some e) (Arrival.captured false arrivals) events ∧
      List.Forall₂ Verdict.Says (Arrival.verdicts false arrivals) (answers.map Prod.fst) ∧
      List.Forall₂ (fun a answer => ∀ gs, a.outage = some gs → answer.2 = gs) arrivals answers ∧
      ∀ who : ι → Bool, (events.filter fun e => who e.1).Sublist
        (((arrivals.filterMap Arrival.sent?).filterMap Arrival.eventOf?).filter fun e => who e.1) := by
  have hstart : Standing log false [] (⟨log, .begin begun, timeout, cors⟩, scene) := ⟨rfl, rfl, hempty⟩
  obtain ⟨answers, next, hrun, htold, hleft, on, hlast⟩ := Arrival.mapM_serve_standing hstart ha
  have hall := Arrival.isSome_eventOf? false ha
  have hread := Log.read_holds hlast.holds fun line hline => by
    obtain ⟨x, hx, rfl⟩ := List.mem_map.mp hline
    exact (hall x hx).2
  refine ⟨answers, next, (Arrival.captured false arrivals).filterMap Arrival.eventOf?, hrun, ?_,
    forall₂_filterMap fun x hx => (hall x hx).1, htold, hleft, fun who => ?_⟩
  · rw [hread, List.nil_append, List.filterMap_map, List.map_filterMap]
    congr 1
    exact List.filterMap_congr fun x _ => by simp [Arrival.eventOf?, Function.comp_def]
  · exact ((Arrival.captured_sublist false arrivals).filterMap _).filter _

def pageLog : Log := ⟨.parse "/site/calls.jsonl"⟩

def pageScene : Scene :=
  { (default : Scene) with files := { (default : Files) with
      entries := [(["site"], .directory), (["site", "calls.jsonl"], .file [])] } }

def pageCall (name : String) : Json :=
  Event.recordData (.str name) [.int 1, .float (.finite false 3 (-1))] [("unit", .str "é\n")] .null (.str "noon")

def callLine (name : String) : String := (Json.print Json.compact (pageCall name)).toOption.getD ""

lemma eventLine_callLine (name : String) (hname : name ≠ "") : Log.EventLine (callLine name) := by
  obtain ⟨line, hline⟩ : ∃ line, Json.print Json.compact (pageCall name) = .ok line :=
    Json.print_eq_ok.mpr (by
      have hone : Numeral.Short 1 := Json.intChars_eq_ok.mp ⟨_, rfl⟩
      simp [pageCall, Event.recordData, Json.Printable, Json.PrintableItems, Json.PrintableMembers, hone])
  have hfaithful : (pageCall name).Faithful := by
    simp [pageCall, Event.recordData, Json.Faithful, Json.FaithfulItems, Json.FaithfulMembers, Binary64.Valid]
    decide
  have hevent : ((Record.ofData? (pageCall name)).bind (Log.decoded? none)).isSome = true := by
    have htrue : (Record.name ⟨[("fn_name", .str name)]⟩).isTrue = true := by
      simpa [Record.name, Json.find?, Json.isTrue] using hname
    change ((if (Record.name ⟨[("fn_name", .str name)]⟩).isTrue then some _ else none).bind _).isSome = true
    rw [if_pos htrue]
    rfl
  have heq : callLine name = line := by rw [callLine, hline]; rfl
  rw [heq]
  exact .of_print hfaithful hline hevent

/-- Two programs send lines before, while and after a user records, one of them in an outage. -/
def pageArrivals : List (Arrival Bool) := [
  ⟨.ofNat 1, .telemetry true (callLine "early"), none, none⟩,
  ⟨.ofNat 2, .record, some "http://a.example", none⟩,
  ⟨.ofNat 3, .telemetry true (callLine "one"), none, none⟩,
  ⟨.ofNat 4, .telemetry false (callLine "lost"), none, some default⟩,
  ⟨.ofNat 5, .telemetry false (callLine "é"), none, none⟩,
  ⟨.ofNat 6, .stop, none, none⟩,
  ⟨.ofNat 7, .telemetry true (callLine "late"), none, none⟩]

lemma sound_pageArrivals : ∀ a ∈ pageArrivals, a.Sound pageLog := by
  have outage : ∀ bs, ∃ e, Files.append default pageLog.path bs = .error e := fun _ => ⟨_, rfl⟩
  simp only [pageArrivals, List.forall_mem_cons, List.not_mem_nil, IsEmpty.forall_iff, implies_true, and_true]
  refine ⟨⟨?_, nofun⟩, ⟨nofun, nofun⟩, ⟨?_, nofun⟩, ⟨?_, ?_⟩, ⟨?_, nofun⟩, ⟨nofun, nofun⟩, ?_, nofun⟩
  case refine_4 =>
    rintro _ ⟨⟩
    exact outage
  all_goals
    rintro _ _ ⟨⟩
    exact eventLine_callLine _ (by decide)

theorem captures_in_order_pages :
    pageScene.files.read pageLog.path = .ok [] ∧ (∀ a ∈ pageArrivals, a.Sound pageLog) ∧
    ∃ answers next events,
      (pageArrivals.mapM Arrival.serve).run (⟨pageLog, .begin .zero, 30, "*"⟩, pageScene) = (answers, next) ∧
      (pageLog.read.run.run next.2).1 = .ok (events.map Prod.snd) ∧
      List.Forall₂ (fun x e => Arrival.eventOf? x = some e)
        [(true, callLine "one"), (false, callLine "é")] events ∧
      List.Forall₂ Verdict.Says [.ignored, .heard, .captured, .failed, .captured, .heard, .ignored]
        (answers.map Prod.fst) := by
  have hempty : pageScene.files.read pageLog.path = .ok [] := by decide +kernel
  obtain ⟨answers, next, events, hrun, hread, hevents, htold, -, -⟩ :=
    Service.captures_in_order hempty sound_pageArrivals .zero 30 "*"
  exact ⟨hempty, sound_pageArrivals, answers, next, events, hrun, hread, hevents, htold⟩

end CallSnapshot
