import CallSnapshot.Proofs.Log.Event
import CallSnapshot.Proofs.Replay.Reproduction

/-!
Recording beside replaying, for functions of every kind. Recording goes by the function: the end of a
call is waited for where the function is asynchronous. Replaying goes by what a call gives back, and
waits for work of any function. The two come to the same result but for plain functions that give back
work, as those do that stand before an asynchronous one: their records hold the work itself.
-/

namespace CallSnapshot

namespace Routine

variable {σ : Type} {f : Routine σ}

variable (f) (c : Call) (s : σ)

def defers : Bool :=
  !f.isAsync && match ((f.start c).run s).1 with
    | .ended _ => false
    | .later _ _ => true

def seen : Reply σ → Outcome
  | .ended o => o
  | .later c' _ => .value c' awaitable

/-- The end of a call as it is recorded: that of an asynchronous function once it is awaited, that of any
other as it comes back. -/
def witnessed : Outcome :=
  if f.isAsync then ((f.run c).run s).1 else seen ((f.start c).run s).1

/-- The plain form of work that nothing has waited for. -/
def unawaited : Value :=
  .dict [(.str "__class__", .str "builtins:coroutine"), (.str "repr", .str "<coroutine>")]

variable {f c s}

lemma witnessed_of_defers (h : f.defers c s = true) : ∃ c', f.witnessed c s = .value c' awaitable := by
  rw [defers, Bool.and_eq_true, Bool.not_eq_true'] at h
  obtain ⟨hplain, hlater⟩ := h
  rw [witnessed, hplain, if_neg (by simp)]
  cases hreply : ((f.start c).run s).1 with
  | ended o => simp [hreply] at hlater
  | later c' work => exact ⟨c', rfl⟩

lemma witnessed_of_not_defers (h : f.defers c s = false) : f.witnessed c s = ((f.run c).run s).1 := by
  rw [witnessed]
  cases hasync : f.isAsync with
  | true => rfl
  | false =>
    rw [if_neg (by simp), run_plain hasync]
    rw [defers, hasync, start_plain hasync] at h
    rw [start_plain hasync]
    cases hreply : ((f.body c).run s).1 with
    | later c' work => simp [hreply] at h
    | ended o => rfl

end Routine

namespace Recorder

open PureFunction (Told lineAfter?)

variable {σ τ : Type} [Noted τ]

/-- The state after a line is sent, where there is one. -/
def sent (r : Recorder τ) (line? : Option String) (t : τ) : τ := line?.elim t fun line => ((r.send line).run t).2

/-- Notes and lines leave a part of the state alone, which is that of the recorded function. -/
structure Spares (r : Recorder τ) (get : τ → σ) (set : σ → τ → τ) : Prop where
  get_set : ∀ s t, get (set s t) = s
  set_set : ∀ s s' t, set s' (set s t) = set s' t
  get_note : ∀ n t, get (Noted.note n t) = get t
  set_note : ∀ n s t, Noted.note n (set s t) = set s (Noted.note n t)
  set_send : ∀ line s t, ((r.send line).run (set s t)).2 = set s ((r.send line).run t).2

namespace Spares

variable {r : Recorder τ} {get : τ → σ} {set : σ → τ → τ} (h : r.Spares get set) (name : String)
  (f : Routine σ) (c : Call) (t : τ)

include h

lemma run_lift : ((f.lift get set).run c).run t = (((f.run c).run (get t)).1, set ((f.run c).run (get t)).2 t) := by
  have hbody : ((f.lift get set).body c).run t =
    (Routine.liftReply get set ((f.body c).run (get t)).1, set ((f.body c).run (get t)).2 t) := rfl
  cases ha : f.isAsync with
  | true =>
    rw [Routine.run_async (f := f.lift get set) ha, Routine.run_async ha, hbody]
    cases ((f.body c).run (get t)).1 <;> rfl
  | false =>
    rw [Routine.run_plain (f := f.lift get set) ha, Routine.run_plain ha, hbody]
    rcases (f.body c).run (get t) with ⟨o | ⟨c', work⟩, s⟩
    · rfl
    · simp only [Routine.liftReply, Routine.finish, Routine.within, StateT.run, h.get_set, h.set_set]

lemma run_captureOutcome (a : Option Arguments) (o : Outcome) (s : σ) : ∃ t',
    Told (r.sent (lineAfter? r.time name a o) t) t' ∧
      (r.captureOutcome name a o).run (set s t) = ((), set s t') := by
  obtain ⟨t', hrun, htold⟩ := PureFunction.told_captureOutcome name r a o (set s t)
  have hsent : (lineAfter? r.time name a o).elim (set s t) (fun line => ((r.send line).run (set s t)).2) =
      set s (r.sent (lineAfter? r.time name a o) t) := by
    cases lineAfter? r.time name a o with
    | none => rfl
    | some line => exact h.set_send line s t
  rw [hsent] at htold
  rcases htold with rfl | ⟨n, rfl⟩
  · exact ⟨_, .inl rfl, hrun⟩
  · exact ⟨_, .inr ⟨n, rfl⟩, hrun.trans (by rw [h.set_note])⟩

lemma run_around (o : Outcome) (s : σ) : ∃ t₁ t',
    (entryArguments name c).run t = ((Arguments.ofCall c).toOption, t₁) ∧ get t₁ = get t ∧
      Told (r.sent (lineAfter? r.time name (Arguments.ofCall c).toOption o) t) t' ∧
      (r.captureOutcome name (Arguments.ofCall c).toOption o).run (set s t₁) = ((), set s t') := by
  obtain ⟨t₁, hentry, htold⟩ := PureFunction.told_entryArguments name c t
  cases hc : Arguments.ofCall c with
  | error e =>
    rw [hc] at hentry
    refine ⟨t₁, t₁, hentry, ?_, htold, rfl⟩
    rcases htold with rfl | ⟨n, rfl⟩
    · rfl
    · exact h.get_note n t
  | ok a =>
    have hsame : (entryArguments name c).run t = (some a, t) := by rw [entryArguments, hc]; rfl
    obtain ⟨t', htold', hcapture⟩ := h.run_captureOutcome name t (some a) o s
    exact ⟨t, t', hsame, rfl, htold', hcapture⟩

lemma start_record_plain (ha : f.isAsync = false) : ∃ t',
    Told (r.sent (lineAfter? r.time name (Arguments.ofCall c).toOption (f.witnessed c (get t))) t) t' ∧
      ((r.record name (f.lift get set)).start c).run t =
        (Routine.liftReply get set ((f.start c).run (get t)).1, set ((f.start c).run (get t)).2 t') := by
  rw [Routine.witnessed, ha, if_neg (by simp), Routine.start_plain ha]
  obtain ⟨t₁, t', hentry, hget, htold, hcapture⟩ := h.run_around name c t
    (Routine.seen ((f.body c).run (get t)).1) ((f.body c).run (get t)).2
  have hbody : ((f.lift get set).body c).run t₁ =
      (Routine.liftReply get set ((f.body c).run (get t)).1, set ((f.body c).run (get t)).2 t₁) := by
    rw [← hget]
    rfl
  have hreply : ∀ a, r.captureReply name a (Routine.liftReply get set ((f.body c).run (get t)).1) =
      r.captureOutcome name a (Routine.seen ((f.body c).run (get t)).1) := by
    intro a
    cases ((f.body c).run (get t)).1 <;> rfl
  rw [← hreply] at hcapture
  exact ⟨t', htold, Recorder.start_record_plain (f := f.lift get set) ha hentry hbody hcapture⟩

/-- A recorded function ends as it does bare, and leaves its state as it does bare; its line is sent, if it
has one. -/
lemma run_record : ∃ t',
    Told (r.sent (lineAfter? r.time name (Arguments.ofCall c).toOption (f.witnessed c (get t))) t) t' ∧
      ((r.record name (f.lift get set)).run c).run t =
        (((f.run c).run (get t)).1, set ((f.run c).run (get t)).2 t') := by
  cases ha : f.isAsync with
  | true =>
    rw [Routine.witnessed, ha, if_pos rfl]
    obtain ⟨t₁, t', hentry, hget, htold, hcapture⟩ := h.run_around name c t
      ((f.run c).run (get t)).1 ((f.run c).run (get t)).2
    have hrun := h.run_lift f c t₁
    rw [hget] at hrun
    exact ⟨t', htold, Recorder.run_record_async (f := f.lift get set) ha hentry hrun hcapture⟩
  | false =>
    obtain ⟨t', htold, hstart⟩ := h.start_record_plain name f c t ha
    refine ⟨t', htold, (Recorder.run_record_plain hstart).trans ?_⟩
    rw [Routine.run_plain ha, Routine.start_plain ha]
    rcases (f.body c).run (get t) with ⟨o | ⟨c', work⟩, s⟩
    · rfl
    · simp only [Routine.liftReply, Routine.finish, Routine.within, StateT.run, h.get_set, h.set_set]

end Spares

end Recorder

/-- What recorded calls of a function leave: its own state, the lines that are handed over, and notes. -/
structure Logged (σ : Type) where
  state : σ
  lines : List String
  notes : List Note

namespace Logged

variable {σ : Type}

instance : Noted (Logged σ) := ⟨fun n t => { t with notes := t.notes ++ [n] }⟩

def recorder (time : String) : Recorder (Logged σ) :=
  ⟨time, fun line t => (.ok (), { t with lines := t.lines ++ [line] })⟩

def routine (f : Routine σ) : Routine (Logged σ) := f.lift state fun s t => { t with state := s }

lemma spares_recorder (time : String) :
    (recorder time).Spares (state (σ := σ)) fun s t => { t with state := s } where
  get_set _ _ := rfl
  set_set _ _ _ := rfl
  get_note _ _ := rfl
  set_note _ _ _ := rfl
  set_send _ _ _ := rfl

variable (f : Routine σ) (c : Call) (t : Logged σ)

lemma run_routine : ((routine f).run c).run t =
    (((f.run c).run t.state).1, { t with state := ((f.run c).run t.state).2 }) :=
  (spares_recorder "").run_lift f c t

lemma run_record (time name : String) : ∃ notes, (((recorder time).record name (routine f)).run c).run t =
    (((f.run c).run t.state).1, ⟨((f.run c).run t.state).2, t.lines ++ (PureFunction.lineAfter? time name
      (Recorder.Arguments.ofCall c).toOption (f.witnessed c t.state)).toList, notes⟩) := by
  obtain ⟨t', htold, hrun⟩ := (spares_recorder time).run_record name f c t
  have hlines : t'.lines = t.lines ++ (PureFunction.lineAfter? time name
      (Recorder.Arguments.ofCall c).toOption (f.witnessed c t.state)).toList := by
    have hsent : t'.lines = ((recorder time).sent (PureFunction.lineAfter? time name
        (Recorder.Arguments.ofCall c).toOption (f.witnessed c t.state)) t).lines := by
      rcases htold with rfl | ⟨n, rfl⟩ <;> rfl
    rw [hsent]
    cases PureFunction.lineAfter? time name (Recorder.Arguments.ofCall c).toOption (f.witnessed c t.state) with
    | none => exact (List.append_nil _).symm
    | some line => rfl
  exact ⟨t'.notes, by rw [← hlines]; exact hrun⟩

end Logged

/-- A call that there can be: its values hold what such values can, no argument is named twice. -/
structure Call.Sound (c : Call) : Prop where
  heap : ∀ x ∈ c.heap, x.Sound
  args : ∀ v ∈ c.args, v.Sound
  kwargs : ∀ k ∈ c.kwargs, k.2.Sound
  names : (c.kwargs.map Prod.fst).Nodup

def Call.Recordable (c : Call) : Prop :=
  ∃ a, Recorder.Arguments.ofCall c = .ok a ∧
    (∀ d ∈ a.args, d.Printable) ∧ ∀ m ∈ a.kwargs, m.2.Printable

namespace Recorder

variable {c : Call} {a : Arguments}

lemma Arguments.faithful_ofCall (hc : c.Sound) (h : ofCall c = .ok a) :
    (∀ d ∈ a.args, d.Faithful) ∧ (a.kwargs.map Prod.fst).Nodup ∧ ∀ m ∈ a.kwargs, m.2.Faithful := by
  obtain ⟨ds, hds, h⟩ := bind_eq_ok.mp h
  obtain ⟨ms, hms, h⟩ := bind_eq_ok.mp h
  cases h
  obtain ⟨hkeys, hvalues⟩ := Event.forall₂_named (Codec.encodeKwargs_eq_ok.mp hms)
  refine ⟨Value.forall_right (Codec.mapM_eq_ok.mp hds) fun v hv d hd =>
    Codec.faithful_encode hc.heap (hc.args v hv) hd, hkeys ▸ hc.names, ?_⟩
  refine List.forall_mem_map.mp (Value.forall_right hvalues fun v hv d hd => ?_)
  obtain ⟨k, hk, rfl⟩ := List.mem_map.mp hv
  exact Codec.faithful_encode hc.heap (hc.kwargs k hk) hd

lemma lineOf_legible (hc : c.Sound) (ha : Arguments.ofCall c = .ok a) (time name : String) {heap : Heap}
    {v : Value} {data : Json} (hdata : Codec.encode heap v = .ok data) (hl : data.Legible) :
    ((∃ line, lineOf time name a heap v = .ok line) ↔
      (∀ d ∈ a.args, d.Printable) ∧ ∀ m ∈ a.kwargs, m.2.Printable) ∧
    ∀ line, lineOf time name a heap v = .ok line →
      Json.parse line = .ok (.obj (Event.members (.str name) a.args a.kwargs data (.str time))) := by
  have hline : lineOf time name a heap v =
      Json.print Json.compact (Event.recordData (.str name) a.args a.kwargs data (.str time)) := by
    rw [lineOf, hdata]
    rfl
  obtain ⟨hargs, hnames, hkwargs⟩ := Arguments.faithful_ofCall hc ha
  rw [hline]
  refine ⟨?_, fun line h => ?_⟩
  · rw [Json.print_eq_ok, Event.recordData_printable, and_iff_left hl.printable]
  · exact (Json.print_object (Event.recordData_faithful name time hargs ⟨hnames, hkwargs⟩ hl.faithful) h).2.2

end Recorder

def Record.result (r : Record) : Noting Value :=
  Codec.decode none ((Json.find? "result" r.members).getD .null)

lemma Event.result_ofRecord {mode : Codec.Mode} {r : Record} {e : Event}
    (h : (ofRecord mode r).start.1 = .ok e) : r.result.start.1 = .ok e.result := by
  have hrun : (ofRecord mode r).run.run [] = (.ok e, ((ofRecord mode r).run.run []).2) := Prod.ext h rfl
  obtain ⟨name, ns, -, hrest⟩ := run_bind_eq_ok.mp hrun
  obtain ⟨args, ns₁, -, hrest⟩ := run_bind_eq_ok.mp hrest
  obtain ⟨kw, ns₂, -, hrest⟩ := run_bind_eq_ok.mp hrest
  obtain ⟨kwargs, ns₃, -, hrest⟩ := run_bind_eq_ok.mp hrest
  obtain ⟨result, ns₄, hresult, hrest⟩ := run_bind_eq_ok.mp hrest
  cases hrest
  have hsteady : (Codec.decode none ((Json.find? "result" r.members).getD .null)).run.run ns₃ = _ :=
    Codec.steady_decode _ ns₃
  exact congrArg Prod.fst (hsteady.symm.trans hresult)

namespace Logged

variable {σ : Type} {f : Routine σ} {c : Call} {s s' : σ} {o : Outcome} {v w : Value}

lemma decode_awaitable (heap : Heap) : ∃ data, Codec.encode heap Routine.awaitable = .ok data ∧
    data.Legible ∧ (Codec.decode none data).start.1 = .ok Routine.unawaited := by
  refine ⟨_, rfl, Json.legible_obj.mpr ⟨by decide, ?_⟩, rfl⟩
  simpa using ⟨Json.legible_str _, Json.legible_str _, Json.legible_str _⟩

lemma encode_witnessed (hrun : (f.run c).run s = (o, s')) (hvalue : o.result = .ok v)
    (hheap : ∀ x ∈ o.call.heap, x.Sound) (hv : v.Sound)
    (hnormal : (Codec.normalize o.call.heap v).start.1 = .ok w) :
    ∃ u data, (f.witnessed c s).result = .ok u ∧ Codec.encode (f.witnessed c s).call.heap u = .ok data ∧
      data.Legible ∧
      (Codec.decode none data).start.1 = .ok (if f.defers c s then Routine.unawaited else w) := by
  -- Work is recorded as what it is when it comes back, whatever it comes to later.
  cases hd : f.defers c s with
  | true =>
    obtain ⟨c', hc'⟩ := Routine.witnessed_of_defers hd
    obtain ⟨data, hdata, hl, hdecode⟩ := decode_awaitable c'.heap
    rw [hc']
    exact ⟨Routine.awaitable, data, rfl, hdata, hl, hdecode⟩
  | false =>
    obtain ⟨data, hdata, hl, hdecode⟩ := Codec.normalize_eq_ok hheap hv hnormal
    rw [Routine.witnessed_of_not_defers hd, hrun]
    exact ⟨v, data, hvalue, hdata, hl, hdecode⟩

lemma run_newResult (hrun : (f.run c).run s = (o, s')) (hvalue : o.result = .ok v)
    (hnormal : (Codec.normalize o.call.heap v).start.1 = .ok w) {e : Event} (hargs : e.args = c.args)
    (hkwargs : e.kwargs = c.kwargs) (lines : List String) (notes : List Note) : ∃ t',
    (Replaying.newResult (routine f) e c.heap).run.run ⟨s, lines, notes⟩ = (.ok (.ok w), t') := by
  have hcall : (((routine f).run ⟨e.args, e.kwargs, c.heap⟩ : StateM (Logged σ) Outcome) :
      Trying (Logged σ) Outcome).run.run ⟨s, lines, notes⟩ = (.ok o, ⟨s', lines, notes⟩) := by
    rw [hargs, hkwargs]
    change (Except.ok (((routine f).run c).run ⟨s, lines, notes⟩).1,
      (((routine f).run c).run ⟨s, lines, notes⟩).2) = _
    rw [run_routine, hrun]
  obtain ⟨t', hnoting⟩ :=
    Replaying.run_noting (Codec.normalize o.call.heap v) (⟨s', lines, notes⟩ : Logged σ)
  refine ⟨t', run_bind_eq_ok.mpr ⟨o, _, hcall, ?_⟩⟩
  rw [hvalue, ← hnormal]
  exact hnoting

/-- A call that comes to a value with a plain form, awaited or not. Recorded, it ends as it does bare, and
hands over one line, where its arguments can be recorded; the result on that line is the plain form,
but for a plain function that gives back work: there it is that of the work itself. Replaying the call
comes to the plain form in every case. -/
theorem recorded_and_replayed (hc : c.Sound) (hrun : (f.run c).run s = (o, s')) (hvalue : o.result = .ok v)
    (hheap : ∀ x ∈ o.call.heap, x.Sound) (hv : v.Sound)
    (hnormal : (Codec.normalize o.call.heap v).start.1 = .ok w)
    (time name : String) (lines : List String) (notes : List Note) :
    (∃ (line? : Option String) (notes' : List Note),
      (((recorder time).record name (routine f)).run c).run ⟨s, lines, notes⟩ =
        (o, ⟨s', lines ++ line?.toList, notes'⟩) ∧
      (line?.isSome ↔ c.Recordable) ∧
      ∀ line ∈ line?, ∃ r : Record, Json.parse line = .ok (.obj r.members) ∧
        r.result.start.1 = .ok (if f.defers c s then Routine.unawaited else w) ∧
        ∀ mode e, (Event.ofRecord mode r).start.1 = .ok e →
          e.result = if f.defers c s then Routine.unawaited else w) ∧
    ∀ e : Event, e.args = c.args → e.kwargs = c.kwargs → ∃ t',
      (Replaying.newResult (routine f) e c.heap).run.run ⟨s, lines, notes⟩ = (.ok (.ok w), t') := by
  refine ⟨?_, fun e hargs hkwargs => run_newResult hrun hvalue hnormal hargs hkwargs lines notes⟩
  obtain ⟨notes', hrecord⟩ := run_record f c ⟨s, lines, notes⟩ time name
  obtain ⟨u, data, hu, hdata, hl, hdecode⟩ := encode_witnessed hrun hvalue hheap hv hnormal
  refine ⟨_, notes', hrecord.trans (by rw [hrun]), ?_⟩
  cases ha : Recorder.Arguments.ofCall c with
  | error e =>
    have hafter : PureFunction.lineAfter? time name (Except.error (α := Recorder.Arguments) e).toOption
        (f.witnessed c s) = none := rfl
    rw [hafter]
    refine ⟨iff_of_false (by simp) ?_, nofun⟩
    rintro ⟨a, ha', -⟩
    cases ha.symm.trans ha'
  | ok a =>
    obtain ⟨hexists, hparse⟩ := Recorder.lineOf_legible hc ha time name hdata hl
    have hafter : PureFunction.lineAfter? time name (Except.ok (ε := Fault) a).toOption (f.witnessed c s) =
        (Recorder.lineOf time name a (f.witnessed c s).call.heap u).toOption := by
      simp only [PureFunction.lineAfter?, Except.toOption, hu]
    have hresult : (Record.result ⟨Event.members (.str name) a.args a.kwargs data (.str time)⟩).start.1 =
        .ok (if f.defers c s then Routine.unawaited else w) := by
      simpa [Record.result, Event.members, Json.find?] using hdecode
    rw [hafter]
    refine ⟨?_, fun line hline => ?_⟩
    · have hrecordable : c.Recordable ↔
          (∀ d ∈ a.args, d.Printable) ∧ ∀ m ∈ a.kwargs, m.2.Printable := by
        refine ⟨?_, fun h => ⟨a, ha, h⟩⟩
        rintro ⟨a', ha', h⟩
        cases ha.symm.trans ha'
        exact h
      rw [hrecordable, ← hexists]
      cases Recorder.lineOf time name a (f.witnessed c s).call.heap u <;> simp [Except.toOption]
    · have hok : Recorder.lineOf time name a (f.witnessed c s).call.heap u = .ok line := by
        cases h : Recorder.lineOf time name a (f.witnessed c s).call.heap u <;> rw [h] at hline <;> cases hline
        rfl
      refine ⟨⟨_⟩, hparse line hok, hresult, fun mode e he => ?_⟩
      exact Except.ok.inj ((Event.result_ofRecord he).symm.trans hresult)

def one : Sample := .constant fun heap => (heap, .int 1)

def bareCall : Call := ⟨[], [], []⟩

lemma sound_bareCall : bareCall.Sound := ⟨nofun, nofun, nofun, List.nodup_nil⟩

lemma recordable_bareCall : bareCall.Recordable := ⟨⟨[], []⟩, rfl, nofun, nofun⟩

/-- A function that gives a number is recorded with it, asynchronous or not; one that gives back the work
for it is not, though the replay of each comes to the number. -/
theorem recorded_and_replayed_one : bareCall.Sound ∧ bareCall.Recordable ∧
    (Codec.normalize [] (.int 1)).start.1 = .ok (.int 1) ∧
    ∀ p ∈ [(one.routine false, Value.int 1), (one.routine true, .int 1),
        ((Sample.defer one).routine false, Routine.unawaited)],
      (p.1.run bareCall).run 0 = (.value bareCall (.int 1), 1) ∧
      (∃ line notes, (((recorder "noon").record "f" (routine p.1)).run bareCall).run ⟨0, [], []⟩ =
          (.value bareCall (.int 1), ⟨1, [line], notes⟩) ∧
        ∃ r : Record, Json.parse line = .ok (.obj r.members) ∧ r.result.start.1 = .ok p.2) ∧
      ∃ t', (Replaying.newResult (routine p.1) ⟨.str "f", [], [], .null, .str "noon"⟩ []).run.run
        ⟨0, [], []⟩ = (.ok (.ok (.int 1)), t') := by
  have hnormal : (Codec.normalize [] (.int 1)).start.1 = .ok (.int 1) := rfl
  refine ⟨sound_bareCall, recordable_bareCall, hnormal, fun p hp => ?_⟩
  obtain ⟨hrun, hresult⟩ : (p.1.run bareCall).run 0 = (.value bareCall (.int 1), 1) ∧
      (if p.1.defers bareCall 0 then Routine.unawaited else .int 1) = p.2 := by
    simp only [List.mem_cons, List.not_mem_nil, or_false] at hp
    obtain rfl | rfl | rfl := hp <;> exact ⟨rfl, rfl⟩
  obtain ⟨⟨line?, notes', hrecord, hline, hread⟩, hreplay⟩ :=
    recorded_and_replayed sound_bareCall hrun rfl (List.forall_mem_nil _) trivial hnormal "noon" "f" [] []
  obtain ⟨line, rfl⟩ := Option.isSome_iff_exists.mp (hline.mpr recordable_bareCall)
  obtain ⟨r, hparse, hr, -⟩ := hread line rfl
  rw [hresult] at hr
  exact ⟨hrun, ⟨line, notes', hrecord, r, hparse, hr⟩, hreplay _ rfl rfl⟩

end Logged

end CallSnapshot
