import CallSnapshot.Capture.Sample
import CallSnapshot.Proofs.Codec.Projection
import CallSnapshot.Proofs.Codec.Steady
import CallSnapshot.Proofs.Log.Storing

/-!
Recording of a function that depends on its arguments alone. Each call that gives a value, and whose
integers are not too long for a text, hands over one line; the record on that line is the call, its
arguments rebuilt as they were and its result in plain form.
-/

namespace CallSnapshot

open Value (Same Plain Readable Short Sound)

lemma Outcome.guardStop_guardStop (o : Outcome) : o.guardStop.guardStop = o.guardStop := by
  rcases o with ⟨⟨kind, message⟩ | v, c⟩
  · cases kind <;> rfl
  · rfl

namespace Routine

variable {σ : Type} {f : Routine σ}

lemma run_async (h : f.isAsync = true) (c : Call) (s : σ) :
    (f.run c).run s = ((bodyOutcome ((f.body c).run s).1).guardStop, ((f.body c).run s).2) := by
  simp only [run, start, h, if_true, pure_bind]
  rfl

lemma start_plain (h : f.isAsync = false) (c : Call) : f.start c = f.body c := by
  simp only [start, h, Bool.false_eq_true, if_false]

lemma run_plain (h : f.isAsync = false) (c : Call) (s : σ) :
    (f.run c).run s = (finish ((f.body c).run s).1).run ((f.body c).run s).2 := by
  rw [run, start_plain h]
  rfl

end Routine

namespace Recorder

variable {τ : Type} [Noted τ] {r : Recorder τ} {name : String} {f : Routine τ} {c : Call}
  {a : Option Arguments} {o : Outcome} {reply : Reply τ} {t t₁ t₂ t₃ : τ}

lemma run_record_async (h : f.isAsync = true) (hentry : (entryArguments name c).run t = (a, t₁))
    (hrun : (f.run c).run t₁ = (o, t₂)) (hcapture : (r.captureOutcome name a o).run t₂ = ((), t₃)) :
    ((r.record name f).run c).run t = (o, t₃) := by
  have hbody : ((r.record name f).body c).run t = (.ended o, t₃) := by
    simp only [record, h, if_true, StateT.run_bind, hentry]
    change (do
      let o ← f.run c
      r.captureOutcome name a o
      pure (.ended o) : StateM τ (Reply τ)).run t₁ = _
    simp only [StateT.run_bind, hrun]
    exact congrArg (fun p : Unit × τ => (Reply.ended o, p.2)) hcapture
  have hguard : o.guardStop = o := by
    rw [Routine.run_async h] at hrun
    obtain rfl : _ = o := congrArg Prod.fst hrun
    exact Outcome.guardStop_guardStop _
  rw [Routine.run_async (f := r.record name f) h, hbody, Routine.bodyOutcome, hguard, hguard]

lemma start_record_plain (h : f.isAsync = false) (hentry : (entryArguments name c).run t = (a, t₁))
    (hbody : (f.body c).run t₁ = (reply, t₂)) (hcapture : (r.captureReply name a reply).run t₂ = ((), t₃)) :
    ((r.record name f).start c).run t = (reply, t₃) := by
  rw [Routine.start_plain (f := r.record name f) h]
  simp only [record, h, Bool.false_eq_true, if_false, Routine.start_plain h, StateT.run_bind, hentry]
  change (do
    let p ← f.body c
    r.captureReply name a p
    pure p : StateM τ (Reply τ)).run t₁ = _
  simp only [StateT.run_bind, hbody]
  exact congrArg (fun p : Unit × τ => (reply, p.2)) hcapture

lemma run_record_plain (hstart : ((r.record name f).start c).run t = (reply, t₃)) :
    ((r.record name f).run c).run t = (Routine.finish reply).run t₃ := by
  rw [Routine.run, StateT.run_bind, hstart]
  rfl

end Recorder

/-- How a call ends that changes nothing: with a value and what its links lead to, or with a fault. -/
abbrev Ending := Except Fault (Heap × Value)

def Ending.Agree : Ending → Ending → Prop
  | .ok (heap, v), .ok (heap', v') => Codec.encode heap v = Codec.encode heap' v'
  | .error _, .error _ => True
  | _, _ => False

/-- Arguments that are the same at every node, under the same names. -/
def SameNamed (kwargs kwargs' : List (String × Value)) : Prop :=
  List.Forall₂ (fun k l => k.1 = l.1 ∧ Same k.2 l.2) kwargs kwargs'

/-- A function whose result depends on its arguments alone, and not on the order in which the items of
their sets stand. -/
structure PureFunction where
  isAsync : Bool
  ending : List Value → List (String × Value) → Ending
  steady : ∀ {args args' kwargs kwargs'}, List.Forall₂ Same args args' → SameNamed kwargs kwargs' →
    (ending args kwargs).Agree (ending args' kwargs')

namespace PureFunction

variable {σ : Type} (f : PureFunction) {c : Call} {heap : Heap} {v : Value}

def outcome (c : Call) : Outcome :=
  match f.ending c.args c.kwargs with
  | .ok (heap, v) => .value { c with heap } v
  | .error e => .fault c e

def routine : Routine σ := ⟨f.isAsync, fun c => pure (.ended (f.outcome c))⟩

/-- The call is recorded: it gives a value, and no integer among its arguments is too long. -/
structure Keeps (c : Call) : Prop where
  returns : ∃ heap v, f.ending c.args c.kwargs = .ok (heap, v)
  short : (∀ x ∈ c.args, x.Short) ∧ ∀ k ∈ c.kwargs, k.2.Short

def ended (c : Call) : Outcome :=
  if f.isAsync then (f.outcome c).guardStop.guardStop else f.outcome c

lemma run_routine (c : Call) : (f.routine.run c : StateM σ Outcome) = pure (f.ended c) := by
  unfold ended
  cases ha : f.isAsync <;> simp only [routine, Routine.run, Routine.start, ha] <;> rfl

variable {f}

section Record

variable (f) (time name : String)

/-- The line that is handed over for a call that ended, whose arguments were these on entry. -/
def lineAfter? (a : Option Recorder.Arguments) (o : Outcome) : Option String :=
  match a, o.result with
  | some a, .ok v => (Recorder.lineOf time name a o.call.heap v).toOption
  | _, _ => none

/-- The line that is handed over for a call. -/
def line? (c : Call) : Option String :=
  lineAfter? time name (Recorder.Arguments.ofCall c).toOption (f.ended c)

def Told {τ : Type} [Noted τ] (s s' : τ) : Prop := s' = s ∨ ∃ n, s' = Noted.note n s

lemma told_entryArguments {τ : Type} [Noted τ] (c : Call) (s : τ) : ∃ s',
    (Recorder.entryArguments name c).run s = ((Recorder.Arguments.ofCall c).toOption, s') ∧ Told s s' := by
  unfold Recorder.entryArguments
  cases Recorder.Arguments.ofCall c with
  | ok a => exact ⟨s, rfl, .inl rfl⟩
  | error e => exact ⟨_, rfl, .inr ⟨_, rfl⟩⟩

lemma told_captureOutcome {τ : Type} [Noted τ] (r : Recorder τ) (a : Option Recorder.Arguments) (o : Outcome)
    (s : τ) : ∃ s', (r.captureOutcome name a o).run s = ((), s') ∧
      Told ((lineAfter? r.time name a o).elim s fun line => ((r.send line).run s).2) s' := by
  unfold Recorder.captureOutcome lineAfter?
  cases a with
  | none => exact ⟨s, rfl, .inl rfl⟩
  | some a =>
    cases o.result with
    | error e => exact ⟨s, rfl, .inl rfl⟩
    | ok v =>
      dsimp only
      rw [Recorder.capture]
      cases Recorder.lineOf r.time name a o.call.heap v with
      | error e => exact ⟨_, rfl, .inr ⟨_, rfl⟩⟩
      | ok line =>
        change ∃ s', _ ∧ Told ((r.send line).run s).2 s'
        dsimp only
        rw [StateT.run_bind]
        rcases (r.send line).run s with ⟨e | ⟨⟨⟩⟩, s'⟩
        · exact ⟨_, rfl, .inr ⟨_, rfl⟩⟩
        · exact ⟨_, rfl, .inl rfl⟩

lemma run_entryArguments (c : Call) (s : Trial) : ∃ s', (Recorder.entryArguments name c).run s =
    ((Recorder.Arguments.ofCall c).toOption, s') ∧ s'.lines = s.lines := by
  obtain ⟨s', hrun, rfl | ⟨n, rfl⟩⟩ := told_entryArguments name c s
  · exact ⟨_, hrun, rfl⟩
  · exact ⟨_, hrun, rfl⟩

lemma run_captureOutcome (a : Option Recorder.Arguments) (o : Outcome) (s : Trial) : ∃ s',
    ((Trial.recorder time).captureOutcome name a o).run s = ((), s') ∧
      s'.lines = s.lines ++ (lineAfter? time name a o).toList := by
  obtain ⟨s', hrun, htold⟩ := told_captureOutcome name (Trial.recorder time) a o s
  have hlines : s'.lines = ((lineAfter? time name a o).elim s fun line =>
      { s with lines := s.lines ++ [line] }).lines := by
    rcases htold with rfl | ⟨n, rfl⟩ <;> rfl
  refine ⟨s', hrun, hlines.trans ?_⟩
  cases lineAfter? time name a o with
  | none => exact (List.append_nil _).symm
  | some line => rfl

/-- One call of the recorded function: its line is added to those handed over. -/
lemma run_record (c : Call) (s : Trial) : ∃ o s',
    (((Trial.recorder time).record name f.routine).run c).run s = (o, s') ∧
      s'.lines = s.lines ++ (f.line? time name c).toList := by
  obtain ⟨s₁, hentry, hlines₁⟩ := run_entryArguments name c s
  obtain ⟨s₂, hcapture, hlines₂⟩ := run_captureOutcome time name (Recorder.Arguments.ofCall c).toOption (f.ended c) s₁
  refine ⟨f.ended c, s₂, ?_, by rw [hlines₂, hlines₁, line?]⟩
  cases ha : f.isAsync with
  | true => exact Recorder.run_record_async ha hentry (by rw [run_routine]; rfl) hcapture
  | false =>
    have hended : f.ended c = f.outcome c := by rw [ended, ha]; rfl
    rw [hended] at hcapture ⊢
    have hstart : (((Trial.recorder time).record name f.routine).start c).run s = (.ended (f.outcome c), s₂) :=
      Recorder.start_record_plain ha hentry rfl hcapture
    exact Recorder.run_record_plain hstart

def lines (calls : List (String × Call)) : List String := calls.filterMap fun x => f.line? x.1 name x.2

lemma lines_cons (x : String × Call) (calls : List (String × Call)) :
    f.lines name (x :: calls) = (f.line? x.1 name x.2).toList ++ f.lines name calls := by
  rw [lines, List.filterMap_cons]
  cases f.line? x.1 name x.2 <;> rfl

def recordAll (calls : List (String × Call)) : StateM Trial (List Outcome) :=
  calls.mapM fun x => ((Trial.recorder x.1).record name f.routine).run x.2

lemma run_recordAll (calls : List (String × Call)) (s : Trial) : ∃ os s',
    (f.recordAll name calls).run s = (os, s') ∧
      s'.lines = s.lines ++ f.lines name calls := by
  induction calls generalizing s with
  | nil => exact ⟨[], s, rfl, (List.append_nil _).symm⟩
  | cons x calls ih =>
    obtain ⟨o, s₁, hcall, hlines₁⟩ := f.run_record x.1 name x.2 s
    obtain ⟨os, s₂, hrest, hlines₂⟩ := ih s₁
    refine ⟨o :: os, s₂, ?_, ?_⟩
    · unfold recordAll at hrest ⊢
      simp only [List.mapM_cons, StateT.run_bind, hcall]
      change (do
        let os ← calls.mapM fun x => ((Trial.recorder x.1).record name f.routine).run x.2
        pure (o :: os) : StateM Trial (List Outcome)).run s₁ = _
      rw [StateT.run_bind, hrest]
      rfl
    · rw [hlines₂, hlines₁, List.append_assoc, lines_cons]

end Record

end PureFunction

namespace Codec

lemma mapM_eq_ok {α β : Type} {g : α → Except Fault β} {xs : List α} {ys : List β} :
    xs.mapM g = .ok ys ↔ List.Forall₂ (fun x y => g x = .ok y) xs ys := by
  induction xs generalizing ys with
  | nil => cases ys <;> simp [pure, Except.pure]
  | cons x xs ih =>
    simp only [List.mapM_cons, bind_eq_ok, ih, pure, Except.pure, Except.ok.injEq, List.forall₂_cons_left_iff]
    constructor
    · rintro ⟨y, hy, zs, hzs, rfl⟩
      exact ⟨y, zs, hy, hzs, rfl⟩
    · rintro ⟨y, zs, hy, hzs, rfl⟩
      exact ⟨y, hy, zs, hzs, rfl⟩

lemma encodeKwargs_eq_ok {heap : Heap} {kwargs : List (String × Value)} {ms : List (String × Json)} :
    Event.encodeKwargs heap kwargs = .ok ms ↔
      List.Forall₂ (fun k m => m.1 = k.1 ∧ encode heap k.2 = .ok m.2) kwargs ms := by
  induction kwargs generalizing ms with
  | nil => simp [Event.encodeKwargs, eq_comm]
  | cons k ks ih =>
    obtain ⟨k, v⟩ := k
    simp only [Event.encodeKwargs, bind_eq_ok, ih, Except.ok.injEq, List.forall₂_cons_left_iff]
    constructor
    · rintro ⟨y, hy, zs, hzs, rfl⟩
      exact ⟨(k, y), zs, ⟨rfl, hy⟩, hzs, rfl⟩
    · rintro ⟨⟨_, y⟩, zs, ⟨rfl, hy⟩, hzs, rfl⟩
      exact ⟨y, hy, zs, hzs, rfl⟩

end Codec

namespace Event

def members (name : Json) (args : List Json) (kwargs : List (String × Json)) (result time : Json) :
    List (String × Json) :=
  [("fn_name", name), ("args", .arr args), ("kwargs", .obj kwargs), ("result", result), ("at", time)]

variable {mode : Codec.Mode} {name result time : Json} {args : List Json} {kwargs : List (String × Json)}
  {vs : List Value} {ks : List (String × Value)} {w : Value}

lemma recordData_faithful (name time : String) (ha : ∀ d ∈ args, d.Faithful)
    (hk : (kwargs.map Prod.fst).Nodup ∧ ∀ m ∈ kwargs, m.2.Faithful) (hr : result.Faithful) :
    (recordData (.str name) args kwargs result (.str time)).Faithful := by
  refine Json.faithful_obj.mpr ⟨by simp, ?_⟩
  simpa using ⟨trivial, Json.faithful_arr.mpr ha, Json.faithful_obj.mpr hk, hr, trivial⟩

lemma recordData_printable (name time : String) :
    (recordData (.str name) args kwargs result (.str time)).Printable ↔
      (∀ d ∈ args, d.Printable) ∧ (∀ m ∈ kwargs, m.2.Printable) ∧ result.Printable := by
  simp [recordData, Json.Printable, Json.PrintableMembers, Json.printableItems_iff, Json.printableMembers_iff]

lemma start_ofRecord (ha : args.mapM (Codec.decode mode) = pure vs)
    (hk : Codec.decodeMembers (Codec.decode mode) kwargs = pure ks)
    (hw : (Codec.decode none result).start.1 = .ok w) :
    (ofRecord mode ⟨members name args kwargs result time⟩).start.1 = .ok ⟨name, vs, ks, w, time⟩ := by
  have hparts : Codec.decodeParts (Codec.decode mode) (.arr args) = pure vs := ha
  have hname : Codec.field (members name args kwargs result time) "fn_name" = .ok name := by
    simp [Codec.field, Json.find?, members]
  have hargs : Json.find? "args" (members name args kwargs result time) = some (.arr args) := by
    simp [Json.find?, members]
  have hkwargs : kwargsOf (members name args kwargs result time) = .ok kwargs := by
    simp [kwargsOf, Json.find?, members]
  have hresult : Json.find? "result" (members name args kwargs result time) = some result := by
    simp [Json.find?, members]
  have htime : Json.find? "at" (members name args kwargs result time) = some time := by
    simp [Json.find?, members]
  unfold ofRecord
  simp only [hname, hargs, hkwargs, hresult, htime, Noting.settle, pure_bind, Option.getD_some, hparts, hk]
  rw [(Codec.steady_decode result).start_bind fun _ => Noting.steady_pure _, hw]
  rfl

end Event

/-- A call of the plain domain: its arguments are plain, and the offsets of their times are read back. -/
structure Call.Plain (c : Call) : Prop where
  heap : c.heap = []
  names : (c.kwargs.map Prod.fst).Nodup
  args : ∀ v ∈ c.args, v.Plain ∧ v.Readable
  kwargs : ∀ k ∈ c.kwargs, k.2.Plain ∧ k.2.Readable

namespace PureFunction

variable {f : PureFunction} {name : String} {c : Call}

end PureFunction

end CallSnapshot
