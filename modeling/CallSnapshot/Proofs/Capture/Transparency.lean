import CallSnapshot.Proofs.Capture.Awaiting
import CallSnapshot.Proofs.Codec.Relocation

/-!
A recorded function beside the bare one. What encodes the values and what carries the lines may fail at any
call: the function does what it does bare, and the carrier is given one line for each call that came to
a value and can be written down. That line is the one of an event with the arguments as they were on
entry, though the call may have changed them since.
-/

namespace CallSnapshot

namespace Event

variable {place : ℕ → ℕ} {heap whole : Heap}

/-- A call that came to a value: its arguments as they were on entry, the value as it came back, and each
with the objects that it led to then. -/
def ofReturn (time name : String) (c : Call) (heap : Heap) (v : Value) : Event :=
  let entry := c.heap.besides heap
  ⟨.str name, c.args.map (·.relocate entry), c.kwargs.map fun k => (k.1, k.2.relocate entry),
    v.relocate c.heap.behind, .str time⟩

lemma encodeArgs_relocate (h : Heap.Embeds place heap whole) (args : List Value) :
    encodeArgs whole (args.map (·.relocate place)) = encodeArgs heap args := by
  induction args with
  | nil => rfl
  | cons v args ih =>
    unfold encodeArgs at ih ⊢
    rw [List.map_cons, List.mapM_cons, List.mapM_cons, Codec.encode_relocate h, ih]

lemma encodeKwargs_relocate (h : Heap.Embeds place heap whole) (kwargs : List (String × Value)) :
    encodeKwargs whole (kwargs.map fun k => (k.1, k.2.relocate place)) = encodeKwargs heap kwargs := by
  induction kwargs with
  | nil => rfl
  | cons k kwargs ih => rw [List.map_cons, encodeKwargs, encodeKwargs, Codec.encode_relocate h, ih]

lemma line_ofReturn (time name : String) (c : Call) (o : Outcome) {v : Value} (hv : o.result = .ok v) :
    PureFunction.lineAfter? time name (Recorder.Arguments.ofCall c).toOption o =
      ((ofReturn time name c o.call.heap v).line (c.heap.beside o.call.heap)).toOption := by
  have hentry : Heap.Embeds (c.heap.besides o.call.heap) c.heap (c.heap.beside o.call.heap) := Heap.embeds_besides
  have hending : Heap.Embeds c.heap.behind o.call.heap (c.heap.beside o.call.heap) := Heap.embeds_behind
  have hargs := encodeArgs_relocate hentry c.args
  have hkwargs := encodeKwargs_relocate hentry c.kwargs
  have hresult := Codec.encode_relocate hending v
  simp only [line, toData, ofReturn, hargs, hkwargs, hresult, Recorder.Arguments.ofCall]
  cases encodeArgs c.heap c.args with
  | error e => rfl
  | ok args =>
    cases encodeKwargs c.heap c.kwargs with
    | error e => rfl
    | ok kwargs =>
      unfold PureFunction.lineAfter?
      rw [hv]
      cases hdata : Codec.encode o.call.heap v <;> simp [Recorder.lineOf, hdata, bind, Except.bind, Except.toOption]

end Event

def Routine.line? {σ : Type} (f : Routine σ) (time name : String) (c : Call) (s : σ) : Option String :=
  match (f.witnessed c s).result with
  | .ok v =>
    let heap := (f.witnessed c s).call.heap
    ((Event.ofReturn time name c heap v).line (c.heap.beside heap)).toOption
  | .error _ => none

def Routine.lines {σ : Type} (f : Routine σ) (name : String) : List (String × Call) → σ → List String
  | [], _ => []
  | (time, c) :: calls, s => (f.line? time name c s).toList ++ f.lines name calls ((f.run c).run s).2

/-- What lines are handed to. It may fail on any of them, but does not end the program. -/
structure Carrier (ρ : Type) where
  send : String → ρ → Except Fault Unit × ρ
  ordinary : ∀ line r fault, (send line r).1 = .error fault → fault.kind.isFinal = false

def Carrier.after {ρ : Type} (k : Carrier ρ) (r : ρ) (line : String) : ρ := (k.send line r).2

/-- The state of a function, that of the carrier, and notes. -/
structure Carried (σ ρ : Type) where
  state : σ
  carrier : ρ
  notes : List Note

namespace Carried

variable {σ ρ : Type}

instance : Noted (Carried σ ρ) := ⟨fun n t => { t with notes := t.notes ++ [n] }⟩

def recorder (k : Carrier ρ) (time : String) : Recorder (Carried σ ρ) :=
  ⟨time, fun line t => ((k.send line t.carrier).1, { t with carrier := k.after t.carrier line })⟩

def withState (s : σ) (t : Carried σ ρ) : Carried σ ρ := { t with state := s }

def routine (f : Routine σ) : Routine (Carried σ ρ) := f.lift state withState

def recordAll (k : Carrier ρ) (name : String) (f : Routine σ) (calls : List (String × Call)) :
    StateM (Carried σ ρ) (List Outcome) :=
  calls.mapM fun x => ((recorder k x.1).record name (routine f)).run x.2

lemma spares_recorder (k : Carrier ρ) (time : String) :
    (recorder k time).Spares (state (σ := σ)) withState where
  get_set _ _ := rfl
  set_set _ _ _ := rfl
  get_note _ _ := rfl
  set_note _ _ _ := rfl
  set_send _ _ _ := rfl

lemma lineAfter?_witnessed (f : Routine σ) (time name : String) (c : Call) (s : σ) :
    PureFunction.lineAfter? time name (Recorder.Arguments.ofCall c).toOption (f.witnessed c s) =
      f.line? time name c s := by
  cases hresult : (f.witnessed c s).result with
  | ok v =>
    rw [Event.line_ofReturn time name c _ hresult, Routine.line?]
    simp only [hresult]
  | error e =>
    have hnone : PureFunction.lineAfter? time name (Recorder.Arguments.ofCall c).toOption (f.witnessed c s) = none := by
      unfold PureFunction.lineAfter?
      rw [hresult]
      cases (Recorder.Arguments.ofCall c).toOption <;> rfl
    rw [hnone, Routine.line?]
    simp only [hresult]

variable (k : Carrier ρ) (f : Routine σ) (name : String) (t : Carried σ ρ)

lemma exists_notes {time : String} {line? : Option String} {t' : Carried σ ρ}
    (h : PureFunction.Told ((recorder k time).sent line? t) t') (s : σ) :
    ∃ notes, withState s t' = ⟨s, line?.toList.foldl k.after t.carrier, notes⟩ := by
  refine ⟨t'.notes, ?_⟩
  have hcarrier : t'.carrier = ((recorder k time).sent line? t).carrier := by
    rcases h with rfl | ⟨n, rfl⟩ <;> rfl
  rw [withState, hcarrier]
  cases line? <;> rfl

lemma run_record (time : String) (c : Call) : ∃ notes, (((recorder k time).record name (routine f)).run c).run t =
    (((f.run c).run t.state).1, ⟨((f.run c).run t.state).2,
      (f.line? time name c t.state).toList.foldl k.after t.carrier, notes⟩) := by
  obtain ⟨t', htold, hrun⟩ := (spares_recorder k time).run_record name f c t
  rw [lineAfter?_witnessed] at htold
  obtain ⟨notes, hstate⟩ := exists_notes k t htold ((f.run c).run t.state).2
  exact ⟨notes, hrun.trans (congrArg (Prod.mk _) hstate)⟩

lemma run_mapM_cons {α β τ : Type} (g : α → StateM τ β) (x : α) (xs : List α) (t : τ) :
    ((x :: xs).mapM g).run t = (((g x).run t).1 :: ((xs.mapM g).run ((g x).run t).2).1,
      ((xs.mapM g).run ((g x).run t).2).2) := by
  rw [List.mapM_cons]
  rfl

lemma run_recordAll (calls : List (String × Call)) : ∃ notes, (recordAll k name f calls).run t =
    (((calls.mapM fun x => f.run x.2).run t.state).1, ⟨((calls.mapM fun x => f.run x.2).run t.state).2,
      (f.lines name calls t.state).foldl k.after t.carrier, notes⟩) := by
  induction calls generalizing t with
  | nil => exact ⟨t.notes, rfl⟩
  | cons x calls ih =>
    obtain ⟨notes, hcall⟩ := run_record k f name t x.1 x.2
    obtain ⟨notes', hrest⟩ := ih ⟨((f.run x.2).run t.state).2,
      (f.line? x.1 name x.2 t.state).toList.foldl k.after t.carrier, notes⟩
    refine ⟨notes', ?_⟩
    unfold recordAll at hrest ⊢
    rw [run_mapM_cons, run_mapM_cons, hcall, hrest, Routine.lines, List.foldl_append]

/-- A recorded function is to its callers what it is bare, whatever becomes of the recording: calls of it,
each awaited, end as they do bare, with the same arguments, and leave the same state of its own; and
what a call of a plain function gives back unawaited is the same too. The carrier is given the lines of the
calls and nothing else: one for each call that comes to a value, if the event with its arguments as they
were on entry and its value has a line. -/
theorem recorded_calls_transparent (k : Carrier ρ) (f : Routine σ) (name : String) (t : Carried σ ρ) :
    (∀ calls : List (String × Call), ∃ notes, (recordAll k name f calls).run t =
      (((calls.mapM fun x => f.run x.2).run t.state).1, ⟨((calls.mapM fun x => f.run x.2).run t.state).2,
        (f.lines name calls t.state).foldl k.after t.carrier, notes⟩)) ∧
    (f.isAsync = false → ∀ (time : String) (c : Call), ∃ notes,
      (((recorder k time).record name (routine f)).start c).run t =
        (Routine.liftReply state withState ((f.start c).run t.state).1, ⟨((f.start c).run t.state).2,
          (f.line? time name c t.state).toList.foldl k.after t.carrier, notes⟩)) := by
  refine ⟨run_recordAll k f name t, fun ha time c => ?_⟩
  obtain ⟨t', htold, hstart⟩ := (spares_recorder k time).start_record_plain name f c t ha
  rw [lineAfter?_witnessed] at htold
  obtain ⟨notes, hstate⟩ := exists_notes k t htold ((f.start c).run t.state).2
  exact ⟨notes, hstart.trans (congrArg (Prod.mk _) hstate)⟩

/-- A function that puts the number of the call behind the items of a list, and gives the list back. -/
def appending : Routine Nat where
  isAsync := false
  body c n :=
    match c.args with
    | [.list items] =>
      let after := .list (items ++ [.int n])
      (.ended (.value { c with args := [after] } after), n + 1)
    | _ => (.ended (.fault c ⟨.type, "not a list"⟩), n + 1)

/-- A carrier that takes every line and then fails. -/
def failing : Carrier (List String) where
  send line lines := (.error ⟨.connection, "refused"⟩, lines ++ [line])
  ordinary _ _ _ h := by cases h; rfl

/-- An instance whose attributes cannot be read. -/
def barred : Value := .object ⟨⟨"m", "Vault"⟩, .barred "locked", .each⟩ []

/-- Calls with an empty list, without arguments, and with what cannot be written down. -/
def trials : List (String × Call) :=
  [("noon", ⟨[.list []], [], []⟩), ("one", ⟨[], [], []⟩), ("two", ⟨[.list [barred]], [], []⟩)]

/-- The line of the first of them. -/
def firstLine : String := "\x7b\"fn_name\":\"put\",\"args\":[[]],\"kwargs\":\x7b\x7d,\"result\":[0],\"at\":\"noon\"\x7d"

theorem recorded_calls_transparent_failing : appending.isAsync = false ∧
    (∃ notes, (recordAll failing "put" appending trials).run ⟨0, [], []⟩ =
      ([.value ⟨[.list [.int 0]], [], []⟩ (.list [.int 0]), .fault ⟨[], [], []⟩ ⟨.type, "not a list"⟩,
        .value ⟨[.list [barred, .int 2]], [], []⟩ (.list [barred, .int 2])], ⟨3, [firstLine], notes⟩)) ∧
    ∃ notes, (((recorder failing "noon").record "put" (routine appending)).start ⟨[.list []], [], []⟩).run ⟨0, [], []⟩ =
      (.ended (.value ⟨[.list [.int 0]], [], []⟩ (.list [.int 0])), ⟨1, [firstLine], notes⟩) := by
  obtain ⟨hcalls, hstart⟩ := recorded_calls_transparent failing appending "put" ⟨0, [], []⟩
  obtain ⟨notes, hrun⟩ := hcalls trials
  obtain ⟨notes', hplain⟩ := hstart rfl "noon" ⟨[.list []], [], []⟩
  refine ⟨rfl, ⟨notes, hrun.trans ?_⟩, notes', hplain.trans ?_⟩
  · have hlines : appending.lines "put" trials 0 = [firstLine] := by cbv
    rw [hlines]
    rfl
  · have hline : appending.line? "noon" "put" ⟨[.list []], [], []⟩ 0 = some firstLine := by cbv
    rw [hline]
    rfl

end Carried

end CallSnapshot
