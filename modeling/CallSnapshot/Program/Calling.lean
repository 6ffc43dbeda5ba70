import CallSnapshot.Capture.Recorder
import CallSnapshot.Program.Expression

/-!
Calling the functions of a program. A function that hands its calls over does what the host says; of
other functions only plain bodies have a meaning. Calls of recorded functions leave lines.
-/

namespace CallSnapshot

/-- What calls change: how often each function of a host was called, the lines of recorded calls, and
the notes. -/
structure Run where
  counts : List ((Nat × String) × Nat) := []
  lines : List String := []
  notes : List Note := []
  deriving Repr, Inhabited

namespace Run

instance : Noted Run := ⟨fun n r => { r with notes := r.notes ++ [n] }⟩

def count (key : Nat × String) (r : Run) : Nat := (r.counts.lookup key).getD 0

def setCount (key : Nat × String) (n : Nat) (r : Run) : Run := { r with counts := Json.put key n r.counts }

def recorder (time : String) : Recorder Run :=
  ⟨time, fun line r => (.ok (), { r with lines := r.lines ++ [line] })⟩

end Run

namespace Definition

open Source (Expr Statement Param Params)

/-- The name under which a body hands its calls over. -/
def delegate? : List Statement → Option String
  | [.give (some (.call (.attribute _ "call") (.literal (.text name _) :: _) _))] => some name
  | _ => none

def paramName : Param → String
  | .mk name _ _ => name

def paramDefault : Param → Option Expr
  | .mk _ _ default => default

def counted (n : Nat) (noun : String) : String := if n = 1 then s!"{n} {noun}" else s!"{n} {noun}s"

/-- Names in a row: `'a'`, `'a' and 'b'`, `'a', 'b', and 'c'`. -/
def listed (names : List String) : String :=
  let quoted := names.map fun n => s!"'{n}'"
  match quoted with
  | [a, b] => s!"{a} and {b}"
  | qs => if qs.length < 2 then ", ".intercalate qs
    else ", ".intercalate qs.dropLast ++ ", and " ++ (qs.getLast?).getD ""

def misused (name text : String) : Fault := ⟨.type, s!"{name}() {text}"⟩

def tooMany (name : String) (least most given : Nat) : Fault :=
  let last := counted most "positional argument"
  let range := if least == most then last else s!"from {least} to {last}"
  let verb := if given = 1 then "was" else "were"
  misused name s!"takes {range} but {given} {verb} given"

def lacks (name noun : String) (params : List String) : Fault :=
  misused name s!"missing {counted params.length noun}: {listed params}"

def supply (s : Scope) (p : Param) : Except Fault (Option (String × Thing)) := do
  match paramDefault p with
  | some e => .ok (some (paramName p, ← s.eval e))
  | none => .ok none

def bindParams (s : Scope) (name : String) (ps : Params) (c : Call) :
    Except Fault (List (String × Thing)) := do
  let .mk leading ordinary rest named extra := ps
  let ordered := leading ++ ordinary
  let optional := (ordered.filter fun p => (paramDefault p).isSome).length
  if rest.isNone && ordered.length < c.args.length then
    throw (tooMany name (ordered.length - optional) ordered.length c.args.length)
  let positional := (ordered.map paramName).zip (c.args.map Thing.value)
  let byName := (ordinary ++ named).map paramName
  let (known, others) := c.kwargs.partition fun k => byName.contains k.1
  match known.find? fun k => (positional.lookup k.1).isSome with
  | some (k, _) => throw (misused name s!"got multiple values for argument '{k}'")
  | none => pure ()
  match extra, others with
  | none, (k, _) :: _ => throw (misused name s!"got an unexpected keyword argument '{k}'")
  | _, _ => pure ()
  let given := positional ++ known.map fun (k, v) => (k, .value v)
  let left := (ordered ++ named).filter fun p => (given.lookup (paramName p)).isNone
  let lacking := (left.filter fun p => (paramDefault p).isNone).map paramName
  let (first, second) := lacking.partition fun n => (ordered.map paramName).contains n
  if !first.isEmpty then throw (lacks name "required positional argument" first)
  if !second.isEmpty then throw (lacks name "required keyword-only argument" second)
  let supplied ← left.mapM (supply s)
  let gathered := rest.toList.map fun p => (paramName p, Thing.value (.tuple (c.args.drop ordered.length)))
  let spare := extra.toList.map fun p =>
    (paramName p, Thing.value (.dict (others.map fun (k, v) => (.str k, v))))
  .ok (given ++ supplied.filterMap id ++ gathered ++ spare)

def evalBody (s : Scope) : List Statement → Except Fault Value
  | [] => .ok .null
  | .give none :: _ => .ok .null
  | .give (some e) :: _ => do .ok (← s.eval e).toValue
  | .fail (some e) _ :: _ => do
    match ← s.eval e with
    | .fault f => .error f
    | .value (.type q) => .error (Scope.faultOf q.path [])
    | _ => .error ⟨.type, "exceptions must derive from BaseException"⟩
  | .assign [.name id] e :: rest => do
    let t ← s.eval e
    evalBody ⟨s.program.bind s.number id t, s.number⟩ rest
  | _ :: rest => evalBody s rest

def evalCall (p : Program) (d : Definition) (c : Call) : Except Fault Value := do
  let names ← bindParams ⟨p, d.origin⟩ d.path d.params c
  let inner := names.foldl (fun p (k, t) => p.bind d.origin k t) p
  evalBody ⟨inner, d.origin⟩ d.body

def plainRoutine (p : Program) (d : Definition) : Routine Run :=
  ⟨d.isAsync, fun c => pure (.ended ⟨evalCall p d c, c⟩)⟩

def routine (p : Program) (d : Definition) : Routine Run :=
  match (delegate? d.body).bind fun name => (p.host.behaviour d.file name).map (name, ·) with
  | some (name, r) =>
    { (r.lift (Run.count (d.origin, name)) (Run.setCount (d.origin, name))) with isAsync := d.isAsync }
  | none => plainRoutine p d

end Definition

namespace Thing

def constructed (c : Class) (call : Call) : Except Fault Value :=
  if call.args.isEmpty && call.kwargs.isEmpty then .ok (.object c [])
  else .error ⟨.type, s!"{c.name.lastName}() takes no arguments"⟩

def memberWith (e : Enumeration) (call : Call) : Except Fault Value :=
  match call.args with
  | [v] =>
    match e.allMembers.find? fun m => m.2.eq v || (e.members.lookup m.1).elim false fun w => w.eq v with
    | some (_, m) => .ok m
    | none => .error ⟨.value, s!"{v.display} is not a valid {e.name.lastName}"⟩
  | _ => .error Catalogue.blankMember

def immediate (f : Call → Except Fault Value) : Routine Run := ⟨false, fun c => pure (.ended ⟨f c, c⟩)⟩

def uncallable (t : Thing) : Fault := ⟨.type, s!"'{t.toValue.typeName}' object is not callable"⟩

def routine (p : Program) (time : String) (t : Thing) : Routine Run :=
  match t with
  | .function d => d.routine p
  | .recorded name inner => (Run.recorder time).record name (inner.routine p time)
  | .cls c => immediate (constructed c)
  | .enumeration e => immediate (memberWith e)
  | t => immediate fun _ => .error t.uncallable

end Thing

namespace Program

def callEach (p : Program) (number : Nat) (time : String) :
    List (String × Call) → ExceptT Fault (StateM Run) (List Outcome)
  | [] => return []
  | (name, c) :: rest => do
    match p.lookup? number name with
    | none => throw (Scope.missingAttribute ((p.module? number).getD default) name)
    | some t =>
      let o ← (((t.routine p time).run c : StateM Run Outcome) : ExceptT Fault (StateM Run) Outcome)
      return o :: (← callEach p number time rest)

end Program

end CallSnapshot
