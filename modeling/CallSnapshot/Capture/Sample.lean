import CallSnapshot.Capture.Recorder
import CallSnapshot.Value.Basic
import CallSnapshot.Value.Sum

/-!
Small functions to try recording and replaying with. Their state counts the calls of those that
give one value after another.
-/

namespace CallSnapshot

abbrev Supply := Heap → Heap × Value

inductive Sample where
  | constant (supply : Supply)
  | echo
  | argument (index : Int)
  | keyword (name : String)
  | attribute (index : Int) (name : String)
  | className (index : Int)
  | sum
  | push (supply : Supply)
  /-- One value after another, the last one for ever. -/
  | sequence (supplies : List Supply)
  | raises (fault : Fault)
  /-- Gives back work that is done when it is awaited. -/
  | defer (inner : Sample)

namespace Sample

instance : Inhabited Sample := ⟨.echo⟩

def supplied (c : Call) (supply : Supply) : Call × Value :=
  let (heap, v) := supply c.heap
  ({ c with heap }, v)

def outOfRange : Fault := ⟨.index, "tuple index out of range"⟩

def place (c : Call) (index : Int) : Nat :=
  if index < 0 then (if c.args.length < index.natAbs then c.args.length else c.args.length - index.natAbs)
  else index.toNat

def argumentAt (c : Call) (index : Int) : Except Fault Value :=
  match c.args[place c index]? with
  | some v => .ok v
  | none => .error outOfRange

def missing (v : Value) (name : String) : Fault :=
  ⟨.attribute, s!"'{v.typeName}' object has no attribute '{name}'"⟩

def attributeOf (v : Value) (name : String) : Except Fault Value :=
  let found := match v, name with
    | .object cls attrs, _ => (Value.attr? name attrs).orElse fun _ => Value.constantOf cls name
    | .member _ _ n _, "name" => some (n.elim .null .str)
    | .member _ _ _ v, "value" => some v
    | .complex re _, "real" => some (.float re)
    | .complex _ im, "imag" => some (.float im)
    | _, _ => none
  match found with
  | some v => .ok v
  | none => .error (missing v name)

/-- The value with an item added at its end, and how many there are then. -/
def pushed (item : Value) : Value → Option (Value × Nat)
  | .list xs => some (.list (xs ++ [item]), xs.length + 1)
  | .described .deque xs => some (.described .deque (xs ++ [item]), xs.length + 1)
  | .extended kind v => (pushed item v).map fun (v, n) => (.extended kind v, n)
  | _ => none

def pushOnto (c : Call) (item : Value) : Outcome :=
  match c.args with
  | [] => .fault c outOfRange
  | first :: rest =>
    match pushed item (first.follow c.heap) with
    | none => .fault c (missing (first.follow c.heap) "append")
    | some (v, n) =>
      match first with
      | .link a => .value { c with heap := c.heap.set a v } (.int n)
      | _ => .value { c with args := v :: rest } (.int n)

def total (args : List Value) : Except Fault Value :=
  match args with
  | [] => .error outOfRange
  | x :: xs => xs.foldlM Value.add x

def act (c : Call) (count : Nat) : Sample → Outcome
  | .constant supply => let (c, v) := supplied c supply; .value c v
  | .echo => .value c (.dict [(.str "args", .tuple c.args),
      (.str "kwargs", .dict (c.kwargs.map fun (k, v) => (.str k, v)))])
  | .argument i => ⟨argumentAt c i, c⟩
  | .keyword name =>
    match Value.attr? name c.kwargs with
    | some v => .value c v
    | none => .fault c ⟨.key, Text.quoted name⟩
  | .attribute i name => ⟨argumentAt c i >>= fun v => attributeOf (v.follow c.heap) name, c⟩
  | .className i => ⟨(argumentAt c i).map fun v => .str (v.follow c.heap).className.text, c⟩
  | .sum => ⟨total (c.args.map (Value.follow c.heap)), c⟩
  | .push supply => let (c, v) := supplied c supply; pushOnto c v
  | .sequence supplies =>
    match (supplies[count]?).orElse fun _ => supplies.getLast? with
    | some supply => let (c, v) := supplied c supply; .value c v
    | none => .fault c ⟨.index, "list index out of range"⟩
  | .raises f => .fault c f
  | .defer _ => .value c Routine.awaitable

def reply (c : Call) : Sample → StateM Nat (Reply Nat)
  | .defer inner => pure (.later c fun n =>
      let (r, n) := (reply c inner).run n
      (Routine.bodyOutcome r, n))
  | s => fun n => (.ended (act c n s), n + 1)

def raised (title message : String) : Fault :=
  match FaultKind.ofTitle title with
  | .key => ⟨.key, Text.quoted message⟩
  | kind => ⟨kind, message⟩

def routine (s : Sample) (isAsync : Bool) : Routine Nat := ⟨isAsync, fun c => s.reply c⟩

end Sample

structure Trial where
  count : Nat := 0
  lines : List String := []
  notes : List Note := []
  deriving Repr, Inhabited

namespace Trial

instance : Noted Trial := ⟨fun n t => { t with notes := t.notes ++ [n] }⟩

def recorder (time : String) : Recorder Trial :=
  ⟨time, fun line t => (.ok (), { t with lines := t.lines ++ [line] })⟩

def routine (s : Sample) (isAsync : Bool) : Routine Trial :=
  (s.routine isAsync).lift count fun n t => { t with count := n }

end Trial

end CallSnapshot
