import CallSnapshot.Codec.Decode

/-!
One recorded call, and the line of a log that holds it. The line is an object of JSON data with the
name of the function, its arguments, its result and the time.
-/

namespace CallSnapshot

/-- A call with its values. Name and time are usually texts; a log may hold other data there. -/
structure Event where
  name : Json
  args : List Value
  kwargs : List (String × Value)
  result : Value
  time : Json
  deriving Repr, Inhabited

/-- A call as a line of a log holds it, its values still encoded. -/
structure Record where
  members : List (String × Json)
  deriving Repr, Inhabited

namespace Event

def recordData (name : Json) (args : List Json) (kwargs : List (String × Json)) (result time : Json) :
    Json :=
  .obj [("fn_name", name), ("args", .arr args), ("kwargs", .obj kwargs), ("result", result),
    ("at", time)]

def encodeKwargs (heap : Heap) : List (String × Value) → Except Fault (List (String × Json))
  | [] => .ok []
  | (k, v) :: rest => do .ok ((k, ← Codec.encode heap v) :: (← encodeKwargs heap rest))

def encodeArgs (heap : Heap) (args : List Value) : Except Fault (List Json) :=
  args.mapM (Codec.encode heap)

def toData (heap : Heap) (e : Event) : Except Fault Json := do
  let args ← encodeArgs heap e.args
  let kwargs ← encodeKwargs heap e.kwargs
  .ok (recordData e.name args kwargs (← Codec.encode heap e.result) e.time)

def line (heap : Heap) (e : Event) : Except Fault String := do
  Json.print Json.compact (← e.toData heap)

/-- Keyword arguments as they are recorded; data that say nothing stand for none. -/
def kwargsOf (members : List (String × Json)) : Except Fault (List (String × Json)) :=
  match Json.find? "kwargs" members with
  | none => .ok []
  | some (.obj ms) => .ok ms
  | some data =>
    if data.isTrue then
      .error ⟨.attribute, s!"'{Codec.typeName data}' object has no attribute 'items'"⟩
    else .ok []

/-- The call of a record. Arguments may be rebuilt; the result is always plain. -/
def ofRecord (mode : Codec.Mode) (r : Record) : Noting Event := do
  let name ← Noting.settle (Codec.field r.members "fn_name")
  let args ← Codec.decodeParts (Codec.decode mode) ((Json.find? "args" r.members).getD (.arr []))
  let kwargs ← Codec.decodeMembers (Codec.decode mode) (← Noting.settle (kwargsOf r.members))
  let result ← Codec.decode none ((Json.find? "result" r.members).getD .null)
  return ⟨name, args, kwargs, result, (Json.find? "at" r.members).getD (.str "")⟩

def ofData (mode : Codec.Mode) (data : Json) : Noting Event :=
  match data with
  | .obj members => ofRecord mode ⟨members⟩
  | .str _ => Noting.fail .type "string indices must be integers, not 'str'"
  | .arr _ => Noting.fail .type "list indices must be integers or slices, not str"
  | data => Noting.fail .type s!"'{Codec.typeName data}' object is not subscriptable"

end Event

/-- What a record says of its function; a record that says nothing true of it is none. -/
def Record.name (r : Record) : Json := (Json.find? "fn_name" r.members).getD .null

/-- The record that JSON data are. -/
def Record.ofData? (data : Json) : Option Record :=
  match data with
  | .obj members => if (Record.name ⟨members⟩).isTrue then some ⟨members⟩ else none
  | _ => none

end CallSnapshot
