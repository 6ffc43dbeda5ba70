import CallSnapshot.Json.Printer
import CallSnapshot.Text.Base64
import CallSnapshot.Value.Display

/-!
Values as JSON data. What JSON has no form for becomes an object with a tag, and so does a
dictionary that could be taken for one. Items of sets are sorted by their text, so that one set has
one form; a container met again inside itself becomes a mark.
-/

namespace CallSnapshot.Codec

def tagKey : String := "__type__"

def classKey : String := "__class__"

def tagged (tag : String) (members : List (String × Json)) : Json :=
  .obj ((tagKey, .str tag) :: members)

/-- A finite number is itself; the others are written by name. -/
def encodeFloat (x : Binary64) (name : String) : Json :=
  if x.isFinite then .float x else tagged "float" [("value", .str name)]

def floatData (x : Binary64) : Json := encodeFloat x x.text

def insertKeyed {α : Type} (item : String × α) : List (String × α) → List (String × α)
  | [] => [item]
  | x :: xs => if item.1 < x.1 then item :: x :: xs else x :: insertKeyed item xs

def sortKeyed {α : Type} (items : List (String × α)) : List (String × α) :=
  items.foldl (fun sorted item => insertKeyed item sorted) []

def keyed : List Json → Except Fault (List (String × Json))
  | [] => .ok []
  | x :: xs => do .ok ((← Json.print Json.sortedAscii x, x) :: (← keyed xs))

def sortItems (items : List Json) : Except Fault (List Json) := do
  .ok ((sortKeyed (← keyed items)).map Prod.snd)

/-- The texts that keys are, where all are texts and none is the tag. -/
def plainKeys? (entries : List (Value × Value)) : Option (List String) :=
  match entries.mapM fun e => e.1.textOf? with
  | some keys => if keys.contains tagKey then none else some keys
  | none => none

/-- Nested arrays of the given lengths; `count` innermost items are taken from the front. -/
def nest : (shape : List Nat) → List Json → Json
  | [], items => items.headD .null
  | n :: shape, items =>
    let step := shape.foldl (· * ·) 1
    .arr ((List.range n).map fun i => nest shape ((items.drop (i * step)).take step))

def constantData : Constant → Json
  | .none => .null
  | .bool b => .bool b
  | .int n => .int n
  | .str s => .str s

def missingField (c : Class) (name : String) : Fault :=
  ⟨.attribute, s!"'{c.name.lastName}' object has no attribute '{name}'"⟩

def recordState (constants : List (String × Constant)) (state : List (String × Json))
    (fields : List String) : List (String × Json) :=
  fields.filterMap fun f =>
    match Json.find? f state with
    | some v => some (f, v)
    | none => (constants.find? (·.1 == f)).map fun c => (f, constantData c.2)

def slotState (classes : List (List String)) (state : List (String × Json)) : List (String × Json) :=
  Json.merge (classes.flatten.filterMap fun s => (Json.find? s state).map (s, ·))

/-- The attributes that an instance shows, of all that are set on it. -/
def shownState (c : Class) (state : List (String × Json)) : List (String × Json) :=
  match c.layout with
  | .record fields constants => recordState constants state fields
  | .slots classes => slotState classes state
  | _ => state

/-- The attributes that are read of an instance: of a record, its fields alone. -/
def isShown (c : Class) (name : String) : Bool :=
  match c.layout with
  | .record fields _ => fields.contains name
  | .mixed classes => !classes.flatten.contains name
  | .slots classes => classes.flatten.contains name
  | _ => true

/-- Fails where the attributes of an instance cannot be read, or a declared field is not set. -/
def readable (c : Class) (names : List String) : Except Fault Unit :=
  match c.layout with
  | .barred fault => .error ⟨.runtime, fault⟩
  | .record fields constants =>
    match fields.find? fun f => !names.contains f && !(constants.any (·.1 == f)) with
    | some f => .error (missingField c f)
    | none => .ok ()
  | _ => .ok ()

def binaryElement (element : String) : Bool := element == "float64"

mutual

/-- The data of a value; `follow` gives those of a link. -/
def encodeWith (follow : Nat → Except Fault Json) (v : Value) : Except Fault Json :=
  match v with
  | .null => .ok .null
  | .bool b => .ok (.bool b)
  | .int n => .ok (.int n)
  | .float x => .ok (floatData x)
  | .str s => .ok (.str s)
  | .bytes bs => .ok (tagged "bytes" [("base64", .str (String.ofList (Base64.encode bs)))])
  | .date d => .ok (tagged "date" [("value", .str (Iso.dateText d))])
  | .time t => .ok (tagged "time" [("value", .str (Iso.timeText t))])
  | .datetime m => .ok (tagged "datetime" [("value", .str (Iso.dateTimeText m))])
  | .duration d => .ok (tagged "timedelta" [("seconds", .float d.totalSeconds)])
  | .decimal d => .ok (tagged "decimal" [("value", .str d.text)])
  | .complex re im => .ok (tagged "complex" [("real", floatData re), ("imag", floatData im)])
  | .uuid u => .ok (tagged "uuid" [("value", .str u.text)])
  | .path p => .ok (tagged "path" [("value", .str p.text)])
  | .list items => do .ok (.arr (← encodeItems follow items))
  | .tuple items => do .ok (tagged "tuple" [("items", .arr (← encodeItems follow items))])
  | .set items => do
    .ok (tagged "set" [("items", .arr (← sortItems (← encodeItems follow items)))])
  | .frozenset items => do
    .ok (tagged "frozenset" [("items", .arr (← sortItems (← encodeItems follow items)))])
  | .dict entries =>
    match plainKeys? entries with
    | some keys => do .ok (.obj (keys.zip (← encodeValues follow entries)))
    | none => do .ok (tagged "dict" [("items", .arr (← encodeEntries follow entries))])
  | .extended _ v => encodeWith follow v
  | .member cls mixin name v =>
    match mixin with
    | .str => encodeWith follow v
    | _ => do
      let value ← encodeWith follow v
      .ok (tagged "enum"
        [("class", .str cls.text), ("name", name.elim .null .str), ("value", value)])
  | .object cls attrs => do
    readable cls (attrs.map Prod.fst)
    let state ← encodeAttrs follow cls attrs
    .ok (tagged "object" [("class", .str cls.name.text), ("state", .obj (shownState cls state))])
  | .type q => .ok (tagged "callable" [("name", .str q.text)])
  | .function q => .ok (tagged "callable" [("name", .str q.text)])
  | .method q _ => .ok (tagged "callable" [("name", .str q.text)])
  | .array element shape items => do
    let data ← encodeItems follow items
    .ok (tagged "ndarray" [("dtype", .str element),
      ("shape", .arr (shape.map fun (n : Nat) => .int n)), ("data", nest shape data)])
  | .scalar element v =>
    match v with
    | .float x => .ok (encodeFloat x (if binaryElement element then s!"np.float64({x.text})" else x.text))
    | v => encodeWith follow v
  | .iterator cls => .ok (tagged "generator" [("class", .str cls.text)])
  | .described kind _ =>
    .ok (tagged "repr" [("class", .str kind.name.text), ("repr", .str v.display)])
  | .link a => follow a

def encodeItems (follow : Nat → Except Fault Json) : List Value → Except Fault (List Json)
  | [] => .ok []
  | x :: xs => do .ok ((← encodeWith follow x) :: (← encodeItems follow xs))

def encodeValues (follow : Nat → Except Fault Json) :
    List (Value × Value) → Except Fault (List Json)
  | [] => .ok []
  | (_, v) :: rest => do .ok ((← encodeWith follow v) :: (← encodeValues follow rest))

def encodeEntries (follow : Nat → Except Fault Json) :
    List (Value × Value) → Except Fault (List Json)
  | [] => .ok []
  | (k, v) :: rest => do
    .ok (.arr [← encodeWith follow k, ← encodeWith follow v] :: (← encodeEntries follow rest))

def encodeAttrs (follow : Nat → Except Fault Json) (c : Class) :
    List (String × Value) → Except Fault (List (String × Json))
  | [] => .ok []
  | (k, v) :: rest =>
    if isShown c k then do .ok ((k, ← encodeWith follow v) :: (← encodeAttrs follow c rest))
    else encodeAttrs follow c rest

end

/-- What a link leads to; `active` are the links on the way to it, and `fuel` bounds them. -/
def encodeLink (heap : Heap) : (fuel : Nat) → (active : List Nat) → Nat → Except Fault Json
  | 0, _, _ => .ok (tagged "circular" [])
  | fuel + 1, active, a =>
    if active.contains a then .ok (tagged "circular" [])
    else
      match heap[a]? with
      | some v => encodeWith (encodeLink heap fuel (a :: active)) v
      | none => .ok .null

def encode (heap : Heap) (v : Value) : Except Fault Json :=
  encodeWith (encodeLink heap (heap.length + 1) []) v

def dumps (heap : Heap) (v : Value) : Except Fault String := do
  Json.print Json.compact (← encode heap v)

end CallSnapshot.Codec
