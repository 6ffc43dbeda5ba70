import CallSnapshot.Codec.Encode
import CallSnapshot.Json.Reader
import CallSnapshot.Note
import CallSnapshot.Value.Grid

/-!
JSON data as values. Plain decoding gives data only: instances, members of enumerations and
functions become dictionaries that name their class. Rebuilding looks the names up in a library and
makes the things themselves where that succeeds.
-/

namespace CallSnapshot.Codec

-- Powers are those of the core library, whatever is imported beside this module.
attribute [local instance (high)] instPowNat

structure Library where
  /-- The definition under a dotted path in a module. -/
  resolve : (module path : String) → Except Fault Value
  create : Qualified → Except Fault Value
  /-- The members of an enumeration; none for other classes. -/
  members? : Qualified → Option (List (String × Value))

def Library.empty : Library where
  resolve m _ := .error ⟨.missingModule, s!"No module named '{m}'"⟩
  create _ := .error ⟨.type, "no such class"⟩
  members? _ := none

abbrev Mode := Option Library

def circularText : String := "<circular reference>"

open Noting

mutual

def ofJson (data : Json) : Value :=
  match data with
  | .null => .null
  | .bool b => .bool b
  | .int n => .int n
  | .float x => .float x
  | .str s => .str s
  | .arr items => .list (ofJsonItems items)
  | .obj members => .dict (ofJsonMembers members)

def ofJsonItems : List Json → List Value
  | [] => []
  | x :: xs => ofJson x :: ofJsonItems xs

def ofJsonMembers : List (String × Json) → List (Value × Value)
  | [] => []
  | (k, v) :: rest => (.str k, ofJson v) :: ofJsonMembers rest

end

def typeName (data : Json) : String := (ofJson data).typeName

/-- The value under a key, which has to be there. -/
def field (members : List (String × Json)) (key : String) : Except Fault Json :=
  match Json.find? key members with
  | some v => .ok v
  | none => .error ⟨.key, Text.quoted key⟩

def parts (data : Json) : Except Fault (List Json) :=
  match data with
  | .arr items => .ok items
  | .obj members => .ok (members.map fun m => .str m.1)
  | .str s => .ok (s.toList.map fun c => .str c.toString)
  | data => .error ⟨.type, s!"'{typeName data}' object is not iterable"⟩

def pair (data : Json) : Except Fault (Json × Json) :=
  match parts data with
  | .error _ => .error ⟨.type, s!"cannot unpack non-iterable {typeName data} object"⟩
  | .ok [a, b] => .ok (a, b)
  | .ok (_ :: _ :: _) => .error ⟨.value, "too many values to unpack (expected 2)"⟩
  | .ok ps => .error ⟨.value, s!"not enough values to unpack (expected 2, got {ps.length})"⟩

def text (data : Json) (complaint : String → Fault) : Except Fault String :=
  match data with
  | .str s => .ok s
  | data => .error (complaint (typeName data))

/-- A value that may be a key or an element: itself, or its data as a text. -/
def hashable (v : Value) : Except Fault Value :=
  match v.hashFault? with
  | none => .ok v
  | some ⟨.type, _⟩ => do .ok (.str (← Json.print Json.sortedAscii (← encode [] v)))
  | some f => .error f

def addElement (v : Value) (items : List Value) : List Value :=
  if items.any fun x => x.eq v then items else items ++ [v]

/-- Puts a value under a key: the first key of several equal ones stays, with the last value. -/
def putEntry (k v : Value) : List (Value × Value) → List (Value × Value)
  | [] => [(k, v)]
  | (l, w) :: rest => if l.eq k then (l, v) :: rest else (l, w) :: putEntry k v rest

def calendarFault : CalendarError → Fault
  | .malformed s => ⟨.value, s!"Invalid isoformat string: {Text.quoted s}"⟩
  | .year y => ⟨.value, s!"year {y} is out of range"⟩
  | .month => ⟨.value, "month must be in 1..12"⟩
  | .day => ⟨.value, "day is out of range for month"⟩
  | .hour => ⟨.value, "hour must be in 0..23"⟩
  | .minute => ⟨.value, "minute must be in 0..59"⟩
  | .second => ⟨.value, "second must be in 0..59"⟩
  | .offset micros => ⟨.value, "offset must be a timedelta strictly between -timedelta(hours=24) and " ++
      s!"timedelta(hours=24), not {Value.durationDisplay ⟨micros⟩}."⟩

def durationFault : DurationError → Fault
  | .notANumber => ⟨.value, "cannot convert float NaN to integer"⟩
  | .infinite => ⟨.overflow, "cannot convert float infinity to integer"⟩
  | .tooManyDays days => ⟨.overflow, s!"days={days}; must have magnitude <= 999999999"⟩
  | .beyondWord => ⟨.overflow, "Python int too large to convert to C int"⟩

def isoText (data : Json) : Except Fault String :=
  text data fun _ => ⟨.type, "fromisoformat: argument must be str"⟩

def decodeFloat (data : Json) : Except Fault Binary64 :=
  match data with
  | .null => .error ⟨.type, "float() argument must be a string or a real number, not 'NoneType'"⟩
  | data => Grid.toBinary (ofJson data)

def decodeDuration (data : Json) : Except Fault Duration :=
  match data with
  | .int n => (Duration.ofWholeSeconds n).mapError durationFault
  | .bool b => (Duration.ofWholeSeconds (if b then 1 else 0)).mapError durationFault
  | .float x => (Duration.ofSeconds x).mapError durationFault
  | data => .error ⟨.type, s!"unsupported type for timedelta seconds component: {typeName data}"⟩

def conversionSyntax : Fault := ⟨.decimal, "[<class 'decimal.ConversionSyntax'>]"⟩

def digitsFault : Fault := ⟨.value, "coefficient must be a tuple of digits"⟩

def wholeNumber? : Json → Option Int
  | .int n => some n
  | .bool b => some (if b then 1 else 0)
  | _ => none

def word (kind : String) (n : Int) : Except Fault Int :=
  if -2 ^ (63 : Nat) ≤ n && n < 2 ^ (63 : Nat) then .ok n
  else .error ⟨.overflow, s!"Python int too large to convert to C {kind}"⟩

def digit (data : Json) : Except Fault Nat :=
  match wholeNumber? data with
  | some n => do
    let n ← word "long" n
    if 0 ≤ n && n ≤ 9 then .ok n.toNat else .error digitsFault
  | none => .error digitsFault

def decimalSign (data : Json) : Except Fault Bool := do
  match ← (wholeNumber? data).mapM (word "long") with
  | some 0 => .ok false
  | some 1 => .ok true
  | _ => .error ⟨.value, "sign must be an integer with the value 0 or 1"⟩

/-- The exponent of a decimal fraction, or what stands in its place. -/
def decimalExponent (negative : Bool) (data : Json) : Except Fault (Decimal ⊕ Int) :=
  match data with
  | .str "F" => .ok (.inl (.infinity negative))
  | .str "n" => .ok (.inl (.nan negative false 0))
  | .str "N" => .ok (.inl (.nan negative true 0))
  | .str _ => .error ⟨.value, "string argument in the third position must be 'F', 'n' or 'N'"⟩
  | data =>
    match wholeNumber? data with
    | some e => (word "ssize_t" e).map .inr
    | none => .error ⟨.value, "exponent must be an integer"⟩

def decimalDigits (data : Json) : Except Fault (List Nat) :=
  match data with
  | .arr ds => ds.mapM digit
  | _ => .error digitsFault

def decimalOfParts : List Json → Except Fault Decimal
  | [sign, digits, exponent] => do
    let negative ← decimalSign sign
    let kind ← decimalExponent negative exponent
    let ds ← decimalDigits digits
    let n := Numeral.ofDigits 10 ds
    match kind with
    | .inl (.nan s signalling _) => .ok (.nan s signalling n)
    | .inl d => .ok d
    | .inr e =>
      match Decimal.bounded? negative n e with
      | some d => .ok d
      | none => .error conversionSyntax
  | _ => .error ⟨.value, "argument must be a sequence of length 3"⟩

def decodeDecimal (data : Json) : Except Fault Decimal :=
  match data with
  | .str s =>
    match Decimal.parse? s with
    | some d => .ok d
    | none => .error conversionSyntax
  | .int n => .ok (.ofInt n)
  | .bool b => .ok (.ofInt (if b then 1 else 0))
  | .float x => .ok (.ofBinary x)
  | .arr items => decimalOfParts items
  | data => .error ⟨.type, s!"conversion from {typeName data} to Decimal is not supported"⟩

def isComplexReal : Quantity → Bool
  | .decimal _ => true
  | .ratio .. => true
  | _ => false

def complexPart (v : Value) : Except Fault (Binary64 × Option Binary64) :=
  match v.complexParts? with
  | some (re, im) => .ok (re, some im)
  | none =>
    match v.quantity? with
    | some (.decimal (.nan _ true _)) => .error ⟨.value, "cannot convert signaling NaN to float"⟩
    | _ => (Grid.toBinary v).map fun x => (x, none)

def firstPart (v : Value) : Except Fault (Binary64 × Option Binary64) := do
  let (x, im) ← complexPart v
  .ok (x, if v.quantity?.any isComplexReal then some Binary64.zero else im)

def isNumber (v : Value) : Bool := v.quantity?.isSome || v.complexParts?.isSome

def complexOf (real imag : Value) : Except Fault Value := do
  match real.textOf?, imag.textOf? with
  | some _, _ => .error ⟨.type, "complex() can't take second arg if first is a string"⟩
  | _, some _ => .error ⟨.type, "complex() second arg can't be a string"⟩
  | none, none =>
    match isNumber real, isNumber imag with
    | false, _ =>
      .error ⟨.type, s!"complex() first argument must be a string or a number, not '{real.typeName}'"⟩
    | _, false => .error ⟨.type, s!"complex() second argument must be a number, not '{imag.typeName}'"⟩
    | true, true =>
      let (a, b) ← firstPart real
      let (c, d) ← complexPart imag
      .ok (.complex (d.elim a (a.sub ·)) (b.elim c (c.add ·)))

def decodeUuid (data : Json) : Except Fault Uuid :=
  match data with
  | .str s => Uuid.parse s
  | .null => .error ⟨.type, "one of the hex, bytes, bytes_le, fields, or int arguments must be given"⟩
  | data => .error ⟨.attribute, s!"'{typeName data}' object has no attribute 'replace'"⟩

def decodePath (data : Json) : Except Fault Path :=
  match data with
  | .str s => .ok (.parse s)
  | data => .error ⟨.type, s!"expected str, bytes or os.PathLike object, not {typeName data}"⟩

def shapeOf (data : Json) : Except Fault (List Int) :=
  let complaint : Fault := ⟨.type, "expected a sequence of integers or a single integer"⟩
  match data with
  | .int n => .ok [n]
  | .arr items => items.mapM fun
    | .int n => .ok n
    | .bool b => .ok (if b then 1 else 0)
    | _ => .error complaint
  | _ => .error complaint

def rebuildArray (members : List (String × Json)) (values : Value) : Except Fault Value := do
  let dtype ← field members "dtype"
  let element ← match dtype with
    | .str s =>
      match Grid.parseElement? s with
      | some e => .ok e
      | none => .error ⟨.type, s!"data type '{s}' not understood"⟩
    | data => .error ⟨.type, s!"Cannot interpret '{(ofJson data).display}' as a data type"⟩
  let (_, items) ← Grid.flatten 64 values
  let items ← items.mapM (Grid.convert element)
  let shape ← Grid.reshape items.length (← shapeOf (← field members "shape"))
  .ok (.array element.name shape items)

/-- A name as module and path; none where it cannot be looked up. -/
def splitName (name : String) : Option (String × String) :=
  match Text.cutAt? ':' name.toList with
  | none => none
  | some (m, p) =>
    if m.isEmpty || p.isEmpty || Text.occursIn "<locals>".toList p then none
    else some (String.ofList m, String.ofList p)

/-- The definition of a name; a failed search leaves a note, and nothing counts as no definition. -/
def Library.find (lib : Library) (name : String) : Noting (Option Value) :=
  match splitName name with
  | none => pure none
  | some (module, path) =>
    match lib.resolve module path with
    | .ok .null => pure none
    | .ok v => pure (some v)
    | .error f => do
      note ⟨.debug, s!"Cannot resolve {name}: ", some f⟩
      pure none

def Library.findData (lib : Library) (data : Json) : Noting (Option Value) :=
  match data with
  | .str name => lib.find name
  | data => fail .attribute s!"'{typeName data}' object has no attribute 'partition'"

/-- Sets an attribute of an instance, where its class has room for it. -/
def setAttr (target : Value) (key : String) (v : Value) : Except Fault Value :=
  match target with
  | .object c attrs =>
    let noSlot : Fault := ⟨.attribute, s!"'{c.name.lastName}' object has no attribute '{key}'"⟩
    if key == classKey then
      .error ⟨.type, s!"__class__ must be set to a class, not '{v.typeName}' object"⟩
    else
      match c.layout with
      | .slots classes =>
        if classes.flatten.contains key then .ok (.object c (Json.put key v attrs)) else .error noSlot
      | _ => .ok (.object c (Json.put key v attrs))
  | target =>
    .error ⟨.attribute, s!"'{target.typeName}' object has no attribute '{key}'"⟩

def setAttrs (target : Value) : List (String × Value) → Except Fault Value
  | [] => .ok target
  | (k, v) :: rest => do setAttrs (← setAttr target k v) rest

def rebuildInstance (lib : Library) (cls : Qualified) (state : List (String × Value)) :
    Except Fault Value := do
  setAttrs (← lib.create cls) state

/-- A dictionary that names a class, with further entries; an entry of the same name replaces it. -/
def placeholder (cls : Value) (entries : List (String × Value)) : Value :=
  .dict ((entries.foldl (fun es (k, v) => Json.put k v es) [(classKey, cls)]).map
    fun (k, v) => (.str k, v))

def decodeParts (recur : Json → Noting Value) (data : Json) : Noting (List Value) := do
  (← settle (parts data)).mapM recur

def decodeMembers (recur : Json → Noting Value) :
    List (String × Json) → Noting (List (String × Value))
  | [] => pure []
  | (k, x) :: rest => do
    let v ← recur x
    pure ((k, v) :: (← decodeMembers recur rest))

def dictOf (members : List (String × Value)) : Value := .dict (members.map fun (k, v) => (.str k, v))

def decodeElements (recur : Json → Noting Value) : List Json → (found : List Value) → Noting (List Value)
  | [], found => pure found
  | x :: xs, found => do
    let v ← settle (hashable (← recur x))
    decodeElements recur xs (addElement v found)

def decodeEntries (recur : Json → Noting Value) :
    List Json → (found : List (Value × Value)) → Noting (List (Value × Value))
  | [], found => pure found
  | x :: xs, found => do
    let (k, v) ← settle (pair x)
    let k ← settle (hashable (← recur k))
    let v ← recur v
    decodeEntries recur xs (putEntry k v found)

def decodeEnum (mode : Mode) (members : List (String × Json)) (value : Value) : Noting Value := do
  let plain := do
    let cls ← settle (field members "class")
    let name ← settle (field members "name")
    pure (placeholder (ofJson cls) [("name", ofJson name), ("value", value)])
  match mode with
  | none => plain
  | some lib =>
    match ← lib.findData (← settle (field members "class")) with
    | some (.type cls) =>
      match lib.members? cls, Json.find? "name" members with
      | some ms, some (.str name) => ((ms.find? (·.1 == name)).map Prod.snd).elim plain pure
      | some _, some name =>
        if (ofJson name).isHashable then plain
        else fail .type s!"unhashable type: '{typeName name}'"
      | _, _ => plain
    | _ => plain

def decodeObject (mode : Mode) (members : List (String × Json)) (state : List (String × Value)) :
    Noting Value := do
  let plain := do
    let cls ← settle (field members "class")
    pure (placeholder (ofJson cls) state)
  match mode with
  | none => plain
  | some lib =>
    let cls ← settle (field members "class")
    match ← lib.findData cls with
    | some (.type q) =>
      match rebuildInstance lib q state with
      | .ok v => pure v
      | .error f => do
        note ⟨.debug, s!"Cannot rebuild {(ofJson cls).plainText}: ", some f⟩
        plain
    | _ => plain

def decodeCallable (mode : Mode) (members : List (String × Json)) : Noting Value := do
  let name ← settle (field members "name")
  let plain := placeholder (.str "builtins:function") [("name", ofJson name)]
  match mode with
  | none => pure plain
  | some lib => pure ((← lib.findData name).getD plain)

def decodeTagged (mode : Mode) (recur : Json → Noting Value) (tag : String)
    (members : List (String × Json)) : Option (Noting Value) :=
  let member := fun key => settle (field members key)
  match tag with
  | "tuple" => some do pure (.tuple (← decodeParts recur (← member "items")))
  | "set" => some do pure (.set (← decodeElements recur (← settle (parts (← member "items"))) []))
  | "frozenset" =>
    some do pure (.frozenset (← decodeElements recur (← settle (parts (← member "items"))) []))
  | "dict" => some do pure (.dict (← decodeEntries recur (← settle (parts (← member "items"))) []))
  | "float" => some do pure (.float (← settle (decodeFloat (← member "value"))))
  | "bytes" => some do
    let s ← settle (text (← member "base64") fun t =>
      ⟨.type, s!"argument should be a bytes-like object or ASCII string, not '{t}'"⟩)
    pure (.bytes (← settle (Base64.decode s)))
  | "datetime" => some do
    let s ← settle (isoText (← member "value"))
    pure (.datetime (← settle ((Iso.parseDateTime s).mapError calendarFault)))
  | "date" => some do
    let s ← settle (isoText (← member "value"))
    pure (.date (← settle ((Iso.parseDate s).mapError calendarFault)))
  | "time" => some do
    let s ← settle (isoText (← member "value"))
    pure (.time (← settle ((Iso.parseTime s).mapError calendarFault)))
  | "timedelta" => some do pure (.duration (← settle (decodeDuration (← member "seconds"))))
  | "decimal" => some do pure (.decimal (← settle (decodeDecimal (← member "value"))))
  | "complex" => some do
    let real ← recur (← member "real")
    let imag ← recur (← member "imag")
    settle (complexOf real imag)
  | "uuid" => some do pure (.uuid (← settle (decodeUuid (← member "value"))))
  | "path" => some do pure (.path (← settle (decodePath (← member "value"))))
  | "circular" => some (pure (.str circularText))
  | "ndarray" => some do
    let values ← recur (← member "data")
    match mode with
    | none => pure values
    | some _ => settle (rebuildArray members values)
  | "generator" => some do
    pure (placeholder (ofJson (← member "class")) [("generator", .bool true)])
  | "repr" => some do
    let cls ← member "class"
    pure (placeholder (ofJson cls) [("repr", ofJson (← member "repr"))])
  | "callable" => some (decodeCallable mode members)
  | "enum" => some do decodeEnum mode members (← recur (← member "value"))
  | "object" => some do
    match ← member "state" with
    | .obj state => decodeObject mode members (← decodeMembers recur state)
    | data => fail .attribute s!"'{typeName data}' object has no attribute 'items'"
  | _ => none

/-- Decodes one node of the data; `recur` decodes what lies below it. -/
def decodeNode (mode : Mode) (recur : Json → Noting Value) (data : Json) : Noting Value :=
  match data with
  | .arr items => do pure (.list (← items.mapM recur))
  | .obj members =>
    match Json.find? tagKey members with
    | none => do pure (dictOf (← decodeMembers recur members))
    | some tag =>
      let known := match tag with
        | .str s => decodeTagged mode recur s members
        | _ => none
      match known with
      | some decoded => decoded
      | none => do
        note (.warning s!"Unknown serialized type tag: {(ofJson tag).display}")
        pure (dictOf (← decodeMembers recur members))
  | data => pure (ofJson data)

def decodeTo (mode : Mode) : (fuel : Nat) → Json → Noting Value
  | 0, data => pure (ofJson data)
  | fuel + 1, data => decodeNode mode (decodeTo mode fuel) data

def decode (mode : Mode) (data : Json) : Noting Value := decodeTo mode data.size data

def loads (mode : Mode) (s : String) : Noting Value := do
  decode mode (← settle (Json.parse s))

def normalize (heap : Heap) (v : Value) : Noting Value := do
  decode none (← settle (Json.parse (← settle (dumps heap v))))

/-- The module that a value shows as its own: that of its definition or of its class. -/
def moduleOf : Value → String
  | .type q => q.module
  | .function q => q.module
  | .method q _ => q.module
  | .decimal _ => "decimal"
  | .uuid _ => "uuid"
  | .path _ => "pathlib"
  | .extended kind _ =>
    match kind with
    | .subclass q => q.module
    | .namedTuple q _ => q.module
    | .counter => "collections"
    | _ => "builtins"
  | .member cls .. => cls.module
  | .object cls _ => cls.name.module
  | .described .deque _ => "collections"
  | _ => "builtins"

def qualifiedName (v : Value) : String :=
  match v with
  | .type q => q.text
  | .function q => q.text
  | .method q _ => q.text
  | v => moduleOf v ++ ":" ++ v.display

end CallSnapshot.Codec
