import CallSnapshot.Codec.Decode

/-! Values from their parts. What makes no sense gives an empty or a plain value. -/

namespace CallSnapshot

def orElseDefault {α ε : Type} (r : Except ε α) (d : α) : α :=
  match r with
  | .ok x => x
  | .error _ => d

namespace Value

def distinct (vs : List Value) : List Value := vs.foldl (fun found v => Codec.addElement v found) []

/-- Entries of a dictionary: the first key of several equal ones stays, with the last value. -/
def entriesOf (es : List (Value × Value)) : List (Value × Value) :=
  es.foldl (fun found (k, v) => Codec.putEntry k v found) []

/-- A range from its end, its start and end, or these and its step. -/
def rangeOf (parts : List Value) : Value :=
  .described .range (match parts with
    | [stop] => [.int 0, stop, .int 1]
    | [start, stop] => [start, stop, .int 1]
    | parts => parts)

def tally (vs : List Value) : List (Value × Value) :=
  vs.foldl (fun counts v =>
    let n : Int := match counts.find? fun e => e.1.eq v with
      | some (_, .int n) => n + 1
      | _ => 1
    Codec.putEntry v (.int n) counts) []

def ratioAttrs (n d : Int) : List (String × Value) :=
  let g : Int := if d < 0 then -(Int.gcd n d) else Int.gcd n d
  [("_numerator", .int (n / g)), ("_denominator", .int (d / g))]

def iteratorOf (kind : String) : Value :=
  .iterator (builtin (match kind with
    | "list" => "list_iterator"
    | "reversed" => "list_reverseiterator"
    | "range" => "range_iterator"
    | "dict" => "dict_keyiterator"
    | "tuple" => "tuple_iterator"
    | kind => kind))

/-- An array of an element type; the shape is that of the nested items where none is given. -/
def arrayOf (element : String) (shape : Option (List Int)) (v : Value) : Value :=
  let e := (Grid.parseElement? element).getD .any
  let (own, xs) := orElseDefault (Grid.flatten 64 v) ([], [])
  let xs := xs.map fun x => orElseDefault (Grid.convert e x) x
  .array e.name (shape.elim own fun ns => orElseDefault (Grid.reshape xs.length ns) []) xs

def scalarOf (element : String) (v : Value) : Value :=
  let e := (Grid.parseElement? element).getD .any
  .scalar e.name (orElseDefault (Grid.convert e v) .null)

/-- The attributes of an instance in order: those that its class and its bases name, the outermost
base first, then all others as they were set. -/
def orderedAttrs (c : Class) (attrs : List (String × Value)) : List (String × Value) :=
  let named := fun (slots : List (List String)) =>
    (slots.reverse.flatten.filterMap fun s => attrs.find? (·.1 == s)) ++
      attrs.filter fun a => !slots.flatten.contains a.1
  match c.layout with
  | .slots ss => named ss
  | .mixed ss => named ss
  | _ => attrs

end Value

end CallSnapshot
