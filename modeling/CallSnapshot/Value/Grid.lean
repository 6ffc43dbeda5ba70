import CallSnapshot.Fault
import CallSnapshot.Value.Display

/-!
Arrays of one element type: nested lists give the shape and the items, and each item is converted
to the element type.
-/

namespace CallSnapshot.Grid

-- Powers are those of the core library, whatever is imported beside this module.
attribute [local instance (high)] instPowNat

inductive Element where
  | bool
  | int (bits : Nat)
  | nat (bits : Nat)
  | half
  | single
  | double
  | complexSingle
  | complexDouble
  | text (width : Nat)
  | any
  deriving DecidableEq, Repr

def Element.name : Element → String
  | .bool => "bool"
  | .int bits => s!"int{bits}"
  | .nat bits => s!"uint{bits}"
  | .half => "float16"
  | .single => "float32"
  | .double => "float64"
  | .complexSingle => "complex64"
  | .complexDouble => "complex128"
  | .text width => s!"<U{width}"
  | .any => "object"

def names : List (String × Element) := [
  ("bool", .bool), ("?", .bool), ("int8", .int 8), ("int16", .int 16), ("int32", .int 32),
  ("int64", .int 64), ("int", .int 64), ("uint8", .nat 8), ("uint16", .nat 16),
  ("uint32", .nat 32), ("uint64", .nat 64), ("uint", .nat 64), ("i1", .int 8), ("i2", .int 16),
  ("i4", .int 32), ("i8", .int 64), ("u1", .nat 8), ("u2", .nat 16), ("u4", .nat 32),
  ("u8", .nat 64), ("float16", .half), ("float32", .single), ("float64", .double),
  ("float", .double), ("f2", .half), ("f4", .single), ("f8", .double), ("complex64", .complexSingle),
  ("complex128", .complexDouble), ("complex", .complexDouble), ("object", .any), ("O", .any)]

def parseElement? (s : String) : Option Element :=
  match (names.find? (·.1 == s)).map Prod.snd with
  | some e => some e
  | none =>
    let cs := match s.toList with
      | '<' :: cs => cs
      | '=' :: cs => cs
      | cs => cs
    match cs with
    | 'U' :: ds =>
      if ds.isEmpty || !ds.all Char.isDigit then none
      else some (.text (Numeral.ofDigits 10 (ds.map fun c => c.toNat - '0'.toNat)))
    | cs => (names.find? (·.1 == String.ofList cs)).map Prod.snd

def invalid (message : String) : Fault := ⟨.value, message⟩

def wrongType (message : String) : Fault := ⟨.type, message⟩

def overflow (message : String) : Fault := ⟨.overflow, message⟩

def noInteger (s : String) : Fault := invalid s!"invalid literal for int() with base 10: {Text.quoted s}"

def noNumber (s : String) : Fault := invalid s!"could not convert string to float: {Text.quoted s}"

def tooLarge : Fault := overflow "int too large to convert to float"

def toInteger (v : Value) : Except Fault Int :=
  match v.quantity?, v.textOf? with
  | some (.int n), _ => .ok n
  | some (.binary .nan), _ => .error (invalid "cannot convert float NaN to integer")
  | some (.binary (.infinity _)), _ => .error (overflow "cannot convert float infinity to integer")
  | some (.binary x), _ => .ok x.truncate
  | some (.decimal (.finite s m e)), _ => .ok (Decimal.truncate s m e)
  | some (.ratio n d), _ => .ok (n.tdiv d)
  | _, some s =>
    match Numeral.readInt 10 s with
    | .ok n => .ok n
    | .error _ => .error (noInteger s)
  | _, _ => .error (wrongType ("int() argument must be a string, a bytes-like object or a real number, " ++
      s!"not '{v.typeName}'"))

def toBinary (v : Value) : Except Fault Binary64 :=
  match v.quantity?, v.textOf? with
  | some (.int n), _ =>
    match Binary64.ofInt? n with
    | some x => .ok x
    | none => .error tooLarge
  | some (.binary x), _ => .ok x
  | some (.decimal d), _ => .ok d.toBinary
  | some (.ratio n d), _ => .ok (Binary64.ofSigned n d)
  | _, some s =>
    match Numeral.readBinary s with
    | some x => .ok x
    | none => .error (noNumber s)
  | _, _ =>
    match v with
    | .null => .ok .nan
    | v => .error (wrongType s!"float() argument must be a string or a real number, not '{v.typeName}'")

def inBounds (e : Element) (low high n : Int) : Except Fault Value :=
  if low ≤ n && n ≤ high then .ok (.int n)
  else .error (overflow s!"Python integer {n} out of bounds for {e.name}")

def complexOf (v : Value) (fit : Binary64 → Binary64) : Except Fault Value :=
  match v.complexParts? with
  | some (re, im) => .ok (.complex (fit re) (fit im))
  | none => (toBinary v).map fun x => .complex (fit x) Binary64.zero

def convert (e : Element) (v : Value) : Except Fault Value :=
  match e with
  | .bool => .ok (.bool v.isTrue)
  | .int bits => do inBounds e (-(2 ^ (bits - 1))) (2 ^ (bits - 1) - 1) (← toInteger v)
  | .nat bits => do inBounds e 0 (2 ^ bits - 1) (← toInteger v)
  | .half => (toBinary v).map fun x => .float x.toHalf
  | .single => (toBinary v).map fun x => .float x.toSingle
  | .double => (toBinary v).map .float
  | .complexSingle => complexOf v Binary64.toSingle
  | .complexDouble => complexOf v id
  | .text width =>
    let cs := (v.plainText.toList).take width
    .ok (.str (String.ofList (cs.reverse.dropWhile (· == '\x00')).reverse))
  | .any => .ok v

def itemsOf? : Value → Option (List Value)
  | .list items => some items
  | .tuple items => some items
  | _ => none

def ragged : Fault := invalid ("setting an array element with a sequence. The requested array " ++
  "has an inhomogeneous shape.")

/-- Shape and items of nested lists of equal lengths; `fuel` bounds the depth. -/
def flatten : (fuel : Nat) → Value → Except Fault (List Nat × List Value)
  | 0, v => .ok ([], [v])
  | fuel + 1, v =>
    match itemsOf? v with
    | none => .ok ([], [v])
    | some items => do
      let parts ← items.mapM (flatten fuel)
      match parts with
      | [] => .ok ([0], [])
      | (shape, _) :: rest =>
        if rest.all (·.1 == shape) then .ok (items.length :: shape, parts.flatMap Prod.snd)
        else .error ragged

def shapeText (shape : List Int) : String :=
  match shape with
  | [n] => s!"({n},)"
  | ns => "(" ++ ",".intercalate (ns.map toString) ++ ")"

/-- The shape asked for, one length of which may be left open by -1. -/
def reshape (count : Nat) (shape : List Int) : Except Fault (List Nat) :=
  let known : Int := (shape.filter (· != -1)).foldl (· * ·) 1
  let misfit := invalid s!"cannot reshape array of size {count} into shape {shapeText shape}"
  match shape.filter (· < 0) with
  | [] => if known == count then .ok (shape.map Int.toNat) else .error misfit
  | [-1] =>
    if 0 < known && (count : Int) % known == 0 then
      .ok (shape.map fun n => if n == -1 then count / known.toNat else n.toNat)
    else .error misfit
  | ns =>
    if ns.all (· == -1) then .error (invalid "can only specify one unknown dimension")
    else .error (invalid "negative dimensions not allowed")

end CallSnapshot.Grid
