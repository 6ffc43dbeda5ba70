import CallSnapshot.Fault
import CallSnapshot.Value.Basic

/-!
Equality of values, as containers and keys see it. Numbers of all kinds are equal when they denote
the same number; what is no number equals nothing, itself included. Extensions equal the values
they extend, and instances are equal where their class says so.
-/

namespace CallSnapshot

inductive Quantity where
  | int (n : Int)
  | binary (x : Binary64)
  | decimal (d : Decimal)
  | ratio (n : Int) (d : Nat)
  deriving DecidableEq, Repr

namespace Quantity

-- Powers are those of the core library, whatever is imported beside this module.
attribute [local instance (high)] instPowNat

def binaryIsRatio (x : Binary64) (n : Int) (d : Nat) : Bool :=
  x.isFinite && (let (a, b) := x.toRatio; a * d == n * b)

def decimalIsRatio (x : Decimal) (n : Int) (d : Nat) : Bool :=
  match x with
  | .finite s m e =>
    if 400 < e || e < -400 then m == 0 && n == 0
    else
      let m : Int := if s then -(m : Int) else m
      if 0 ≤ e then m * 10 ^ e.toNat * d == n else m * d == n * 10 ^ (-e).toNat
  | _ => false

def eq : Quantity → Quantity → Bool
  | .int m, .int n => m == n
  | .int n, .binary x => x.toInt? == some n
  | .binary x, .int n => x.toInt? == some n
  | .binary x, .binary y => x.eq y
  | .decimal x, .decimal y => x.eq y
  | .decimal x, .int n => x.eq (Decimal.ofInt n)
  | .int n, .decimal x => x.eq (Decimal.ofInt n)
  | .decimal x, .binary y => x.eq (Decimal.ofBinary y)
  | .binary y, .decimal x => x.eq (Decimal.ofBinary y)
  | .ratio m d, .ratio n e => m * e == n * d
  | .ratio m d, .int n => m == n * d
  | .int n, .ratio m d => m == n * d
  | .ratio m d, .binary x => binaryIsRatio x m d
  | .binary x, .ratio m d => binaryIsRatio x m d
  | .ratio m d, .decimal x => decimalIsRatio x m d
  | .decimal x, .ratio m d => decimalIsRatio x m d

end Quantity

namespace Value

def attr? (name : String) (attrs : List (String × Value)) : Option Value :=
  (attrs.find? (·.1 == name)).map Prod.snd

def ratio? (attrs : List (String × Value)) : Option Quantity :=
  match attr? "_numerator" attrs, attr? "_denominator" attrs with
  | some (.int n), some (.int d) => some (.ratio n d.toNat)
  | _, _ => none

def quantity? : Value → Option Quantity
  | .bool b => some (.int (if b then 1 else 0))
  | .int n => some (.int n)
  | .float x => some (.binary x)
  | .decimal d => some (.decimal d)
  | .extended _ v => v.quantity?
  | .member _ .int _ v => v.quantity?
  | .scalar _ v => v.quantity?
  | .object cls attrs => if cls.identity == .ratio then ratio? attrs else none
  | _ => none

def complexParts? : Value → Option (Binary64 × Binary64)
  | .complex re im => some (re, im)
  | .extended _ v => v.complexParts?
  | .scalar _ v => v.complexParts?
  | _ => none

def textOf? : Value → Option String
  | .str s => some s
  | .extended _ v => v.textOf?
  | .member _ .str _ v => v.textOf?
  | .scalar _ v => v.textOf?
  | _ => none

def complexEq (re im : Binary64) (b : Value) : Bool :=
  match b.complexParts? with
  | some (r, i) => re.eq r && im.eq i
  | none =>
    match b.quantity? with
    | some q => im.isZero && (Quantity.binary re).eq q
    | none => false

/-- Microseconds since midnight by universal time, where the offset is known. -/
def clockInstant (t : ClockTime) : Bool × Int :=
  (t.offset.isSome, t.sinceMidnight - t.offset.getD 0)

def instant (m : DateTime) : Bool × Int :=
  (m.time.offset.isSome, m.sinceStart - m.time.offset.getD 0)

/-- The integers of a range, none of them listed: how many, the first and the step. -/
def rangeShape (parts : List Value) : Option (Nat × Int × Int) :=
  match parts with
  | [.int start, .int stop, .int step] =>
    let count : Int :=
      if 0 < step then (if start < stop then (stop - start - 1) / step + 1 else 0)
      else if step < 0 then (if stop < start then (start - stop - 1) / (-step) + 1 else 0)
      else 0
    let n := count.toNat
    some (n, if n == 0 then 0 else start, if n ≤ 1 then 0 else step)
  | _ => none

def isNamespaceLike (c : Class) : Bool :=
  match c.layout with
  | .record .. => false
  | _ => true

def constantOf (c : Class) (name : String) : Option Value :=
  match c.layout with
  | .record _ constants => ((constants.find? (·.1 == name)).map Prod.snd).map ofConstant
  | _ => none

/-- Whether a value counts as true: numbers that are not zero, texts and containers that are not
empty, and all else but nothing itself. -/
def isTrue : Value → Bool
  | .null => false
  | .bytes bs => !bs.isEmpty
  | .list xs => !xs.isEmpty
  | .tuple xs => !xs.isEmpty
  | .set xs => !xs.isEmpty
  | .frozenset xs => !xs.isEmpty
  | .dict es => !es.isEmpty
  | .duration d => d.micros != 0
  | .complex re im => !(re.isZero && im.isZero)
  | .extended _ v => v.isTrue
  | .member _ .flag _ v => v.isTrue
  | v =>
    match v.textOf?, v.quantity? with
    | some s, _ => !s.isEmpty
    | none, some q => !(q.eq (.int 0))
    | none, none => true

/-- Whether an attribute takes part in equality: of the classes with declared fields only these do. -/
def isField (c : Class) (name : String) : Bool :=
  match c.layout with
  | .record fields _ => fields.contains name
  | _ => true

def complete (c : Class) (attrs : List (String × Value)) : Bool :=
  match c.layout with
  | .record fields _ => fields.all fun f => (attr? f attrs).isSome || (constantOf c f).isSome
  | _ => true

/-- Whether an attribute that is not set has this value from the class. -/
def suppliedEq (c : Class) (name : String) (v : Value) : Bool :=
  match constantOf c name, v with
  | some (.int m), .int n => m == n
  | some (.bool m), .bool n => m == n
  | some (.str m), .str n => m == n
  | some .null, .null => true
  | _, _ => false

/-- The single item of an array of one, or the value itself. -/
def single? : Value → Option Value
  | .array _ _ [v] => some v
  | .array .. => none
  | .list [v] => some v
  | v => some v

/-- Equality of a number and a value, also where that is an array of one. -/
def quantityEq (q : Quantity) (b : Value) : Bool :=
  match b with
  | .array _ _ [v] => (v.quantity?).any q.eq
  | b =>
    match b.complexParts? with
    | some (re, im) => im.isZero && q.eq (.binary re)
    | none => (b.quantity?).any q.eq

mutual

def eq (a b : Value) : Bool :=
  match a with
  | .null => match b.base with
    | .null => true
    | _ => false
  | .bool x => quantityEq (.int (if x then 1 else 0)) b
  | .int n => quantityEq (.int n) b
  | .float x => quantityEq (.binary x) b
  | .decimal d => quantityEq (.decimal d) b
  | .str s => b.textOf? == some s
  | .complex re im => complexEq re im b
  | .bytes bs => match b.base with
    | .bytes cs => bs == cs
    | _ => false
  | .date d => match b with
    | .date e => d == e
    | _ => false
  | .time t => match b with
    | .time u => clockInstant t == clockInstant u
    | _ => false
  | .datetime m => match b with
    | .datetime n => instant m == instant n
    | _ => false
  | .duration d => match b with
    | .duration e => d == e
    | _ => false
  | .uuid u => match b with
    | .uuid v => u == v
    | _ => false
  | .path p => match b with
    | .path q => p == q
    | _ => false
  | .list xs => match b.base with
    | .list ys => eqItems xs ys
    | _ => false
  | .tuple xs => match b.base with
    | .tuple ys => eqItems xs ys
    | _ => false
  | .set xs => eqSet xs b
  | .frozenset xs => eqSet xs b
  | .dict es => match b.base with
    | .dict fs => es.length == fs.length && eqEntries es fs
    | _ => false
  | .extended .orderedDict (.dict es) => match b with
    | .extended .orderedDict (.dict fs) => eqOrdered es fs
    | b => match b.base with
      | .dict fs => es.length == fs.length && eqEntries es fs
      | _ => false
  | .extended _ v => eq v b
  | .member _ .int _ v => eq v b
  | .member _ .str _ v => eq v b
  | .member cls _ name v => match b with
    | .member cls' _ name' v' => cls == cls' && name == name' && (name.isSome || eq v v')
    | _ => false
  | .object cls attrs =>
    match cls.identity with
    | .each => false
    | .ratio => (ratio? attrs).any fun q => quantityEq q b
    | .fields _ => match b with
      | .object cls' attrs' =>
        cls.name == cls'.name && complete cls attrs && complete cls attrs' &&
          (!isNamespaceLike cls || attrs.length == attrs'.length) && eqAttrs cls attrs attrs' &&
          attrs'.all fun p => !isField cls p.1 || (attr? p.1 attrs).isSome || suppliedEq cls p.1 p.2
      | _ => false
  | .type q => match b with
    | .type r => q == r
    | _ => false
  | .function q => match b with
    | .function r => q == r
    | _ => false
  | .method .. => false
  | .array _ _ xs => match xs with
    | [x] => match single? b with
      | some y => eq x y
      | none => false
    | _ => false
  | .scalar _ v => eq v b
  | .iterator _ => false
  | .described kind parts => match b with
    | .described kind' parts' =>
      match kind, kind' with
      | .range, .range => rangeShape parts == rangeShape parts'
      | .awaitable, _ => false
      | .keysView, .keysView => parts.length == parts'.length && eqMembers parts parts'
      | _, _ => kind == kind' && eqItems parts parts'
    | .set ys => kind == .keysView && parts.length == ys.length && eqMembers parts ys
    | .frozenset ys => kind == .keysView && parts.length == ys.length && eqMembers parts ys
    | _ => false
  | .link i => match b with
    | .link j => i == j
    | _ => false

def eqSet (xs : List Value) (b : Value) : Bool :=
  match b with
  | .set ys => xs.length == ys.length && eqMembers xs ys
  | .frozenset ys => xs.length == ys.length && eqMembers xs ys
  | .described .keysView ys => xs.length == ys.length && eqMembers xs ys
  | _ => false

def eqItems : List Value → List Value → Bool
  | [], [] => true
  | x :: xs, y :: ys => eq x y && eqItems xs ys
  | _, _ => false

def eqMembers : List Value → List Value → Bool
  | [], _ => true
  | x :: xs, ys => ys.any (eq x) && eqMembers xs ys

def eqEntries : List (Value × Value) → List (Value × Value) → Bool
  | [], _ => true
  | (k, v) :: rest, fs =>
    (match fs.find? fun f => eq k f.1 with
      | some f => eq v f.2
      | none => false) && eqEntries rest fs

def eqOrdered : List (Value × Value) → List (Value × Value) → Bool
  | [], [] => true
  | (k, v) :: es, (l, w) :: fs => eq k l && eq v w && eqOrdered es fs
  | _, _ => false

def eqAttrs (cls : Class) : List (String × Value) → List (String × Value) → Bool
  | [], _ => true
  | (k, v) :: rest, attrs =>
    (!isField cls k || match attr? k attrs with
      | some w => eq v w
      | none => suppliedEq cls k v) && eqAttrs cls rest attrs

end

/-- The complaint about a value that can be neither a key nor an element. -/
def unhashable (className : String) : Fault := ⟨.type, s!"unhashable type: '{className}'"⟩

def missingField? (c : Class) (attrs : List (String × Value)) : Option Fault :=
  match c.layout with
  | .record fields _ =>
    (fields.find? fun f => (attr? f attrs).isNone && (constantOf c f).isNone).map fun f =>
      ⟨.attribute, s!"'{c.name.lastName}' object has no attribute '{f}'"⟩
  | _ => none

mutual

/-- What keeps a value from being a key or an element, where there is such a thing: that it can
change, or that looking at it fails. -/
def hashFault? : Value → Option Fault
  | .list _ => some (unhashable "list")
  | .set _ => some (unhashable "set")
  | .dict _ => some (unhashable "dict")
  | .decimal d => if d.isSignalling then some ⟨.type, "Cannot hash a signaling NaN value."⟩ else none
  | .extended .mutableBytes _ => some (unhashable "bytearray")
  | .extended .orderedDict _ => some (unhashable "collections.OrderedDict")
  | .extended .counter _ => some (unhashable "Counter")
  | .extended (.subclass q) v => (hashFault? v).map fun _ => unhashable q.path
  | .extended _ v => hashFault? v
  | .tuple items => hashFaultIn? items
  | .frozenset _ => none
  | .object cls attrs =>
    match cls.identity with
    | .fields true => (missingField? cls attrs).or (hashFaultOfFields? cls attrs)
    | .fields false => some (unhashable cls.name.lastName)
    | _ => none
  | .array .. => some (unhashable "numpy.ndarray")
  | .described kind _ =>
    match kind with
    | .slice => some (unhashable "slice")
    | .deque => some (unhashable "collections.deque")
    | .keysView => some (unhashable "dict_keys")
    | _ => none
  | .link _ => some (unhashable "list")
  | _ => none

def hashFaultIn? : List Value → Option Fault
  | [] => none
  | x :: xs => (hashFault? x).or (hashFaultIn? xs)

def hashFaultOfFields? (cls : Class) : List (String × Value) → Option Fault
  | [] => none
  | (k, x) :: xs =>
    (if isField cls k then hashFault? x else none).or (hashFaultOfFields? cls xs)

end

def isHashable (v : Value) : Bool := (hashFault? v).isNone

end Value

end CallSnapshot
