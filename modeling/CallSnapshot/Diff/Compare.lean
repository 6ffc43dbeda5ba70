import CallSnapshot.Diff.Change

/-!
The changes that lead from one value to another, in order. Dictionaries, lists and tuples are gone
into where both sides are of the same kind; all else is compared whole, numbers within a tolerance.
Nothing is guessed: a value that has moved is removed here and created there.
-/

namespace CallSnapshot.Diff

/-- How far two numbers may lie apart: `absolute + relative * |b|`. -/
structure Tolerance where
  relative : Binary64
  absolute : Binary64
  nanEqual : Bool
  /-- Where a bound was given that is no number: what comes of using it. -/
  fault : Option Fault := none
  deriving DecidableEq, Repr, Inhabited

def exact : Tolerance := ⟨Binary64.zero, Binary64.zero, true, none⟩

def close (t : Tolerance) (a b : Binary64) : Bool :=
  if a.isNan || b.isNan then t.nanEqual && a.isNan && b.isNan
  else if a.isInfinite || b.isInfinite then a.eq b
  else (a.sub b).abs.le (t.absolute.add (t.relative.mul b.abs))

inductive Container where
  | mapping
  | list
  | tuple
  deriving DecidableEq, Repr

def container? : Value → Option Container
  | .dict _ => some .mapping
  | .list _ => some .list
  | .tuple _ => some .tuple
  | .extended _ v => container? v
  | _ => none

def isBool : Value → Bool
  | .bool _ => true
  | _ => false

def int? : Value → Option Int
  | .int n => some n
  | .bool b => some (if b then 1 else 0)
  | .extended _ v => int? v
  | .member _ .int _ v => int? v
  | _ => none

inductive Number where
  | int (n : Int)
  | binary (x : Binary64)
  deriving DecidableEq, Repr

def number? : Value → Option Number
  | .int n => some (.int n)
  | .float x => some (.binary x)
  | .extended _ v => number? v
  | .member _ .int _ v => number? v
  | .scalar "float64" (.float x) => some (.binary x)
  | _ => none

def Number.toBinary : Number → Except Fault Binary64
  | .int n =>
    match Binary64.ofInt? n with
    | some x => .ok x
    | none => .error Grid.tooLarge
  | .binary x => .ok x

def fractionsEqual (t : Tolerance) (a b : Binary64) : Except Fault Bool :=
  match t.fault with
  | some f => if a.isFinite && b.isFinite then .error f else .ok (close t a b)
  | none => .ok (close t a b)

def numbersEqual (t : Tolerance) (a b : Number) : Except Fault Bool :=
  match a, b with
  | .int m, .int n => .ok (m == n)
  | a, b => do fractionsEqual t (← a.toBinary) (← b.toBinary)

def boundFault (v : Value) : Fault :=
  ⟨.type, s!"unsupported operand type(s) for *: '{v.typeName}' and 'float'"⟩

def bound (v : Value) : Except Fault Binary64 :=
  match v with
  | .bool b => .ok (Binary64.ofNat (if b then 1 else 0))
  | v =>
    match number? v with
    | some n => n.toBinary
    | none => .error (boundFault v)

def Tolerance.ofSettings (relative absolute : Value) : Tolerance :=
  match bound relative, bound absolute with
  | .ok r, .ok a => ⟨r, a, true, none⟩
  | .error f, _ => { exact with fault := some f }
  | _, .error f => { exact with fault := some f }

/-- Whether two values that are not gone into count as equal. A truth value equals no number. -/
def valuesEqual (t : Tolerance) (a b : Value) : Except Fault Bool :=
  if isBool a || isBool b then .ok (isBool a && isBool b && a.eq b)
  else
    match number? a, number? b with
    | some m, some n => numbersEqual t m n
    | _, _ => .ok (container? a == container? b && a.eq b)

def entriesOf : Value → List (Value × Value)
  | .dict es => es
  | .extended _ v => entriesOf v
  | _ => []

def itemsOf : Value → List Value
  | .list xs => xs
  | .tuple xs => xs
  | .extended _ v => itemsOf v
  | _ => []

def lookup? (key : Value) (entries : List (Value × Value)) : Option Value :=
  (entries.find? fun e => e.1.eq key).map Prod.snd

def createFrom (path : List Value) : (index : Nat) → List Value → List Change
  | _, [] => []
  | i, y :: ys => ⟨path ++ [.int i], .create, y, .null⟩ :: createFrom path (i + 1) ys

def removeFrom (path : List Value) : (index : Nat) → List Value → List Change
  | _, [] => []
  | i, x :: xs => ⟨path ++ [.int i], .remove, .null, x⟩ :: removeFrom path (i + 1) xs

def createEntries (path : List Value) (es fs : List (Value × Value)) : List Change :=
  (fs.filter fun f => (lookup? f.1 es).isNone).map fun f => ⟨path ++ [f.1], .create, f.2, .null⟩

def leaf (t : Tolerance) (path : List Value) (a b : Value) : Except Fault (List Change) := do
  .ok (if ← valuesEqual t a b then [] else [⟨path, .change, b, a⟩])

mutual

def changesAt (t : Tolerance) (path : List Value) (a b : Value) : Except Fault (List Change) :=
  match a with
  | .dict es =>
    if container? b == some .mapping then do
      .ok ((← changesEntries t path es (entriesOf b)) ++ createEntries path es (entriesOf b))
    else leaf t path a b
  | .list xs =>
    if container? b == some .list then changesItems t path 0 xs (itemsOf b) else leaf t path a b
  | .tuple xs =>
    if container? b == some .tuple then changesItems t path 0 xs (itemsOf b) else leaf t path a b
  | .extended kind v =>
    if (container? v).isSome && container? v == container? b then changesAt t path v b
    else leaf t path (.extended kind v) b
  | a => leaf t path a b

def changesEntries (t : Tolerance) (path : List Value) :
    List (Value × Value) → List (Value × Value) → Except Fault (List Change)
  | [], _ => .ok []
  | (k, v) :: rest, fs => do
    let here ← match lookup? k fs with
      | none => .ok [⟨path ++ [k], .remove, .null, v⟩]
      | some w => changesAt t (path ++ [k]) v w
    .ok (here ++ (← changesEntries t path rest fs))

def changesItems (t : Tolerance) (path : List Value) (index : Nat) :
    List Value → List Value → Except Fault (List Change)
  | [], ys => .ok (createFrom path index ys)
  | xs@(_ :: _), [] => .ok (removeFrom path index xs)
  | x :: xs, y :: ys => do
    let here ← changesAt t (path ++ [.int index]) x y
    .ok (here ++ (← changesItems t path (index + 1) xs ys))

end

def changes (t : Tolerance) (a b : Value) : Except Fault (List Change) := changesAt t [] a b

end CallSnapshot.Diff
