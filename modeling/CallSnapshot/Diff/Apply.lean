import CallSnapshot.Diff.Compare

/-!
Carrying out changes on a value. Removals come last and in reverse order, so that the last items of
a sequence go first.
-/

namespace CallSnapshot.Diff

-- Powers are those of the core library, whatever is imported beside this module.
attribute [local instance (high)] instPowNat

def wrongType (message : String) : Fault := ⟨.type, message⟩

def badIndex (message : String) : Fault := ⟨.index, message⟩

def sliceFault : Fault :=
  wrongType "slice indices must be integers or None or have an __index__ method"

def sizeLimit : Int := 2 ^ (63 : Nat)

def fits (n : Int) : Bool := -sizeLimit ≤ n && n < sizeLimit

/-- A cut of a sequence: negative ones count from the end, others stop at the two ends. -/
def cut (length : Nat) (n : Int) : Nat :=
  if n < 0 then (n + length).toNat else min n.toNat length

def take (n : Int) (xs : List Value) : List Value := xs.take (cut xs.length n)

def drop (n : Int) (xs : List Value) : List Value := xs.drop (cut xs.length n)

def position (kind complaint : String) (length : Nat) (key : Value) : Except Fault Nat :=
  match int? key with
  | none => .error (wrongType s!"{kind} indices must be integers or slices, not {key.typeName}")
  | some n =>
    if !fits n then .error (badIndex "cannot fit 'int' into an index-sized integer")
    else
      let i := if n < 0 then n + length else n
      if 0 ≤ i && i < length then .ok i.toNat else .error (badIndex complaint)

/-- Fails for what can be no key. -/
def keyable (key : Value) : Except Fault Unit :=
  match key.hashFault? with
  | some f => .error f
  | none => .ok ()

def missingKey (key : Value) : Fault := ⟨.key, key.display⟩

/-- Equal to a key, or the same mark that equals nothing. -/
def sameKey (a b : Value) : Bool :=
  a.eq b || match a, b with
    | .float .nan, .float .nan => true
    | _, _ => false

def setItem (key v : Value) (entries : List (Value × Value)) : List (Value × Value) :=
  Codec.putEntry key v entries

def removeKey? (key : Value) : List (Value × Value) → Option (List (Value × Value))
  | [] => none
  | (k, v) :: rest =>
    if sameKey k key then some rest else (removeKey? key rest).map ((k, v) :: ·)

def item (v key : Value) : Except Fault Value :=
  match v with
  | .dict es => do
    keyable key
    match lookup? key es with
    | some w => .ok w
    | none => .error (missingKey key)
  | .list xs => do .ok (xs.getD (← position "list" "list index out of range" xs.length key) .null)
  | .tuple xs => do .ok (xs.getD (← position "tuple" "tuple index out of range" xs.length key) .null)
  | .str s => do
    let i ← position "string" "string index out of range" s.length key
    .ok (.str (String.ofList ((s.toList.drop i).take 1)))
  | .bytes bs => do
    let i ← position "byte" "index out of range" bs.length key
    .ok (.int ((bs.getD i 0).toNat : Int))
  | .extended .counter (.dict es) => do
    keyable key
    .ok ((lookup? key es).getD (.int 0))
  | .extended _ w => item w key
  | .described .deque xs => do
    .ok (xs.getD (← position "sequence" "deque index out of range" xs.length key) .null)
  | v => .error (wrongType s!"'{v.typeName}' object is not subscriptable")

/-- A tuple with a new part in place of the items from an index on, `count` of them. -/
def splice (xs : List Value) (key : Value) (count : Nat) (part : List Value) : Except Fault Value :=
  match int? key with
  | some n => .ok (.tuple (take n xs ++ part ++ drop (n + count) xs))
  | none =>
    match key with
    | .null =>
      if count == 0 then .ok (.tuple (xs ++ part ++ xs))
      else .error (wrongType "unsupported operand type(s) for +: 'NoneType' and 'int'")
    | _ => .error sliceFault

def replaceItem (v key new : Value) : Except Fault Value :=
  match v with
  | .tuple xs => splice xs key 1 [new]
  | .dict es => do
    keyable key
    .ok (.dict (setItem key new es))
  | .list xs => do
    .ok (.list (xs.set (← position "list" "list assignment index out of range" xs.length key) new))
  | .extended (.namedTuple _ _) (.tuple xs) => splice xs key 1 [new]
  | .extended kind w => do .ok (.extended kind (← replaceItem w key new))
  | .described .deque xs => do
    .ok (.described .deque
      (xs.set (← position "sequence" "deque index out of range" xs.length key) new))
  | v => .error (wrongType s!"'{v.typeName}' object does not support item assignment")

def removeItem (v key : Value) : Except Fault Value :=
  match v with
  | .tuple xs => splice xs key 1 []
  | .dict es => do
    keyable key
    match removeKey? key es with
    | some fs => .ok (.dict fs)
    | none => .error (missingKey key)
  | .list xs => do
    .ok (.list (xs.eraseIdx (← position "list" "list assignment index out of range" xs.length key)))
  | .extended (.namedTuple _ _) (.tuple xs) => splice xs key 1 []
  | .extended .counter (.dict es) => do
    keyable key
    .ok (.extended .counter (.dict ((removeKey? key es).getD es)))
  | .extended kind w => do .ok (.extended kind (← removeItem w key))
  | .described .deque xs => do
    .ok (.described .deque
      (xs.eraseIdx (← position "sequence" "deque index out of range" xs.length key)))
  | v => .error (wrongType s!"'{v.typeName}' object does not support item deletion")

/-- Inserts before an index; an index beyond an end means that end. -/
def insertItem (xs : List Value) (key new : Value) : Except Fault (List Value) :=
  match int? key with
  | none => .error (wrongType s!"'{key.typeName}' object cannot be interpreted as an integer")
  | some n =>
    if fits n then .ok (xs.insertIdx (cut xs.length n) new)
    else .error ⟨.overflow, "Python int too large to convert to C ssize_t"⟩

def createItem (v key new : Value) : Except Fault Value :=
  match v with
  | .list xs => do .ok (.list (← insertItem xs key new))
  | .tuple xs => splice xs key 0 [new]
  | .extended (.namedTuple _ _) (.tuple xs) => splice xs key 0 [new]
  | .extended kind (.list xs) => do .ok (.extended kind (.list (← insertItem xs key new)))
  | v => replaceItem v key new

mutual

def copyable (v : Value) : Except Fault Unit :=
  match v with
  | .list xs => copyableIn xs
  | .tuple xs => copyableIn xs
  | .set xs => copyableIn xs
  | .frozenset xs => copyableIn xs
  | .dict es => copyableEntries es
  | .extended _ v => copyable v
  | .object c as =>
    match c.layout with
    | .barred fault => .error ⟨.runtime, fault⟩
    | _ => copyableAttrs as
  | .iterator q =>
    if q.path == "generator" then .error (wrongType s!"cannot pickle '{q.path}' object") else .ok ()
  | .described .keysView _ => .error (wrongType "cannot pickle 'dict_keys' object")
  | .described .awaitable _ => .error (wrongType "cannot pickle 'coroutine' object")
  | .described _ xs => copyableIn xs
  | _ => .ok ()

def copyableIn : List Value → Except Fault Unit
  | [] => .ok ()
  | x :: xs => do
    copyable x
    copyableIn xs

def copyableEntries : List (Value × Value) → Except Fault Unit
  | [] => .ok ()
  | (k, v) :: es => do
    copyable k
    copyable v
    copyableEntries es

def copyableAttrs : List (String × Value) → Except Fault Unit
  | [] => .ok ()
  | (_, v) :: es => do
    copyable v
    copyableAttrs es

end

def applyAt (c : Change) : (path : List Value) → Value → Except Fault Value
  | [], _ => do
    copyable c.value
    .ok c.value
  | [key], v =>
    match c.kind with
    | .remove => removeItem v key
    | .create => do
      copyable c.value
      createItem v key c.value
    | .change => do
      copyable c.value
      replaceItem v key c.value
  | key :: path@(_ :: _), v => do
    let inner ← item v key
    replaceItem v key (← applyAt c path inner)

def isRemoval (c : Change) : Bool := c.kind == .remove

def schedule (cs : List Change) : List Change :=
  cs.filter (fun c => !isRemoval c) ++ (cs.filter isRemoval).reverse

def applyAll : List Change → Value → Except Fault Value
  | [], v => .ok v
  | c :: cs, v => do applyAll cs (← applyAt c c.path v)

def apply (v : Value) (cs : List Change) : Except Fault Value := do
  copyable v
  applyAll (schedule cs) v

end CallSnapshot.Diff
