import CallSnapshot.Program.Expression

/-!
Statements at the top level of a module: they bind names, import other modules and may fail. How a
module is imported is given by the caller.
-/

namespace CallSnapshot

namespace Loading

def fail {α : Type} (kind : FaultKind) (message : String) : Loading α := throw ⟨kind, message⟩

def settle {α : Type} : Except Fault α → Loading α
  | .ok x => pure x
  | .error f => throw f

/-- The outcome of something that may fail, without failing. -/
def outcome {α : Type} (c : Loading α) : Loading (Except Fault α) := fun p =>
  let (r, p) := c.run p
  (.ok r, p)

def bind (number : Nat) (name : String) (t : Thing) : Loading Unit :=
  modify fun p => p.bind number name t

def eval (number : Nat) (e : Source.Expr) : Loading Thing := do
  settle (Scope.eval ⟨← get, number⟩ e)

end Loading

namespace Execute

open Source (Expr Statement Alias Params Param Handler)

def importFault (message : String) : Fault := ⟨.other "ImportError", message⟩

/-- The name of a module seen from a package, where the number of dots says how far up. -/
def absoluteName (package : String) (level : Nat) (name : Option String) : Except Fault String :=
  match level with
  | 0 => .ok (name.getD "")
  | level + 1 =>
    let parts := package.splitOn "."
    if package.isEmpty then .error (importFault "attempted relative import with no known parent package")
    else if parts.length ≤ level then
      .error (importFault "attempted relative import beyond top-level package")
    else
      let base := ".".intercalate (parts.take (parts.length - level))
      .ok (name.elim base fun n => base ++ "." ++ n)

def missingName (m : ModuleRecord) (name : String) : Fault :=
  let place := m.file.elim "unknown location" Path.text
  if m.isStarting then
    importFault (s!"cannot import name '{name}' from partially initialized module '{m.name}' (most " ++
      s!"likely due to a circular import) ({place})")
  else importFault s!"cannot import name '{name}' from '{m.name}' ({place})"

variable (importer : String → Loading Thing)

def ensureMember (number : Nat) (m : ModuleRecord) (name : String) : Loading Unit := do
  let p ← get
  if m.search.isNone || (p.lookup? number name).isSome then return
  match ← Loading.outcome (importer (m.name ++ "." ++ name)) with
  | .ok _ => return
  | .error f =>
    if f == ⟨.missingModule, s!"No module named '{m.name}.{name}'"⟩ then return else throw f

/-- A name of a module, or the module of that name below it. -/
def member (t : Thing) (name : String) : Loading Thing := do
  match t with
  | .module number =>
    let m := ((← get).module? number).getD default
    ensureMember importer number m name
    let p ← get
    let found := ((p.lookup? number name).orElse fun _ => (Scope.mk p number).ownName? name).orElse
      fun _ => p.registeredThing? (m.name ++ "." ++ name)
    match found with
    | some t => return t
    | none => throw (missingName m name)
  | t => Loading.settle (Scope.attributeOf (← get) t name)

def offered (m : ModuleRecord) : List String :=
  match m.names.lookup Source.allName with
  | some (.value (.list vs)) => vs.filterMap Value.textOf?
  | some (.value (.tuple vs)) => vs.filterMap Value.textOf?
  | _ => (m.names.map Prod.fst).filter fun n => !n.startsWith "_"

def takeAll (number : Nat) (t : Thing) : Loading Unit := do
  match t with
  | .module source =>
    let m := ((← get).module? source).getD default
    (offered m).forM fun name => do
      ensureMember importer source m name
      let p ← get
      Loading.bind number name (← Loading.settle (Scope.attributeOf p t name))
  | _ => return

def load (number : Nat) (a : Alias) : Loading Unit := do
  let t ← importer a.name
  match a.bound with
  | some name => Loading.bind number name t
  | none =>
    let first := (a.name.splitOn ".").headD ""
    Loading.bind number first (← importer first)

def loadFrom (number : Nat) (name : Option String) (names : List Alias) (level : Nat) : Loading Unit := do
  let package := (Scope.mk (← get) number).record.package
  let t ← importer (← Loading.settle (absoluteName package level name))
  names.forM fun a => do
    if a.name == "*" then takeAll importer number t
    else Loading.bind number (a.bound.getD a.name) (← member importer t a.name)

def paramParts : Param → List Expr
  | .mk _ type default => type.toList ++ default.toList

def paramsParts : Params → List Expr
  | .mk leading ordinary rest named extra =>
    (leading ++ ordinary ++ rest.toList ++ named ++ extra.toList).flatMap paramParts

/-- Whether types are left unread. -/
def readsNoTypes (number : Nat) : Loading Bool := do
  match (← get).lookup? number "annotations" with
  | some (.foreign q) => return q.module == "__future__"
  | _ => return false

def evalAll (number : Nat) (es : List Expr) : Loading (List Thing) := es.mapM (Loading.eval number)

def evalType (number : Nat) (e : Expr) : Loading Unit := do
  if !(← readsNoTypes number) then
    let _ ← Loading.eval number e

def decorated (number : Nat) (decorators : List Thing) (name : String) (t : Thing) : Loading Thing := do
  if decorators.isEmpty then return t
  return .foreign ⟨(Scope.mk (← get) number).record.name, name⟩

def function (number : Nat) (isAsync : Bool) (decorators : List Expr) (name : String) (params : Params)
    (returns : Option Expr) (body : List Statement) : Loading Unit := do
  let ds ← evalAll number decorators
  if !(← readsNoTypes number) then
    let _ ← evalAll number (paramsParts params ++ returns.toList)
  let t := (Scope.mk (← get) number).define name isAsync params body
  Loading.bind number name (← decorated number ds name t)

def classMembers (s : Scope) : List Statement → Except Fault (List (String × Thing))
  | [] => .ok []
  | .assign [.name name] e :: rest => do
    let t ← s.eval e
    .ok ((name, t) :: (← classMembers ⟨s.program.bind s.number name t, s.number⟩ rest))
  | _ :: rest => classMembers s rest

def slotsName : String := "__slots__"

def slotsOf (members : List (String × Thing)) : Option (List String) :=
  match members.lookup slotsName with
  | some (.value (.str s)) => some [s]
  | some (.value (.tuple vs)) => some (vs.filterMap Value.textOf?)
  | some (.value (.list vs)) => some (vs.filterMap Value.textOf?)
  | _ => none

def layoutOf (slots : Option (List String)) (bases : List Thing) : Layout :=
  let base : Option Layout := bases.findSome? fun
    | .cls c => some c.layout
    | .value (.type q) => if q == builtin "object" then none else some .openEnded
    | _ => some .openEnded
  match slots, base with
  | some s, none => .slots [s]
  | some s, some (.slots ss) => .slots (s :: ss)
  | some s, some (.mixed ss) => .mixed (s :: ss)
  | some s, some _ => .mixed [s]
  | none, some (.slots ss) => .mixed ss
  | none, some l => l
  | none, none => .openEnded

def enumerationBase : Thing → Option Mixin
  | .enumeration e => some e.mixin
  | .foreign q =>
    if q.module != "enum" then none
    else
      match q.path with
      | "Enum" => some .plain
      | "IntEnum" => some .int
      | "StrEnum" => some .str
      | "Flag" => some .flag
      | "IntFlag" => some .flag
      | _ => none
  | _ => none

def mixinOf (bases : List Thing) : Option Mixin :=
  (bases.findSome? enumerationBase).map fun m =>
    bases.foldl (fun m t => match t with
      | .value (.type q) =>
        if q == builtin "str" then .str else if q == builtin "int" then .int else m
      | _ => m) m

def numbered (last : Int) : List (String × Thing) → List (String × Value)
  | [] => []
  | (name, t) :: rest =>
    if name.startsWith "_" then numbered last rest
    else
      match t with
      | .value (.int n) => (name, .int n) :: numbered n rest
      | .value v => (name, v) :: numbered last rest
      | _ => (name, .int (last + 1)) :: numbered (last + 1) rest

def cls (number : Nat) (decorators : List Expr) (name : String) (bases : List Expr)
    (body : List Statement) : Loading Unit := do
  let ds ← evalAll number decorators
  let bs ← evalAll number bases
  let s : Scope := ⟨← get, number⟩
  let members ← Loading.settle (classMembers s body)
  let q : Qualified := ⟨s.record.name, name⟩
  let t : Thing := match mixinOf bs with
    | some mixin => .enumeration ⟨q, mixin, numbered 0 members⟩
    | none => .cls ⟨q, layoutOf (slotsOf members) bs, .each⟩
  Loading.bind number name (← decorated number ds name t)

def assign (number : Nat) (target : Expr) (t : Thing) : Loading Unit := do
  match target with
  | .name id => Loading.bind number id t
  | target =>
    let names := target.targetNames
    let parts : List Thing := match t with
      | .value (.tuple vs) => vs.map .value
      | .value (.list vs) => vs.map .value
      | _ => []
    if parts.length == names.length then
      (names.zip parts).forM fun (name, t) => Loading.bind number name t
    else names.forM fun name => Loading.bind number name .unknown

def delete (number : Nat) (target : Expr) : Loading Unit := do
  match target with
  | .name id =>
    if ((← get).lookup? number id).isNone then throw (Scope.undefined id)
    modify fun p => p.unbind number id
  | _ => return

def raise (number : Nat) (e : Option Expr) : Loading Unit := do
  match e with
  | none => throw ⟨.runtime, "No active exception to reraise"⟩
  | some e =>
    match ← Loading.eval number e with
    | .fault f => throw f
    | .value (.type q) => throw (Scope.faultOf q.path [])
    | _ => throw ⟨.type, "exceptions must derive from BaseException"⟩

/-- What a fault counts as beside its own kind, the nearest first. -/
def widerKinds : List (String × String) := [
  ("ModuleNotFoundError", "ImportError"), ("IndexError", "LookupError"), ("KeyError", "LookupError"),
  ("FileNotFoundError", "OSError"), ("FileExistsError", "OSError"), ("PermissionError", "OSError"),
  ("IsADirectoryError", "OSError"), ("NotADirectoryError", "OSError"), ("ConnectionError", "OSError"),
  ("TimeoutError", "OSError"), ("ZeroDivisionError", "ArithmeticError"), ("OverflowError", "ArithmeticError"),
  ("RecursionError", "RuntimeError"), ("NotImplementedError", "RuntimeError"), ("UnicodeError", "ValueError"),
  ("UnicodeDecodeError", "ValueError"), ("UnboundLocalError", "NameError")]

def countsAs (f : Fault) (title : String) : Bool :=
  let own := f.kind.title
  own == title || widerKinds.lookup own == some title || title == "BaseException" ||
    (title == "Exception" && !f.kind.isFinal)

def handles (f : Fault) : Thing → Bool
  | .value (.type q) => countsAs f q.path
  | .value (.tuple vs) => vs.any fun
    | .type q => countsAs f q.path
    | _ => false
  | _ => false

mutual

def exec (number : Nat) (s : Statement) : Loading Unit := do
  match s with
  | .function isAsync decorators name params returns body =>
    function number isAsync decorators name params returns body
  | .cls decorators name bases _ body => cls number decorators name bases body
  | .assign targets value =>
    let t ← Loading.eval number value
    targets.forM fun target => assign number target t
  | .declare target _ type value =>
    match value with
    | some value => assign number target (← Loading.eval number value)
    | none => pure ()
    evalType number type
  | .augment target op value =>
    let old ← Loading.eval number target
    let t ← Loading.eval number value
    assign number target (← Loading.settle (Scope.binary op old t))
  | .delete targets => targets.forM (delete number)
  | .load names => names.forM (load importer number)
  | .loadFrom name names level => loadFrom importer number name names level
  | .fail e _ => raise number e
  | .expression e =>
    let _ ← Loading.eval number e
  | .assert test _ =>
    match ← Loading.eval number test with
    | .value v => if !Scope.isTrue (.value v) then throw ⟨.other "AssertionError", ""⟩
    | _ => return
  | .branch test body otherwise =>
    if Scope.isTrue (← Loading.eval number test) then execAll number body else execAll number otherwise
  | .guard _ body handlers otherwise final =>
    let r ← Loading.outcome (execAll number body)
    let r ← Loading.outcome (match r with
      | .ok () => execAll number otherwise
      | .error f => handle number f handlers)
    execAll number final
    Loading.settle r
  | .within _ items body =>
    let _ ← evalAll number (items.map Prod.fst)
    items.forM fun i => (i.2.toList.flatMap Expr.targetNames).forM fun n => Loading.bind number n .unknown
    execAll number body
  | .give _ => throw ⟨.sourceText, "'return' outside function"⟩
  | .nonlocal _ => throw ⟨.sourceText, "nonlocal declaration not allowed at module level"⟩
  | _ => return

def execAll (number : Nat) : List Statement → Loading Unit
  | [] => pure ()
  | s :: rest => do
    exec number s
    execAll number rest

def handle (number : Nat) (f : Fault) : List Handler → Loading Unit
  | [] => throw f
  | .mk type name body :: rest => do
    let taken ← match type with
      | none => pure true
      | some e => do pure (handles f (← Loading.eval number e))
    if taken then
      (name.toList).forM fun n => Loading.bind number n (.fault f)
      execAll number body
      (name.toList).forM fun n => modify fun p => p.unbind number n
    else handle number f rest

end

end Execute

end CallSnapshot
