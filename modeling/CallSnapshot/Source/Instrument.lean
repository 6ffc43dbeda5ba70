import CallSnapshot.Source.Exports
import CallSnapshot.Source.Layout

/-!
Instrumenting a module: each exported function is kept under another name, and its own name is
bound to a recorder of its calls. The recorder is imported ahead, behind whatever has to come
first. Names of kept functions begin with an underscore, so they are no exports, and a module that
has been instrumented has nothing left to instrument.
-/

namespace CallSnapshot.Source

def shadowLead : String := "_snap_"

def recorderName : String := "_snap_record"

def recorderModule : String := "io_snapshot.shim"

def recorderImport : Statement :=
  .loadFrom (some recorderModule) [⟨"record", some recorderName⟩] 0

def isLambda : Expr → Bool
  | .lambda .. => true
  | _ => false

/-- The name of the function that a statement defines, and the statement under another name. -/
def Statement.function? : Statement → Option (String × (String → Statement))
  | .function isAsync decorators name ps returns body =>
    some (name, fun id => .function isAsync decorators id ps returns body)
  | .assign [.name name] value =>
    if isLambda value then some (name, fun id => .assign [.name id] value) else none
  | .declare (.name name) plain type (some value) =>
    if isLambda value then some (name, fun id => .declare (.name id) plain type (some value))
    else none
  | _ => none

/-- Whether a name is one that instrumenting gives. -/
def isOwnName (name : String) : Bool := name.startsWith shadowLead || name == recorderName

/-- `name = _snap_record(shadow, 'name')`. -/
def wrapper (name shadow : String) : Statement :=
  .assign [.name name] (.call (.name recorderName) [.name shadow, .literal (.text name false)] [])

/-- A statement with its recorder where it defines an exported function, and that function's
name. -/
def Statement.wrap (exported : List String) (s : Statement) : List Statement × List String :=
  match s.function? with
  | some (name, rename) =>
    if exported.contains name && !isOwnName name then
      let shadow := shadowLead ++ name
      ([rename shadow, wrapper name shadow], [name])
    else ([s], [])
  | none => ([s], [])

namespace Module

def hasRecorder (m : Module) : Bool := m.any fun s => s.binds.contains recorderName

def isFuture : Statement → Bool
  | .loadFrom (some module) _ _ => module == "__future__"
  | _ => false

def isDocumentation : Statement → Bool
  | .expression (.literal (.text _ _)) => true
  | _ => false

/-- How many statements have to stay ahead of the recorder's import. -/
def leadLength (m : Module) : Nat :=
  let documented := (m.head?.map isDocumentation).getD false
  let rest := if documented then m.tail else m
  (if documented then 1 else 0) + (rest.takeWhile isFuture).length

def instrument (m : Module) : Module × List String :=
  let exported := m.exported
  let parts := m.map (Statement.wrap exported)
  let wrapped := parts.flatMap Prod.snd
  if wrapped.isEmpty then (m, [])
  else
    let body := parts.flatMap Prod.fst
    let lead := leadLength body
    (if hasRecorder body then body else body.take lead ++ recorderImport :: body.drop lead, wrapped)

end Module

/-- The text of an instrumented module, or nothing where there is nothing to record, and the names
of the functions that are recorded. -/
def instrument (source : String) : Except Fault (Option String × List String) := do
  let (m, wrapped) := (← parse source).instrument
  if wrapped.isEmpty then return (none, [])
  return (some ((← m.text) ++ "\n"), wrapped)

end CallSnapshot.Source
