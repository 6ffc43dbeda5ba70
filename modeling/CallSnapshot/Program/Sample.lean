import CallSnapshot.Capture.Sample
import CallSnapshot.Program.Thing
import CallSnapshot.Value.Display

/-!
Small modules to try loading with. Their functions hand their calls over to a host, a module of a
given name that knows what each of them does.
-/

namespace CallSnapshot

structure SampleFunction where
  name : String
  behaviour : Sample
  isAsync : Bool
  isLambda : Bool

inductive SampleClass where
  | plain (name : String)
  | slots (name : String) (attrs : List String)
  | enumeration (name : String) (members : List (String × Value))
  deriving Repr, Inhabited

structure SampleModule where
  path : Path
  head : List String
  /-- The list of exports, where the module has one. -/
  exports : Option (List String)
  classes : List SampleClass
  functions : List SampleFunction
  tail : List String
  /-- What the module raises at its end: a class and a message. -/
  failure : Option (String × String)

namespace SampleModule

def textsDisplay (ss : List String) : List Value := ss.map .str

def classLines : SampleClass → List String
  | .plain name => [s!"class {name}:", "    pass"]
  | .slots name attrs =>
    [s!"class {name}:", "    __slots__ = " ++ Value.display (.tuple (textsDisplay attrs))]
  | .enumeration name members =>
    ["import enum as _enum", s!"class {name}(_enum.Enum):"] ++
      members.map fun (n, v) => "    " ++ n ++ " = " ++ v.display

def functionLines (f : SampleFunction) : List String :=
  let call := s!"_m.call('{f.name}', args, kwargs)"
  if f.isLambda then [s!"{f.name} = lambda *args, **kwargs: {call}"]
  else
    let start := if f.isAsync then "async def " else "def "
    [start ++ f.name ++ "(*args, **kwargs):", s!"    return {call}"]

def lines (m : SampleModule) (hostName : String) : List String :=
  m.head ++ [s!"from {hostName} import module as _module", "_m = _module(__file__)"] ++
    (m.exports.toList.map fun ns => "__all__ = " ++ Value.display (.list (textsDisplay ns))) ++
    m.classes.flatMap classLines ++ m.functions.flatMap functionLines ++ m.tail ++
    m.failure.toList.map fun (kind, message) => s!"raise {kind}({Text.quoted message})"

def text (m : SampleModule) (hostName : String) : String :=
  "\n".intercalate (m.lines hostName) ++ "\n"

def host (hostName : String) (modules : List SampleModule) (catalogue : Catalogue) : Host where
  modules := hostName :: Standard.modules
  catalogue := catalogue
  behaviour file name := do
    let m ← modules.find? fun m => m.path == file
    let f ← m.functions.reverse.find? fun f => f.name == name
    some (f.behaviour.routine f.isAsync)

end SampleModule

end CallSnapshot
