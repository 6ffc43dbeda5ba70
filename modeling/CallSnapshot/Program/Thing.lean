import CallSnapshot.Capture.Routine
import CallSnapshot.Codec.Standard
import CallSnapshot.Files.Tree
import CallSnapshot.Source.Exports

/-!
Programs as they are loaded: modules, what their names stand for, and the host that they run in. The
host supplies modules beside those of the project, and it does the work of functions that hand
their calls over to it.
-/

namespace CallSnapshot

/-- What is there for a program beside its own files. -/
structure Host where
  /-- The names of modules that are loaded from elsewhere. -/
  modules : List String
  catalogue : Catalogue
  /-- What the functions of a file do that hand over their calls under a name. -/
  behaviour : (file : Path) → (name : String) → Option (Routine Nat)

structure Definition where
  /-- The number of the module it belongs to. -/
  origin : Nat
  module : String
  file : Path
  path : String
  isAsync : Bool
  params : Source.Params
  body : List Source.Statement

inductive Thing where
  | value (v : Value)
  | function (d : Definition)
  /-- A function whose calls are recorded under a name. -/
  | recorded (name : String) (inner : Thing)
  | cls (c : Class)
  | enumeration (e : Enumeration)
  | fault (f : Fault)
  | module (number : Nat)
  /-- A definition of the host, or one of its modules where the path is empty. -/
  | foreign (name : Qualified)
  /-- Something of which nothing is known. -/
  | unknown

instance : Inhabited Thing := ⟨.unknown⟩

structure ModuleRecord where
  name : String
  /-- The package that relative imports start from. -/
  package : String
  file : Option Path
  /-- Where a package looks for its modules; none for what is no package. -/
  search : Option (List Path)
  names : List (String × Thing)
  /-- Whether it is being imported right now. -/
  isStarting : Bool
  deriving Inhabited

structure Program where
  host : Host
  files : Files
  searchPath : List Path
  modules : List ModuleRecord
  /-- The modules that an import finds by name. -/
  registered : List (String × Nat)

/-- Work that loads modules and may fail. -/
abbrev Loading := ExceptT Fault (StateM Program)

namespace Host

/-- Whether a dotted name leads to a module of the host. -/
def hasModule (h : Host) (name : String) : Bool :=
  let first := (name.splitOn ".").headD ""
  h.modules.contains first || h.catalogue.hasModule first

def definition (h : Host) (q : Qualified) : Thing :=
  match h.catalogue.definitions.find? (·.1 == q) with
  | some (_, v) => .value v
  | none => .foreign q

end Host

namespace Thing

def isCallable : Thing → Bool
  | .value (.type _) => true
  | .value (.function _) => true
  | .value (.method _ _) => true
  | .function _ => true
  | .recorded _ _ => true
  | .cls _ => true
  | .enumeration _ => true
  | .foreign q => !q.path.isEmpty
  | _ => false

def module? : Thing → Option String
  | .value (.type q) => some q.module
  | .value (.function q) => some q.module
  | .function d => some d.module
  | .recorded _ t => t.module?
  | .cls c => some c.name.module
  | .enumeration e => some e.name.module
  | .foreign q => some q.module
  | _ => none

def toValue : Thing → Value
  | .value v => v
  | .function d => .function ⟨d.module, d.path⟩
  | .recorded name t => .function ⟨(t.module?).getD "", name⟩
  | .cls c => .type c.name
  | .enumeration e => .type e.name
  | .foreign q => .function q
  | _ => .object ⟨builtin "object", .openEnded, .each⟩ []

end Thing

namespace Program

def module? (p : Program) (number : Nat) : Option ModuleRecord := p.modules[number]?

def number? (p : Program) (name : String) : Option Nat := p.registered.lookup name

/-- What is registered under a name, be it the host's. -/
def registeredThing? (p : Program) (name : String) : Option Thing :=
  match p.number? name with
  | some n => some (.module n)
  | none => if p.host.hasModule name then some (.foreign ⟨name, ""⟩) else none

def addModule (p : Program) (m : ModuleRecord) : Program × Nat :=
  ({ p with modules := p.modules ++ [m] }, p.modules.length)

def register (p : Program) (name : String) (number : Nat) : Program :=
  { p with registered := Json.put name number p.registered }

def forget (p : Program) (name : String) : Program :=
  { p with registered := p.registered.filter fun r => r.1 != name }

def changeModule (p : Program) (number : Nat) (f : ModuleRecord → ModuleRecord) : Program :=
  { p with modules := p.modules.modify number f }

def bind (p : Program) (number : Nat) (name : String) (t : Thing) : Program :=
  p.changeModule number fun m => { m with names := Json.put name t m.names }

def unbind (p : Program) (number : Nat) (name : String) : Program :=
  p.changeModule number fun m => { m with names := m.names.filter fun x => x.1 != name }

def lookup? (p : Program) (number : Nat) (name : String) : Option Thing :=
  (p.module? number).bind fun m => m.names.lookup name

/-- How many imports may lie within each other: each has a file and a name of its own. -/
def importLimit (p : Program) : Nat := (p.searchPath.length + 1) * (p.files.entries.length + 1)

end Program

end CallSnapshot
