import CallSnapshot.Config
import CallSnapshot.Program.Execute

/-!
Importing modules by name. A module is looked for in the directories of the package above it, or on
the search path where there is none. It is registered before its statements are done, so that
modules may import each other, and forgotten again if they fail.
-/

namespace CallSnapshot

namespace Loading

open Source (Statement)

inductive Found where
  | file (p : Path) (isPackage : Bool)
  /-- Directories that make a package without a file of its own. -/
  | directories (ps : List Path)
  deriving Repr

def initName : String := "__init__"

def sourceSuffix : String := ".py"

def find (fs : Files) (name : String) : (bare dirs : List Path) → Option Found
  | bare, [] => if bare.isEmpty then none else some (.directories bare)
  | bare, dir :: dirs =>
    let init := (dir.child name).child (initName ++ sourceSuffix)
    let own := dir.child (name ++ sourceSuffix)
    if fs.isFile init then some (.file init true)
    else if fs.isFile own then some (.file own false)
    else find fs name (if fs.isDirectory (dir.child name) then bare ++ [dir.child name] else bare) dirs

def dropMark (cs : List Char) : List Char :=
  match cs with
  | '\ufeff' :: cs => cs
  | cs => cs

def statementsIn (p : Path) : Loading (List Statement) := do
  match (← get).files.read p with
  | .error e => throw (e.fault p.text)
  | .ok content =>
    match Config.textOf content with
    | .error f => throw ⟨.sourceText, f.message⟩
    | .ok s => settle (Source.parse (String.ofList (dropMark s.toList)))

def parentName (name : String) : String := ".".intercalate (name.splitOn ".").dropLast

def missing (name : String) : Fault := ⟨.missingModule, s!"No module named '{name}'"⟩

def importFile (execute : Nat → List Statement → Loading Unit) (name : String) (p : Path)
    (isPackage : Bool) : Loading Thing := do
  let m : ModuleRecord := {
    name, package := if isPackage then name else parentName name, file := some p
    search := if isPackage then some [p.parent] else none, names := [], isStarting := true }
  let (program, number) := (← get).addModule m
  set (program.register name number)
  match ← outcome (do execute number (← statementsIn p)) with
  | .ok () =>
    modify fun p => p.changeModule number fun m => { m with isStarting := false }
    return .module number
  | .error f =>
    modify fun p => p.forget name
    throw f

def importFound (execute : Nat → List Statement → Loading Unit) (name last : String)
    (dirs : List Path) : Loading Thing := do
  match find (← get).files last [] dirs with
  | none => throw (missing name)
  | some (.file p isPackage) => importFile execute name p isPackage
  | some (.directories ds) =>
    let (program, number) := (← get).addModule ⟨name, name, none, some ds, [], false⟩
    set (program.register name number)
    return .module number

def importParts (execute : Nat → List Statement → Loading Unit) : List String → Loading Thing
  | [] => throw ⟨.value, "Empty module name"⟩
  | last :: parents => do
    let name := ".".intercalate (last :: parents).reverse
    if let some t := (← get).registeredThing? name then return t
    if parents.isEmpty then importFound execute name last (← get).searchPath
    else
      match ← importParts execute parents with
      | .module parent =>
        if let some t := (← get).registeredThing? name then return t
        match ((← get).module? parent).bind ModuleRecord.search with
        | none => throw ⟨.missingModule, (missing name).message ++ s!"; '{parentName name}' is not a package"⟩
        | some dirs =>
          let t ← importFound execute name last dirs
          bind parent last t
          return t
      | _ => return .foreign ⟨name, ""⟩

/-- Imports a module by its dotted name; `fuel` bounds the imports within each other. -/
def importName : (fuel : Nat) → String → Loading Thing
  | 0, _ => throw ⟨.other "RecursionError", "maximum recursion depth exceeded"⟩
  | fuel + 1, name => importParts (Execute.execAll (importName fuel)) (name.splitOn ".").reverse

def importModule (name : String) : Loading Thing := do importName (← get).importLimit name

def runFile (number : Nat) (p : Path) : Loading Unit := do
  let statements ← statementsIn p
  Execute.execAll (importName (← get).importLimit) number statements

end Loading

namespace Program

/-- A program of which nothing is loaded yet. Modules are looked for in the project and, before
that, in its directory for sources. -/
def start (host : Host) (fs : Files) (project : Path) : Program :=
  ⟨host, fs, [project.child "src", project].filter fs.isDirectory, [], []⟩

def definition (p : Program) (module path : String) : Except Fault Thing :=
  let find : Loading Thing := do
    let t ← Loading.importModule module
    (path.splitOn ".").foldlM (fun t name => do Loading.settle (Scope.attributeOf (← get) t name)) t
  (find.run p).1

/-- The definitions of a program and of its host, as a library. -/
def library (p : Program) : Codec.Library :=
  let known := p.host.catalogue
  let other := fun (q : Qualified) => (p.definition q.module q.path).toOption
  { resolve := fun module path =>
      if module.startsWith "." then known.resolve module path
      else
        match p.definition module path with
        | .ok (.foreign q) => known.resolve q.module q.path
        | .ok t => .ok t.toValue
        | .error f => .error f
    create := fun q =>
      match other q with
      | some (.cls c) => .ok (.object c [])
      | some (.enumeration _) => .error Catalogue.blankMember
      | _ => known.create q
    members? := fun q =>
      match other q with
      | some (.enumeration e) => some e.allMembers
      | _ => (known.library.members? q) }

end Program

end CallSnapshot
