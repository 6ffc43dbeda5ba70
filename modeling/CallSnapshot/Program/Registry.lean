import CallSnapshot.Files.Search
import CallSnapshot.Program.Import
import CallSnapshot.Scene
import CallSnapshot.Text.Identifier

/-!
The functions of a project, by name. Files are searched for the names they export, and only those
that export a wanted name are loaded. A file is loaded under the name that an import would use, so
that values rebuilt later have the same classes.
-/

namespace CallSnapshot

/-- A function that was found, and the file that exports it. -/
structure Entrance where
  name : String
  thing : Thing
  source : Path

structure Registry where
  /-- The modules of files, by number. -/
  loaded : List (Path × Nat) := []
  functions : List Entrance := []
  deriving Inhabited

namespace Registry

/-- A module name, and the directory it starts from. -/
structure Location where
  parts : List String
  base : Option Path
  deriving Repr, DecidableEq

def partsFrom (names : List String) : List String :=
  let last : Path := ⟨.relative, names.drop (names.length - 1)⟩
  let parts := names.dropLast ++ [last.stem]
  if 1 < parts.length && parts.getLast? == some Loading.initName then parts.dropLast else parts

def locateIn (file base : Path) : Except Fault (Option Location) :=
  match file.relativeTo? base with
  | none => .ok none
  | some [] => .error ⟨.value, "PosixPath('.') has an empty name"⟩
  | some names =>
    let parts := partsFrom names
    .ok (if parts.all Text.isIdentifier then some ⟨parts, some base⟩ else none)

def shorter (a b : Option Location) : Option Location :=
  match a, b with
  | some a, some b => if b.parts.length < a.parts.length then some b else some a
  | some a, none => some a
  | none, b => b

/-- The location of a file: the nearest directory of the search path counts, and a file outside of
all of them goes by its own name. -/
def locate (p : Program) (file : Path) : Except Fault Location := do
  let found ← p.searchPath.mapM fun dir => locateIn file (p.files.resolve dir)
  .ok ((found.foldl shorter none).getD ⟨file.stem.splitOn ".", none⟩)

def moduleName (p : Program) (file : Path) : Except Fault String := do
  .ok (".".intercalate (← locate p (p.files.resolve file)).parts)

/-- Whether a name is taken, be it by a module of the host. -/
def isTaken (p : Program) (name : String) : Bool :=
  (p.number? name).isSome || p.host.modules.contains name || p.host.catalogue.hasModule name

/-- Registers packages above a module where there are none. -/
def makePackages (file : Path) (l : Location) : Loading Unit :=
  (List.range (l.parts.length - 1)).forM fun i => do
    let p ← get
    let parts := l.parts.take (i + 1)
    let name := ".".intercalate parts
    if !isTaken p name then
      let dir := l.base.elim file.parent fun b => ⟨b.root, b.names ++ parts⟩
      let search := if p.files.isDirectory dir then some [dir] else none
      let (p, number) := p.addModule ⟨name, "", none, search, [], false⟩
      set (p.register name number)

def moduleFile? (p : Program) (number : Nat) : Option Path :=
  ((p.module? number).bind ModuleRecord.file).map p.files.resolve

/-- The module that a file is loaded as, before its statements are done. -/
def blankModule (file : Path) (parts : List String) : ModuleRecord :=
  let name := ".".intercalate parts
  let isPackage :=
    file.name == Loading.initName ++ Loading.sourceSuffix && parts.getLast? != some Loading.initName
  let own := if isPackage then name else Loading.parentName name
  { name, package := if 1 < parts.length then Loading.parentName name else own, file := some file
    search := if isPackage then some [file.parent] else none, names := [], isStarting := false }

/-- Loads a file that is not loaded yet. A name that is taken is left alone. -/
def loadFile (file : Path) : Loading Nat := do
  let l ← Loading.settle (locate (← get) file)
  let name := ".".intercalate l.parts
  match (← get).number? name with
  | some number => if moduleFile? (← get) number == some file then return number
  | none => pure ()
  makePackages file l
  if !file.name.endsWith Loading.sourceSuffix then
    throw (Execute.importFault s!"Could not load module: {name}")
  let free := !isTaken (← get) name
  let (p, number) := (← get).addModule (blankModule file l.parts)
  set (if free then p.register name number else p)
  match ← Loading.outcome (Loading.runFile number file) with
  | .ok () => return number
  | .error f =>
    if free && !f.kind.isFinal then modify fun p => p.forget name
    throw f

def load (r : Registry) (file : Path) : Loading (Nat × Registry) := do
  let file := (← get).files.resolve file
  match r.loaded.lookup file with
  | some number => return (number, r)
  | none =>
    let number ← loadFile file
    return (number, { r with loaded := r.loaded ++ [(file, number)] })

def loadEach (r : Registry) : List Path → StateM Program (List (Except Fault Nat))
  | [] => return []
  | file :: rest => do
    match ← (r.load file).run with
    | .ok (number, r) => return .ok number :: (← r.loadEach rest)
    | .error f => return .error f :: (← r.loadEach rest)

def enter (r : Registry) (wanted : List String) (file : Path) : Loading Registry := do
  let (number, r) ← r.load file
  let p ← get
  let found := wanted.filterMap fun name =>
    ((p.lookup? number name).filter Thing.isCallable).map fun t => Entrance.mk name t file
  return { r with functions := r.functions ++ found }

def lookup? (r : Registry) (name : String) : Option Entrance := r.functions.find? (·.name == name)

def scanFile (file : Path) : Acting (Option (Path × Source.Module)) := do
  match ← Acting.outcome (do
      let content ← Acting.ask file fun fs => fs.read file
      Acting.settle (Config.textOf content >>= Source.parse)) with
  | .ok m => return some (file, m)
  | .error f =>
    Acting.note ⟨.warning, s!"Failed to parse {file.text}: ", some f⟩
    return none

def buildFrom (p : Program) (names : List String) (r : Registry) :
    List (Path × Source.Module) → Acting (Program × Registry)
  | [] => pure (p, r)
  | (file, m) :: rest => do
    let exported := m.exported
    let wanted := names.filter fun n => (r.lookup? n).isNone && exported.contains n
    if wanted.isEmpty then buildFrom p names r rest
    else
      let (o, p) := (r.enter wanted file).run p
      match o with
      | .ok r => buildFrom p names r rest
      | .error f =>
        if f.kind.isFinal then throw f
        Acting.note ⟨.warning, s!"Could not load functions from {file.text}: ", some f⟩
        buildFrom p names r rest

def build (p : Program) (files : List Path) (names : List String) : Acting (Program × Registry) := do
  let scanned ← files.mapM scanFile
  buildFrom p names {} (scanned.filterMap id)

end Registry

end CallSnapshot
