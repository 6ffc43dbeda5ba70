import CallSnapshot.Fault
import CallSnapshot.Files.Path
import CallSnapshot.Text.Quoted

/-!
A tree of files: contents, directories and links by their absolute names. Links are followed as
paths are walked; a relative path starts at the current directory.
-/

namespace CallSnapshot

inductive Entry where
  | file (content : List UInt8)
  | directory
  | link (target : Path)
  deriving DecidableEq, Repr, Inhabited

abbrev Place := List String

structure Files where
  entries : List (Place × Entry)
  current : Place
  deriving Repr, Inhabited

inductive FileError where
  | missing
  | already
  | notDirectory
  | isDirectory
  | notEmpty
  | loop
  deriving DecidableEq, Repr

def FileError.fault (e : FileError) (path : String) : Fault :=
  let (kind, number, what) : FaultKind × Nat × String := match e with
    | .missing => (.missingFile, 2, "No such file or directory")
    | .already => (.fileExists, 17, "File exists")
    | .notDirectory => (.notDirectory, 20, "Not a directory")
    | .isDirectory => (.isDirectory, 21, "Is a directory")
    | .notEmpty => (.system, 39, "Directory not empty")
    | .loop => (.system, 40, "Too many levels of symbolic links")
  ⟨kind, s!"[Errno {number}] {what}: {Text.quoted path}"⟩

namespace Files

def empty : Files := ⟨[], []⟩

def get? (fs : Files) (place : Place) : Option Entry :=
  if place.isEmpty then some .directory
  else (fs.entries.find? (·.1 == place)).map Prod.snd

def putEntry (place : Place) (e : Entry) : List (Place × Entry) → List (Place × Entry)
  | [] => [(place, e)]
  | (p, x) :: rest => if p == place then (place, e) :: rest else (p, x) :: putEntry place e rest

def put (fs : Files) (place : Place) (e : Entry) : Files :=
  { fs with entries := putEntry place e fs.entries }

def erase (fs : Files) (place : Place) : Files :=
  { fs with entries := fs.entries.filter fun x => x.1 != place }

def isBelow (dir place : Place) : Bool := (Path.below? dir place).isSome

def eraseTree (fs : Files) (dir : Place) : Files :=
  { fs with entries := fs.entries.filter fun x => !isBelow dir x.1 }

def children (fs : Files) (dir : Place) : List String :=
  fs.entries.filterMap fun (p, _) =>
    match Path.below? dir p with
    | some [n] => some n
    | _ => none

def linkLimit : Nat := 40

/-- Where a path leads from a directory. `links` bounds the links followed; `last` says whether one
at the very end is followed too. -/
def walk (fs : Files) (last : Bool) : (links fuel : Nat) → Place → List String → Except FileError Place
  | _, 0, _, _ => .error .loop
  | _, _, dir, [] => .ok dir
  | links, fuel + 1, dir, n :: rest =>
    if n == ".." then walk fs last links fuel dir.dropLast rest
    else
      let place := dir ++ [n]
      match fs.get? place with
      | none => if rest.isEmpty then .ok place else .error .missing
      | some .directory => walk fs last links fuel place rest
      | some (.file _) => if rest.isEmpty then .ok place else .error .notDirectory
      | some (.link target) =>
        if rest.isEmpty && !last then .ok place
        else
          match links with
          | 0 => .error .loop
          | links + 1 =>
            walk fs last links fuel (if target.isAbsolute then [] else dir) (target.names ++ rest)

def stepLimit (fs : Files) (names : List String) : Nat :=
  names.length + 1 + (linkLimit + 1) *
    ((fs.entries.map fun e => match e.2 with
      | .link t => t.names.length + 1
      | _ => 0).foldl max 0)

def startOf (fs : Files) (p : Path) : Place := if p.isAbsolute then [] else fs.current

def placeOf (fs : Files) (p : Path) : Except FileError Place :=
  walk fs true linkLimit (stepLimit fs p.names) (startOf fs p) p.names

/-- The place of a path itself, also where that is a link. -/
def ownPlaceOf (fs : Files) (p : Path) : Except FileError Place :=
  walk fs false linkLimit (stepLimit fs p.names) (startOf fs p) p.names

def entryAt? (fs : Files) (p : Path) : Option Entry :=
  match placeOf fs p with
  | .ok place => fs.get? place
  | .error _ => none

def hasEntry (fs : Files) (p : Path) : Bool := (entryAt? fs p).isSome

def hasOwnEntry (fs : Files) (p : Path) : Bool :=
  match ownPlaceOf fs p with
  | .ok place => (fs.get? place).isSome
  | .error _ => false

def isFile (fs : Files) (p : Path) : Bool :=
  match entryAt? fs p with
  | some (.file _) => true
  | _ => false

def isDirectory (fs : Files) (p : Path) : Bool :=
  match entryAt? fs p with
  | some .directory => true
  | _ => false

/-- The place that a path stands for with all links followed, whether or not something is there. -/
def resolveFrom (fs : Files) : (links fuel : Nat) → Place → List String → Place
  | _, 0, dir, _ => dir
  | _, _, dir, [] => dir
  | links, fuel + 1, dir, n :: rest =>
    if n == ".." then resolveFrom fs links fuel dir.dropLast rest
    else
      match fs.get? (dir ++ [n]), links with
      | some (.link target), links + 1 =>
        resolveFrom fs links fuel (if target.isAbsolute then [] else dir) (target.names ++ rest)
      | _, _ => resolveFrom fs links fuel (dir ++ [n]) rest

def resolve (fs : Files) (p : Path) : Path :=
  ⟨.single, resolveFrom fs linkLimit (stepLimit fs p.names) (startOf fs p) p.names⟩

def read (fs : Files) (p : Path) : Except FileError (List UInt8) := do
  match fs.get? (← placeOf fs p) with
  | some (.file bs) => .ok bs
  | some .directory => .error .isDirectory
  | _ => .error .missing

def write (fs : Files) (p : Path) (content : List UInt8) : Except FileError Files := do
  let place ← placeOf fs p
  match fs.get? place with
  | some .directory => .error .isDirectory
  | _ => .ok (fs.put place (.file content))

def append (fs : Files) (p : Path) (content : List UInt8) : Except FileError Files := do
  let place ← placeOf fs p
  match fs.get? place with
  | some .directory => .error .isDirectory
  | some (.file bs) => .ok (fs.put place (.file (bs ++ content)))
  | _ => .ok (fs.put place (.file content))

def makeFrom : (fuel : Nat) → Files → Place → List String → Except FileError Files
  | 0, _, _, _ => .error .loop
  | _, fs, _, [] => .ok fs
  | fuel + 1, fs, dir, n :: rest =>
    if n == ".." then makeFrom fuel fs dir.dropLast rest
    else
      let place := dir ++ [n]
      match fs.get? place with
      | none => makeFrom fuel (fs.put place .directory) place rest
      | some .directory => makeFrom fuel fs place rest
      | some (.file _) => .error (if rest.isEmpty then .already else .notDirectory)
      | some (.link target) =>
        makeFrom fuel fs (if target.isAbsolute then [] else dir) (target.names ++ rest)

def makeDirectories (fs : Files) (p : Path) : Except FileError Files :=
  makeFrom (stepLimit fs p.names) fs (startOf fs p) p.names

def remove (fs : Files) (p : Path) : Except FileError Files := do
  let place ← ownPlaceOf fs p
  match fs.get? place with
  | none => .error .missing
  | some .directory => .error .isDirectory
  | some _ => .ok (fs.erase place)

def removeDirectory (fs : Files) (p : Path) : Except FileError Files := do
  let place ← ownPlaceOf fs p
  match fs.get? place with
  | none => .error .missing
  | some .directory => if (fs.children place).isEmpty then .ok (fs.erase place) else .error .notEmpty
  | some _ => .error .notDirectory

def removeTree (fs : Files) (p : Path) : Files :=
  match ownPlaceOf fs p with
  | .ok place =>
    match fs.get? place with
    | some .directory => fs.eraseTree place
    | _ => fs
  | .error _ => fs

def list (fs : Files) (p : Path) : Except FileError (List String) := do
  let place ← placeOf fs p
  match fs.get? place with
  | some .directory => .ok (fs.children place)
  | some _ => .error .notDirectory
  | none => .error .missing

def copy (fs : Files) (source target : Path) : Except Fault Files := do
  let bs ← (fs.read source).mapError fun e => e.fault source.text
  (fs.write target bs).mapError fun e => e.fault target.text

end Files

end CallSnapshot
