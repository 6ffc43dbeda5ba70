import CallSnapshot.Files.Tree
import CallSnapshot.Files.Wildcard

/-!
The source files of a project. They are named by a pattern for paths: between slashes stand patterns
for names, and two stars stand for any directories on the way. Names that begin with a dot are found
only by patterns that do; directories of tools and of other people's code are left out.
-/

namespace CallSnapshot

namespace Path

def suffix (p : Path) : String :=
  let back := p.name.toList.reverse
  let ending := back.takeWhile (· != '.')
  let stem := back.drop (ending.length + 1)
  if ending.isEmpty || stem.isEmpty then "" else String.ofList ('.' :: ending.reverse)

def stem (p : Path) : String :=
  String.ofList (p.name.toList.take (p.name.length - p.suffix.length))

def before (p q : Path) : Bool := List.lt p.names q.names
where
  List.lt : List String → List String → Bool
    | [], [] => false
    | [], _ :: _ => true
    | _ :: _, [] => false
    | a :: as, b :: bs => if a == b then List.lt as bs else decide (a < b)

def insertSorted (p : Path) : List Path → List Path
  | [] => [p]
  | q :: qs => if p == q then q :: qs else if p.before q then p :: q :: qs else q :: insertSorted p qs

def sorted (ps : List Path) : List Path := ps.foldl (fun found p => insertSorted p found) []

end Path

namespace Files

def isHidden (name : String) : Bool := name.startsWith "."

def namesIn (fs : Files) (dir : Path) (directories : Bool) : List String :=
  match fs.list dir with
  | .ok names => if directories then names.filter fun n => fs.isDirectory (dir.child n) else names
  | .error _ => []

/-- What lies below a directory, hidden names left out. -/
def below (fs : Files) (directories : Bool) : (fuel : Nat) → Path → List Path
  | 0, _ => []
  | fuel + 1, dir =>
    ((fs.namesIn dir directories).filter fun n => !isHidden n).flatMap fun n =>
      dir.child n :: below fs directories fuel (dir.child n)

/-- Paths below a directory are no longer than all names and all links on them together. -/
def depthLimit (fs : Files) : Nat := (fs.entries.length + 2) * (linkLimit + 2)

/-- What a part of a pattern finds in a directory. -/
def findPart (fs : Files) (directories : Bool) (part : List Char) (dir : Path) : List Path :=
  if part == ['*', '*'] then dir :: fs.below directories fs.depthLimit dir
  else if Wildcard.isPattern part then
    let hidden := part.head? == some '.'
    ((fs.namesIn dir directories).filter fun n =>
      (hidden || !isHidden n) && Wildcard.matchesName part n).map dir.child
  else if part.isEmpty then
    if fs.isDirectory dir then [dir] else []
  else
    let p := dir.join ⟨.relative, Path.namesOf part⟩
    if fs.hasOwnEntry p then [p] else []

def findParts (fs : Files) : List (List Char) → List Path → List Path
  | [], dirs => dirs
  | [part], dirs => dirs.flatMap (fs.findPart false part)
  | part :: parts, dirs => findParts fs parts (dirs.flatMap (fs.findPart true part))

/-- The parts of a pattern between its slashes; an empty one stays only at the end. -/
def partsOf (pattern : List Char) : List (List Char) :=
  let parts := Text.splitAt '/' pattern
  (parts.dropLast.filter fun p => !p.isEmpty) ++ parts.drop (parts.length - 1)

def glob (fs : Files) (pattern : List Char) : List Path :=
  let parts := partsOf pattern
  let plain := (parts.takeWhile fun p => !Wildcard.isPattern p)
  let start : Path := ⟨.single, plain.flatMap Path.namesOf⟩
  match parts.drop plain.length with
  | [] =>
    let found := if parts.getLast? == some [] then fs.isDirectory start else fs.hasOwnEntry start
    if found then [start] else []
  | rest => fs.findParts rest [start]

/-- Directories that hold no source files of the project. -/
def ignoredNames : List String := [".git", ".hg", ".tox", ".nox", ".venv", "venv", "env", ".eggs",
  "__pycache__", "site-packages", "node_modules", "build", "dist", ".io-snapshot-backups"]

/-- Whether a path leads through no ignored directory, seen from the project where it lies in it. -/
def isOwn (project p : Path) : Bool :=
  let names := (p.relativeTo? project).getD p.names
  !names.dropLast.any ignoredNames.contains

def sourcePattern : String := "**/*.py"

def fullPattern (fs : Files) (project : Path) (pattern : Option String) : List Char :=
  let given := match pattern with
    | some p => if p.isEmpty then sourcePattern else p
    | none => sourcePattern
  let cs := if given.startsWith "/" then given.toList else project.text.toList ++ '/' :: given.toList
  if fs.isDirectory (.parse (String.ofList cs)) then
    (if cs.getLast? == some '/' then cs else cs ++ ['/']) ++ sourcePattern.toList
  else cs

def sourceFiles (fs : Files) (project : Path) (pattern : Option String) : List Path :=
  let found := (fs.glob (fs.fullPattern project pattern)).map fs.resolve
  Path.sorted (found.filter fun p => fs.isFile p && p.suffix == ".py" && isOwn project p)

end Files

end CallSnapshot
