import CallSnapshot.Files.Tree

/-!
A tree of files beside a disk: the tree that is read from a disk, and the steps that carry changes
of the tree back to it. A step names its place by an absolute path.
-/

namespace CallSnapshot.Files

inductive DiskStep where
  | makeDirectory (path : Path)
  | write (path : Path) (content : List UInt8)
  | remove (path : Path)
  | removeDirectory (path : Path)
  deriving DecidableEq, Repr

def pathOf (place : Place) : Path := ⟨.single, place⟩

def withDirectory (fs : Files) (dir : Path) : Files := (fs.makeDirectories dir).toOption.getD fs

def withFile (fs : Files) (file : Path) (content : List UInt8) : Files :=
  let fs := fs.withDirectory file.parent
  (fs.write file content).toOption.getD fs

/-- The step that makes an entry, unless it is there already. Links are not made. -/
def making? (old : Files) : Place × Entry → Option DiskStep
  | (place, .directory) =>
    if old.get? place == some .directory then none else some (.makeDirectory (pathOf place))
  | (place, .file content) =>
    if old.get? place == some (.file content) then none else some (.write (pathOf place) content)
  | (_, .link _) => none

/-- The step that takes an entry away, unless it is still there. -/
def removal? (new : Files) : Place × Entry → Option DiskStep
  | (place, e) =>
    if (new.get? place).isSome then none
    else match e with
      | .directory => some (.removeDirectory (pathOf place))
      | _ => some (.remove (pathOf place))

def isDirectoryRemoval : DiskStep → Bool
  | .removeDirectory _ => true
  | _ => false

/-- The steps from one tree to another. A directory comes after those above it when it is made, and
after all that lies in it when it is taken away. -/
def steps (old new : Files) : List DiskStep :=
  let removals := old.entries.filterMap (removal? new)
  new.entries.filterMap (making? old) ++ removals.filter (fun s => !isDirectoryRemoval s) ++
    (removals.filter isDirectoryRemoval).reverse

theorem making?_self {fs : Files} {x : Place × Entry} (h : fs.get? x.1 = some x.2) :
    making? fs x = none := by
  obtain ⟨place, e⟩ := x
  cases e <;> simp_all [making?]

theorem removal?_self {fs : Files} {x : Place × Entry} (h : fs.get? x.1 = some x.2) :
    removal? fs x = none := by
  simp [removal?, h]

/-- A tree that names no place twice needs no steps to become itself. -/
theorem steps_self {fs : Files} (h : ∀ x ∈ fs.entries, fs.get? x.1 = some x.2) :
    steps fs fs = [] := by
  have made : fs.entries.filterMap (making? fs) = [] :=
    List.filterMap_eq_nil_iff.2 fun x hx => making?_self (h x hx)
  have removed : fs.entries.filterMap (removal? fs) = [] :=
    List.filterMap_eq_nil_iff.2 fun x hx => removal?_self (h x hx)
  simp [steps, made, removed]

end CallSnapshot.Files
