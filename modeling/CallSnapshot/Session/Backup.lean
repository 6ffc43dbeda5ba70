import CallSnapshot.Files.Search
import CallSnapshot.Scene
import CallSnapshot.Session.Workspace

/-!
Copies of source files as they were before they were instrumented. There are two of each: the
primary one among the temporary files, and one in the project for when those have been cleared away.
-/

namespace CallSnapshot

namespace Workspace

/-- A file by its path from the project on. -/
def located (w : Workspace) (file : Path) : Path := w.project.join file

def hasBackup (w : Workspace) (file : Path) : Acting Bool := do
  return (← Acting.files).hasEntry (w.primaryBackup file)

def hasLocalBackup (w : Workspace) (file : Path) : Acting Bool := do
  return (← Acting.files).hasEntry (w.localBackup file)

def copyFile (source target : Path) : Acting Unit := do
  let fs ← Acting.settle ((← Acting.files).copy source target)
  modify fun s => { s with files := fs }

def copyInto (source target : Path) : Acting Unit := do
  Acting.change target.parent fun fs => fs.makeDirectories target.parent
  copyFile source target

def backup (w : Workspace) (file : Path) : Acting (Path × Path) := do
  let source := w.located file
  let primary := w.primaryBackup source
  let fallback := w.localBackup source
  copyInto source primary
  copyInto source fallback
  Acting.note (.debug s!"Backed up {file.text} to {primary.text} and {fallback.text}")
  return (primary, fallback)

/-- Gives a file the content of its primary copy, or else of the one in the project. -/
def restoreFile (w : Workspace) (file : Path) : Acting Bool := do
  let target := w.located file
  if ← w.hasBackup target then
    copyFile (w.primaryBackup target) target
    return true
  if ← w.hasLocalBackup target then
    Acting.note (.warning s!"Primary backup not found for {file.text}. Restoring from local fallback.")
    copyFile (w.localBackup target) target
    return true
  Acting.note (.error s!"No backup found for {file.text}.")
  return false

/-- Removes a directory and those above it while they are empty, but none above the top. -/
def pruneFrom : (fuel : Nat) → (top dir : Path) → Acting Unit
  | 0, _, _ => pure ()
  | fuel + 1, top, dir => do
    if !(← Acting.files).hasEntry dir then return
    let names ← Acting.ask dir fun fs => fs.list dir
    if !names.isEmpty then return
    Acting.change dir fun fs => fs.removeDirectory dir
    if dir == top then return
    pruneFrom fuel top dir.parent

def discardCopy (top copy : Path) : Acting Unit := do
  if (← Acting.files).hasEntry copy then
    Acting.change copy fun fs => fs.remove copy
  pruneFrom (copy.names.length + 1) top copy.parent

def discard (w : Workspace) (file : Path) : Acting Unit := do
  discardCopy w.primaryDir (w.primaryBackup file)
  discardCopy w.localDir (w.localBackup file)

def isBackupName (name : String) : Bool := name.endsWith backupSuffix

def localCopies (w : Workspace) (fs : Files) : List Path :=
  match fs.placeOf w.localDir with
  | .error _ => []
  | .ok dir =>
    fs.entries.filterMap fun (place, _) =>
      match Path.below? dir place with
      | some (n :: ns) =>
        if isBackupName ((n :: ns).getLastD "") then some ⟨w.localDir.root, w.localDir.names ++ n :: ns⟩
        else none
      | _ => none

def backedUp (w : Workspace) : Acting (List Path) := do
  return Path.sorted ((w.localCopies (← Acting.files)).filterMap w.originalOf?)

def removeAll (dir : Path) : Acting (List Path) := do
  if (← Acting.files).hasEntry dir then
    modify fun s => { s with files := s.files.removeTree dir }
    return [dir]
  return []

/-- Removes all that is kept of the session; gives the directories that were there. -/
def cleanUp (w : Workspace) : Acting (List Path) := do
  return (← removeAll w.sessionDir) ++ (← removeAll w.localDir)

end Workspace

end CallSnapshot
