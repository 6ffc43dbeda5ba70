import CallSnapshot.Config
import CallSnapshot.Log.Store
import CallSnapshot.Session.Backup
import CallSnapshot.Source.Instrument

/-!
Instrumenting the source files of a project, and taking it back. A file is copied before it is
changed, and restored if anything goes wrong with it; one file's fault touches no other.
-/

namespace CallSnapshot

inductive InjectionStatus where
  | injected
  /-- There was nothing to wrap. -/
  | unchanged
  /-- It was instrumented before. -/
  | skipped
  | failed
  deriving DecidableEq, Repr, Inhabited

def InjectionStatus.title : InjectionStatus → String
  | .injected => "injected"
  | .unchanged => "unchanged"
  | .skipped => "skipped"
  | .failed => "failed"

def InjectionStatus.all : List InjectionStatus := [.injected, .unchanged, .skipped, .failed]

structure Injection where
  path : Path
  status : InjectionStatus
  wrapped : List String := []
  error : Option Fault := none
  deriving Repr, Inhabited

namespace Injection

def count (results : List Injection) (s : InjectionStatus) : Nat :=
  (results.filter (·.status == s)).length

end Injection

namespace Workspace

def files (w : Workspace) (pattern : Option String) : Acting (List Path) := do
  return (← Acting.files).sourceFiles w.project pattern

/-- A path as it is shown: from the project on where it lies in it. -/
def display (w : Workspace) (p : Path) : String :=
  match p.relativeTo? w.project with
  | some names => Path.text ⟨.relative, names⟩
  | none => p.text

/-- Reads, instruments and writes a file; the names that were wrapped, none where there are none. -/
def instrumentFile (p : Path) : Acting (Option (List String)) := do
  let content ← Acting.ask p fun fs => fs.read p
  let source ← Acting.settle (Config.textOf content)
  let (text, wrapped) ← Acting.settle (Source.instrument source)
  match text with
  | none => return none
  | some text =>
    Acting.change p fun fs => fs.write p (Text.encodeUtf8 text)
    return some wrapped

def prepare (w : Workspace) (p : Path) (hadBackup : Bool) : Acting Unit := do
  if hadBackup then
    let _ ← w.restoreFile p
  let _ ← w.backup p

def injectPrepared (w : Workspace) (p : Path) : Acting Injection := do
  match ← Acting.outcome (do
      match ← instrumentFile p with
      | some wrapped => return some wrapped
      | none =>
        Acting.info s!"No functions to inject in {w.display p}, skipping."
        w.discard p
        return none) with
  | .ok (some wrapped) =>
    let names := ", ".intercalate wrapped
    Acting.info s!"Injected into {w.display p}: {names}"
    return ⟨p, .injected, wrapped, none⟩
  | .ok none => return ⟨p, .unchanged, [], none⟩
  | .error f =>
    Acting.note ⟨.error, s!"Failed to inject {w.display p}: ", some f⟩
    let _ ← w.restoreFile p
    w.discard p
    return ⟨p, .failed, [], some f⟩

def injectFile (w : Workspace) (file : Path) (force : Bool) : Acting Injection := do
  let p := (← Acting.files).resolve (w.located file)
  if (← w.hasBackup p) && !force then
    Acting.note (.warning s!"Skipping {w.display p} - already injected. Use --force to re-inject.")
    return ⟨p, .skipped, [], none⟩
  let hadBackup := (← w.hasBackup p) || (← w.hasLocalBackup p)
  match ← Acting.outcome (w.prepare p hadBackup) with
  | .ok () => w.injectPrepared p
  | .error f =>
    if !f.kind.isSystem then throw f
    Acting.note ⟨.error, s!"Failed to back up {w.display p}: ", some f⟩
    if !hadBackup then w.discard p
    return ⟨p, .failed, [], some f⟩

def inject (w : Workspace) (pattern : Option String) (force : Bool) : Acting (List Injection) := do
  let found ← w.files pattern
  if found.isEmpty then
    let shown := match pattern with
      | some p => if p.isEmpty then defaultPattern else p
      | none => defaultPattern
    Acting.note (.warning s!"No files found matching: {shown}")
    return []
  Acting.info s!"Processing {found.length} files..."
  found.mapM fun p => w.injectFile p force

/-- The files to restore: those of a pattern that have copies, or all that have one. -/
def restorable (w : Workspace) (pattern : Option String) : Acting (List Path) := do
  match pattern with
  | none => w.backedUp
  | some pattern => (← w.files (some pattern)).filterM fun p => do
    return (← w.hasBackup p) || (← w.hasLocalBackup p)

def restoreNoted (w : Workspace) (p : Path) : Acting (List Path) := do
  if ← w.restoreFile p then
    Acting.info s!"Restored {w.display p}"
    return [p]
  return []

def removeLog (log : Log) : Acting Unit := do
  if ← log.remove then
    Acting.info s!"Removed {log.path.name}"

/-- Restores files and removes their copies: with a pattern those of its files, without one all that
is kept of the session. A log that is given is removed. -/
def restore (w : Workspace) (pattern : Option String) (log : Option Log) : Acting (List Path) := do
  let pattern := match pattern with
    | some "" => none
    | p => p
  let files ← w.restorable pattern
  if files.isEmpty then Acting.info "No instrumented files to restore."
  let restored := (← files.mapM w.restoreNoted).flatten
  log.forM removeLog
  match pattern with
  | some _ => restored.forM w.discard
  | none => (← w.cleanUp).forM fun d => Acting.note (.debug s!"Removed {d.text}")
  return restored

end Workspace

end CallSnapshot
