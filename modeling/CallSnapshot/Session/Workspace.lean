import CallSnapshot.Files.Tree
import CallSnapshot.Text.Digest
import CallSnapshot.Text.Utf8

/-!
Where the state of a session lies. It is kept in a directory for temporary files that is named
after the project, and copies of instrumented files are kept there and in the project itself.
-/

namespace CallSnapshot

namespace Path

/-- Double dots take back the name before them; at the root they mean nothing. -/
def collapse (absolute : Bool) : (done : List String) → List String → List String
  | done, [] => done.reverse
  | done, n :: rest =>
    if n == ".." then
      match done with
      | [] => collapse absolute (if absolute then [] else [".."]) rest
      | d :: ds => if d == ".." then collapse absolute (".." :: done) rest else collapse absolute ds rest
    else collapse absolute (n :: done) rest

def normalize (p : Path) : Path := ⟨p.root, collapse p.isAbsolute [] p.names⟩

/-- A path with a text behind its last name; the empty path counts as a dot. -/
def extend (names : List String) (suffix : String) : List String :=
  match names.getLast? with
  | some n => names.dropLast ++ [n ++ suffix]
  | none => ["." ++ suffix]

end Path

structure Workspace where
  project : Path
  temp : Path
  deriving DecidableEq, Repr, Inhabited

namespace Workspace

def backupSuffix : String := ".snap.bak"

def localBackupName : String := ".io-snapshot-backups"

def sessionDir (w : Workspace) : Path :=
  w.temp.child ("io-snapshot-session-" ++ Digest.hexDigest (Text.encodeUtf8 w.project.text))

def pidFile (w : Workspace) : Path := w.sessionDir.child "io-snapshot.pid"

def primaryDir (w : Workspace) : Path := w.sessionDir.child "backup"

def localDir (w : Workspace) : Path := w.project.child localBackupName

/-- The names of a file below the project, or below the root for a file outside of it. -/
def relative (w : Workspace) (file : Path) : List String :=
  let p := (w.project.join file).normalize
  (p.relativeTo? w.project).getD p.names

def backupIn (w : Workspace) (dir file : Path) : Path :=
  ⟨dir.root, dir.names ++ Path.extend (w.relative file) backupSuffix⟩

def primaryBackup (w : Workspace) (file : Path) : Path := w.backupIn w.primaryDir file

def localBackup (w : Workspace) (file : Path) : Path := w.backupIn w.localDir file

/-- The file whose copy in the project this is; none for a path elsewhere. -/
def originalOf? (w : Workspace) (backup : Path) : Option Path :=
  (backup.relativeTo? w.localDir).map fun names =>
    let text := (Path.text ⟨.relative, names⟩).toList
    w.project.join (.parse (String.ofList (text.take (text.length - backupSuffix.length))))

end Workspace

end CallSnapshot
