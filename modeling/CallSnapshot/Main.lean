import CallSnapshot.CommandLine.Perform
import CallSnapshot.Files.Disk
import CallSnapshot.Time.Iso

/-!
The program `io-snapshot`. It works on the project in the current directory. Commands that look for
files read the names of the project's files from standard input, one per line, as a list of tracked
files gives them. Processes and services are out of reach of the program and count as absent.
-/

namespace CallSnapshot.Shell

def looksForFiles : Command → Bool
  | .inject .. => true
  | .record .. => true
  | .stop _ => true
  | .test .. => true
  | .clean _ => true
  | .status _ => false
  | .config .. => false

def epochDay : Nat := 719163

def momentAfter (seconds : Nat) : DateTime :=
  let s := seconds % 86400
  ⟨Date.ofOrdinal (epochDay + seconds / 86400), ⟨s / 3600, s / 60 % 60, s % 60, 0, none⟩⟩

def settingsFile (w : Workspace) (line : CommandLine) : Path :=
  w.project.join (line.config.getD ⟨.relative, [configName]⟩)

def logFile (w : Workspace) (env : Environment) (line : CommandLine) (fs : Files) : Path :=
  let read : Acting Config := Config.forProject env w.project (some (settingsFile w line))
  let name := match (read.run ⟨fs, [], .error⟩).1 with
    | .ok c => c.logName.textOf?.getD defaultLogName
    | .error _ => defaultLogName
  w.project.join (.parse name)

def withBackups (w : Workspace) (name : String) : List Path :=
  let file := w.project.join (.parse name)
  [file, w.primaryBackup file, w.localBackup file]

def readFiles (fs : Files) (files : List Path) : IO Files :=
  files.foldlM (fun fs p => do
    try return fs.withFile p (← IO.FS.readBinFile p.text).toList
    catch _ => return fs) fs

def carryOut : Files.DiskStep → IO Unit
  | .makeDirectory p => IO.FS.createDirAll p.text
  | .write p content => IO.FS.writeBinFile p.text content.toByteArray
  | .remove p => IO.FS.removeFile p.text
  | .removeDirectory p => do
    try IO.FS.removeDir p.text
    catch _ => pure ()

def readVariable (name : String) : IO (List (String × String)) := do
  return ((← IO.getEnv name).map fun v => (name, v)).toList

def gather (w : Workspace) (env : Environment) (line : CommandLine) (command : Command) : IO Files := do
  let bare : Files := { Files.empty with current := w.project.names }
  let fs := (bare.withDirectory w.project).withDirectory w.temp
  let fs ← readFiles fs [settingsFile w line, w.pidFile]
  let fs ← readFiles fs [logFile w env line fs]
  if looksForFiles command then
    let names ← (← IO.getStdin).lines
    readFiles fs (names.toList.flatMap (withBackups w))
  else return fs

def host : Host := ⟨Standard.modules, Standard.catalogue, fun _ _ => none⟩

def run (words : List String) : IO UInt32 := do
  let project := Path.parse ((← IO.getEnv "PWD").getD "/")
  let w : Workspace := ⟨project, .parse ((← IO.getEnv "TMPDIR").getD "/tmp")⟩
  let env := (← readVariable portVariable) ++ (← readVariable corsVariable)
  let seconds := ((← IO.getEnv "SOURCE_DATE_EPOCH").bind String.toNat?).getD 0
  let time := Iso.dateTimeText (momentAfter seconds)
  let fs ← match CommandLine.parse words with
    | .ok ⟨c, verbose, quiet, some command⟩ => gather w env ⟨c, verbose, quiet, some command⟩ command
    | _ => pure Files.empty
  let setting : Setting := ⟨⟨fs, [], .info⟩, .quiet⟩
  let (result, done) := (CommandLine.run w host env time words).run setting
  done.scene.notes.forM fun n => IO.println n.line
  (fs.steps done.scene.files).forM carryOut
  match result with
  | .ok (.ok code) => return code.toUInt32
  | .ok (.error stop) => return (stop.code.toOption.getD 1).toUInt32
  | .error f => do
    IO.eprintln f.line
    return 1

end CallSnapshot.Shell

def main (words : List String) : IO UInt32 := CallSnapshot.Shell.run words
