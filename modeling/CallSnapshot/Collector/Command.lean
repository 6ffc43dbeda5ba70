import CallSnapshot.Collector.Service
import CallSnapshot.CommandLine.Grammar
import CallSnapshot.Config
import CallSnapshot.Session.Daemon

/-!
The collector as a program: what its command line sets, and the time that it serves a project. While
it serves, the number of its process is kept for the project; afterwards it is not.
-/

namespace CallSnapshot

structure Serve where
  port : Int
  timeout : Int
  cors : String
  project : Option Path
  logName : String
  deriving Repr, Inhabited

namespace Serve

def host : String := "127.0.0.1"

/-- Messages of the server below this level are dropped. -/
def serverLevel : Level := .warning

def grammar : Grammar where
  positional := .none
  options := [Grammar.helpOption, ⟨"port", ["--port"], .integer⟩, ⟨"timeout", ["--timeout"], .integer⟩,
    ⟨"cors", ["--cors"], .text⟩, ⟨"project", ["--project-root"], .text⟩,
    ⟨"log", ["--snapshot-file"], .text⟩]

/-- What a command line asks for; the origin is taken from the environment where it is not given. -/
def ofWords (env : Environment) (words : List String) : Except Stop Serve := do
  let a ← grammar.parseAll words
  let usual := ((env.find? (·.1 == corsVariable)).map Prod.snd).getD "*"
  .ok {
    port := (a.int? "port").getD defaultPort
    timeout := (a.int? "timeout").getD defaultTimeout
    cors := (a.get? "cors").getD usual
    project := (a.get? "project").map Path.parse
    logName := (a.get? "log").getD defaultLogName }

def workspace (s : Serve) (fs : Files) (temp : Path) : Workspace :=
  ⟨fs.resolve (s.project.getD ⟨.relative, []⟩), temp⟩

def log (s : Serve) (w : Workspace) : Log := ⟨w.project.join (.parse s.logName)⟩

def service (s : Serve) (w : Workspace) (now : Binary64) : Service :=
  ⟨s.log w, .begin now, s.timeout, s.cors⟩

def run {α : Type} (s : Serve) (w : Workspace) (pid : Int) (work : Acting α) : Acting α := do
  Acting.info s!"Collector running on http://localhost:{s.port}"
  w.savePid pid
  let r ← Acting.outcome work
  w.removePid
  Acting.settle r

end Serve

end CallSnapshot
