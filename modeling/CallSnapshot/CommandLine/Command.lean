import CallSnapshot.CommandLine.Grammar
import CallSnapshot.Files.Path

/-!
The commands of the program and how they are written. Options of the program itself come before the
name of a command, those of a command behind it. A text that is empty counts as not given.
-/

namespace CallSnapshot

inductive Command where
  | inject (target : Option String) (force : Bool)
  | record (target port timeout : Option String) (force : Bool)
  | stop (port : Option String)
  | test (target : Option String) (summary : Option Path)
  | clean (target : Option String)
  | status (port : Option String)
  | config (create display : Bool)
  deriving Repr, Inhabited

structure CommandLine where
  config : Option Path
  verbose : Bool
  quiet : Bool
  command : Option Command
  deriving Repr, Inhabited

namespace CommandLine

def grammar : Grammar where
  positional := .command
  options := [Grammar.helpOption, ⟨"config", ["--config", "-c"], .text⟩,
    ⟨"verbose", ["--verbose", "-v"], .flag⟩, ⟨"quiet", ["--quiet", "-q"], .flag⟩]

def portOption : OptionSpec := ⟨"port", ["--port", "-p"], .text⟩

def forceOption : OptionSpec := ⟨"force", ["--force", "-f"], .flag⟩

def takingTarget (options : List OptionSpec) : Grammar := ⟨Grammar.helpOption :: options, .target⟩

def takingNone (options : List OptionSpec) : Grammar := ⟨Grammar.helpOption :: options, .none⟩

def grammarOf? (name : String) : Option Grammar :=
  match name with
  | "inject" => some (takingTarget [forceOption])
  | "record" => some (takingTarget [portOption, ⟨"timeout", ["--timeout", "-t"], .text⟩, forceOption])
  | "stop" => some (takingNone [portOption])
  | "test" => some (takingTarget [⟨"summary", ["--summary"], .text⟩])
  | "clean" => some (takingTarget [])
  | "status" => some (takingNone [portOption])
  | "config" => some (takingNone [⟨"create", ["--init"], .flag⟩, ⟨"display", ["--show"], .flag⟩])
  | _ => none

def nonempty : Option String → Option String
  | some "" => none
  | s => s

def commandOf (name : String) (a : Arguments) : Option Command :=
  let target := nonempty a.target?
  let port := nonempty (a.get? "port")
  match name with
  | "inject" => some (.inject target (a.has "force"))
  | "record" => some (.record target port (nonempty (a.get? "timeout")) (a.has "force"))
  | "stop" => some (.stop port)
  | "test" => some (.test target ((a.get? "summary").map Path.parse))
  | "clean" => some (.clean target)
  | "status" => some (.status port)
  | "config" => some (.config (a.has "create") (a.has "display"))
  | _ => none

def readCommand (words : List String) : Except Stop (Option Command × List String) :=
  match words with
  | [] => .ok (none, [])
  | name :: rest =>
    match grammarOf? name with
    | none => .error .misuse
    | some g => do
      let a ← g.parse rest
      .ok (commandOf name a, a.unused)

def parse (words : List String) : Except Stop CommandLine := do
  let a ← grammar.parse words
  let (command, unused) ← readCommand (a.words.getD [])
  if !(a.unused ++ unused).isEmpty then throw .misuse
  .ok ⟨(a.get? "config").map Path.parse, a.has "verbose", a.has "quiet", command⟩

end CommandLine

end CallSnapshot
