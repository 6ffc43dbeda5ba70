/-! What goes wrong while calls are captured, stored and replayed: a kind and a text. -/

namespace CallSnapshot

inductive FaultKind where
  | value
  | type
  | attribute
  | key
  | index
  | overflow
  | runtime
  | textDecoding
  | json
  | base64
  | decimal
  | sourceText
  | missingModule
  | missingFile
  | fileExists
  | isDirectory
  | notDirectory
  | permission
  | system
  | connection
  | httpStatus
  | interrupt
  | stopIteration
  | option
  | noSnapshots
  | noFiles
  | other (name : String)
  deriving DecidableEq, Repr, Inhabited

/-- The name under which a fault is reported. -/
def FaultKind.title : FaultKind → String
  | .value => "ValueError"
  | .type => "TypeError"
  | .attribute => "AttributeError"
  | .key => "KeyError"
  | .index => "IndexError"
  | .overflow => "OverflowError"
  | .runtime => "RuntimeError"
  | .textDecoding => "UnicodeDecodeError"
  | .json => "JSONDecodeError"
  | .base64 => "Error"
  | .decimal => "InvalidOperation"
  | .sourceText => "SyntaxError"
  | .missingModule => "ModuleNotFoundError"
  | .missingFile => "FileNotFoundError"
  | .fileExists => "FileExistsError"
  | .isDirectory => "IsADirectoryError"
  | .notDirectory => "NotADirectoryError"
  | .permission => "PermissionError"
  | .system => "OSError"
  | .connection => "ConnectionError"
  | .httpStatus => "HTTPError"
  | .interrupt => "KeyboardInterrupt"
  | .stopIteration => "StopIteration"
  | .option => "ConfigError"
  | .noSnapshots => "NoSnapshotsError"
  | .noFiles => "NoFilesMatchedError"
  | .other name => name

def FaultKind.known : List FaultKind :=
  [.value, .type, .attribute, .key, .index, .overflow, .runtime, .textDecoding, .json, .base64,
    .decimal, .sourceText, .missingModule, .missingFile, .fileExists, .isDirectory, .notDirectory,
    .permission, .system, .connection, .httpStatus, .interrupt, .stopIteration, .option, .noSnapshots,
    .noFiles]

def FaultKind.ofTitle (title : String) : FaultKind :=
  (known.find? fun k => k.title == title).getD (.other title)

def FaultKind.isUnreachable : FaultKind → Bool
  | .connection => true
  | .httpStatus => true
  | _ => false

def FaultKind.isSystem : FaultKind → Bool
  | .missingFile => true
  | .fileExists => true
  | .isDirectory => true
  | .notDirectory => true
  | .permission => true
  | .system => true
  | .connection => true
  | .httpStatus => true
  | .other name => ["ProcessLookupError", "BlockingIOError", "ChildProcessError", "InterruptedError",
      "TimeoutError", "BrokenPipeError", "ConnectionRefusedError"].contains name
  | _ => false

def FaultKind.isFinal : FaultKind → Bool
  | .interrupt => true
  | .other name => ["SystemExit", "GeneratorExit", "BaseException"].contains name
  | _ => false

structure Fault where
  kind : FaultKind
  message : String
  deriving DecidableEq, Repr, Inhabited

def Fault.line (f : Fault) : String := f.kind.title ++ ": " ++ f.message

end CallSnapshot
