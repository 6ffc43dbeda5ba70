import CallSnapshot.Fault

/-! Notes for the user that are left while something is done. -/

namespace CallSnapshot

inductive Level where
  | debug
  | info
  | warning
  | error
  deriving DecidableEq, Repr, Inhabited

def Level.rank : Level → Nat
  | .debug => 0
  | .info => 1
  | .warning => 2
  | .error => 3

def Level.title : Level → String
  | .debug => "DEBUG"
  | .info => "INFO"
  | .warning => "WARNING"
  | .error => "ERROR"

structure Note where
  level : Level
  text : String
  cause : Option Fault
  deriving DecidableEq, Repr, Inhabited

namespace Note

def debug (text : String) : Note := ⟨.debug, text, none⟩
def info (text : String) : Note := ⟨.info, text, none⟩
def warning (text : String) : Note := ⟨.warning, text, none⟩
def error (text : String) : Note := ⟨.error, text, none⟩

def body (n : Note) : String := n.text ++ n.cause.elim "" Fault.message

def line (n : Note) : String := n.level.title ++ ": " ++ n.body

end Note

/-- A computation that leaves notes and may fail; the notes up to a failure stay. -/
abbrev Noting := ExceptT Fault (StateM (List Note))

namespace Noting

def note (n : Note) : Noting Unit := modify fun notes => notes ++ [n]

def fail {α : Type} (kind : FaultKind) (message : String) : Noting α := throw ⟨kind, message⟩

def settle {α : Type} : Except Fault α → Noting α
  | .ok x => pure x
  | .error f => throw f

def start {α : Type} (c : Noting α) : Except Fault α × List Note := (c.run).run []

end Noting

end CallSnapshot
