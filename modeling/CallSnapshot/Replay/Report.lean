import CallSnapshot.Codec.Encode
import CallSnapshot.Diff.Change
import CallSnapshot.Log.Event

/-! What came of replaying recorded calls: for each call, for each function, and for a whole run. -/

namespace CallSnapshot

inductive Status where
  | passed
  | failed
  | skipped
  | notFound
  deriving DecidableEq, Repr, Inhabited

def Status.title : Status → String
  | .passed => "passed"
  | .failed => "failed"
  | .skipped => "skipped"
  | .notFound => "not_found"

def Status.all : List Status := [.passed, .failed, .skipped, .notFound]

/-- One call replayed: where the new result differs, or the fault that came instead of one. -/
structure Replay where
  event : Event
  changes : List Change
  error : Option Fault
  deriving Repr, Inhabited

def Replay.passed (r : Replay) : Bool := r.error.isNone && r.changes.isEmpty

structure FunctionReport where
  name : Json
  status : Status
  total : Nat
  failed : Nat
  source : Option Path
  replays : List Replay
  deriving Repr, Inhabited

def FunctionReport.passed (r : FunctionReport) : Bool := r.status == .passed || r.status == .skipped

structure Report where
  results : List FunctionReport
  error : Option Fault
  deriving Repr, Inhabited

namespace Report

-- Sums start at the zero of the core library, whatever is imported beside this module.
attribute [local instance (high)] Zero.ofOfNat0

def passed (r : Report) : Bool := r.error.isNone && r.results.all FunctionReport.passed

def exitCode (r : Report) : Int := if r.passed then 0 else 1

def count (r : Report) (s : Status) : Nat := (r.results.filter (·.status == s)).length

def natData (n : Nat) : Json := .int n

def changeData (c : Change) : Except Fault Json := Codec.encode [] c.toValue

def replayData (r : Replay) : Except Fault Json := do
  let changes ← r.changes.mapM changeData
  .ok (.obj [("at", r.event.time), ("error", r.error.elim .null fun f => .str f.line),
    ("changes", .arr changes)])

def functionData (r : FunctionReport) : Except Fault Json := do
  let drift ← (r.replays.filter fun x => !x.passed).mapM replayData
  .ok (.obj [("fn_name", r.name), ("status", .str r.status.title), ("total", natData r.total),
    ("failed", natData r.failed), ("source", r.source.elim .null fun p => .str p.text),
    ("drift", .arr drift)])

def summary (r : Report) (time : String) : Except Fault Json := do
  let results ← r.results.mapM functionData
  .ok (.obj [("passed", .bool r.passed), ("error", r.error.elim .null fun f => .str f.message),
    ("functions", natData r.results.length),
    ("replays", natData (r.results.map FunctionReport.total).sum),
    ("failed_replays", natData (r.results.map FunctionReport.failed).sum),
    ("statuses", .obj (Status.all.map fun s => (s.title, natData (r.count s)))),
    ("results", .arr results), ("timestamp", .str time)])

end Report

end CallSnapshot
