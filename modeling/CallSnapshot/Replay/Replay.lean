import CallSnapshot.Capture.Routine
import CallSnapshot.Codec.Decode
import CallSnapshot.Diff.Compare
import CallSnapshot.Program.Calling
import CallSnapshot.Program.Registry
import CallSnapshot.Replay.Report
import CallSnapshot.Session.Injection

/-!
Replaying recorded calls. A function is called with what was recorded, and its result, in plain
form, is compared with the recorded one. Faults of the function are part of the report. To verify a whole
project, every call in the log is replayed against the functions that the source files export now.
-/

namespace CallSnapshot

abbrev Trying (σ : Type) := ExceptT Fault (StateM σ)

namespace Replaying

variable {σ : Type} [Noted σ]

def note (n : Note) : Trying σ Unit := modify (Noted.note n)

def settle {α : Type} (r : Except Fault α) : Trying σ α :=
  match r with
  | .ok x => pure x
  | .error f => throw f

def noting {α : Type} (c : Noting α) : Trying σ (Except Fault α) := do
  let (r, notes) := c.start
  notes.forM note
  return r

def newResult (f : Routine σ) (e : Event) (heap : Heap) : Trying σ (Except Fault Value) := do
  let o ← (f.run ⟨e.args, e.kwargs, heap⟩ : StateM σ Outcome)
  match o.result with
  | .error fault => return .error fault
  | .ok v => noting (Codec.normalize o.call.heap v)

def replay (t : Diff.Tolerance) (f : Routine σ) (heap : Heap) (e : Event) : Trying σ Replay := do
  match ← newResult f e heap with
  | .error fault => if fault.kind.isFinal then throw fault else return ⟨e, [], some fault⟩
  | .ok v => return ⟨e, ← settle (Diff.changes t e.result v), none⟩

def tell (name : String) (r : Replay) : Trying σ Unit := do
  match r.error with
  | some f =>
    note (.error s!"  ✗ {name} raised during replay: {f.line}")
  | none =>
    if r.changes.isEmpty then note (.info s!"  ✓ {name} passed semantic check.")
    else
      note (.error s!"  ✗ Drift detected in {name}!")
      r.changes.forM fun c => do note (.error ("    " ++ (← settle c.text)))

def replayAll (t : Diff.Tolerance) (name : String) (f : Routine σ) :
    List (Heap × Event) → Trying σ (List Replay)
  | [] => pure []
  | (heap, e) :: rest => do
    let r ← replay t f heap e
    tell name r
    return r :: (← replayAll t name f rest)

def nameText (name : Json) : String := (Codec.ofJson name).plainText

def verifyFunction (t : Diff.Tolerance) (name : Json) (f : Routine σ) (events : List (Heap × Event)) :
    Trying σ FunctionReport := do
  let text := nameText name
  if events.isEmpty then
    note (.info s!"No snapshots found for function '{text}'.")
    return ⟨name, .skipped, 0, 0, none, []⟩
  let replays ← replayAll t text f events
  let failed := (replays.filter fun r => !r.passed).length
  if failed = 0 then note (.info s!"All {events.length} snapshots passed for {text}.")
  return ⟨name, if failed = 0 then .passed else .failed, events.length, failed, none, replays⟩

end Replaying

namespace Workspace

def wantedNames (records : List Record) : Except Fault (List Json) := do
  records.forM fun r => Log.groupable r.name
  .ok (records.foldl (fun found r =>
    if found.any (Log.sameName r.name) then found else found ++ [r.name]) [])

def textName? : Json → Option String
  | .str s => some s
  | _ => none

def material (w : Workspace) (log : Log) (pattern : Option String) : Acting (List Record × List Path) := do
  let records ← log.records true
  let files ← w.files pattern
  if files.isEmpty then throw ⟨.noFiles, "No source files found."⟩
  return (records, files)

def checkFunction (t : Diff.Tolerance) (name : Json) (f : Routine Run) (events : List Event) :
    StateT Run Acting FunctionReport := fun run => do
  let work := Replaying.verifyFunction t name f (events.map fun e => ([], e))
  let (o, run) := work.run.run { run with notes := [] }
  run.notes.forM Acting.note
  return (← Acting.settle o, run)

def verifyGroup (w : Workspace) (p : Program) (r : Registry) (t : Diff.Tolerance) (g : Log.Group) :
    StateT Run Acting FunctionReport := do
  let name := Replaying.nameText g.name
  match (textName? g.name).bind r.lookup? with
  | none =>
    (Acting.note (.warning s!"Function '{name}' not found in any source file.") : Acting Unit)
    return ⟨g.name, .notFound, g.events.length, 0, none, []⟩
  | some e =>
    (Acting.info s!"Checking function '{name}' in {w.display e.source}" : Acting Unit)
    let report ← checkFunction t g.name (e.thing.routine p "") g.events
    return { report with source := some e.source }

def replayAll (w : Workspace) (host : Host) (t : Diff.Tolerance) (records : List Record)
    (files : List Path) : Acting Report := do
  let names ← Acting.settle (wantedNames records)
  let start := Program.start host (← Acting.files) w.project
  let (p, r) ← Registry.build start files (names.filterMap textName?)
  let events ← Acting.ofNoting (Log.decodeRecords (some p.library) records)
  let groups ← Acting.settle (Log.group events)
  Acting.info s!"Verifying {groups.length} functions against {events.length} snapshots..."
  let (results, _) ← (groups.mapM (w.verifyGroup p r t)).run {}
  return ⟨results, none⟩

/-- Verifies a project. What keeps the log from being replayed at all is part of the report. -/
def verify (w : Workspace) (host : Host) (log : Log) (t : Diff.Tolerance) (pattern : Option String) :
    Acting Report := do
  match ← Acting.outcome (w.material log pattern) with
  | .ok (records, files) => w.replayAll host t records files
  | .error f =>
    if f.kind != .noSnapshots && f.kind != .noFiles then throw f
    Acting.note (.error f.message)
    return ⟨[], some f⟩

end Workspace

end CallSnapshot
