import CallSnapshot.Capture.Routine
import CallSnapshot.Log.Event

/-!
Recording of calls. A recorded function acts as the bare one does; beside that, each call that ends
with a value is handed over as the line of an event. Arguments are taken as they are on entry.
What goes wrong with the recording is noted and touches the call no further.
-/

namespace CallSnapshot

structure Recorder (σ : Type) where
  time : String
  send : String → StateM σ (Except Fault Unit)

namespace Recorder

variable {σ : Type} [Noted σ]

structure Arguments where
  args : List Json
  kwargs : List (String × Json)
  deriving Repr, Inhabited

def Arguments.ofCall (c : Call) : Except Fault Arguments := do
  let args ← Event.encodeArgs c.heap c.args
  .ok ⟨args, ← Event.encodeKwargs c.heap c.kwargs⟩

def complain (name : String) (f : Fault) : StateM σ Unit :=
  modify (Noted.note ⟨.warning, s!"Failed to capture call to {name}: ", some f⟩)

def entryArguments (name : String) (c : Call) : StateM σ (Option Arguments) := do
  match Arguments.ofCall c with
  | .ok a => return some a
  | .error f =>
    complain name f
    return none

def lineOf (time name : String) (a : Arguments) (heap : Heap) (result : Value) : Except Fault String := do
  let result ← Codec.encode heap result
  Json.print Json.compact (Event.recordData (.str name) a.args a.kwargs result (.str time))

def capture (r : Recorder σ) (name : String) (a : Arguments) (heap : Heap) (v : Value) :
    StateM σ Unit := do
  match lineOf r.time name a heap v with
  | .error f => complain name f
  | .ok line =>
    match ← r.send line with
    | .error f => complain name f
    | .ok () => pure ()

def captureOutcome (r : Recorder σ) (name : String) (a : Option Arguments) (o : Outcome) :
    StateM σ Unit :=
  match a, o.result with
  | some a, .ok v => r.capture name a o.call.heap v
  | _, _ => pure ()

/-- What is recorded of a reply: work that is not awaited here is recorded as such. -/
def captureReply (r : Recorder σ) (name : String) (a : Option Arguments) : Reply σ → StateM σ Unit
  | .ended o => r.captureOutcome name a o
  | .later c _ => r.captureOutcome name a (.value c Routine.awaitable)

def record (r : Recorder σ) (name : String) (f : Routine σ) : Routine σ where
  isAsync := f.isAsync
  body c := do
    let a ← entryArguments name c
    if f.isAsync then
      let o ← f.run c
      r.captureOutcome name a o
      return .ended o
    else
      let reply ← f.start c
      r.captureReply name a reply
      return reply

end Recorder

end CallSnapshot
