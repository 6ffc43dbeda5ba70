import CallSnapshot.Note
import CallSnapshot.Value.Basic

/-!
Functions as they are recorded and replayed. A call may change its arguments and a state; it ends
with a value or a fault, at once or when it is awaited.
-/

namespace CallSnapshot

/-- What a function is called with. Containers that lie within themselves lie in the heap. -/
structure Call where
  args : List Value
  kwargs : List (String × Value)
  heap : Heap := []
  deriving Repr, Inhabited

structure Outcome where
  result : Except Fault Value
  call : Call
  deriving Inhabited

/-- What a function gives back at once: the end of the call, or work that is done when it is
awaited. -/
inductive Reply (σ : Type) where
  | ended (o : Outcome)
  | later (call : Call) (work : σ → Outcome × σ)

structure Routine (σ : Type) where
  isAsync : Bool
  body : Call → StateM σ (Reply σ)

class Noted (σ : Type) where
  note : Note → σ → σ

namespace Outcome

def value (c : Call) (v : Value) : Outcome := ⟨.ok v, c⟩

def fault (c : Call) (f : Fault) : Outcome := ⟨.error f, c⟩

/-- The end of an iteration cannot leave work that is awaited. -/
def guardStop (o : Outcome) : Outcome :=
  match o.result with
  | .error ⟨.stopIteration, _⟩ => { o with result := .error ⟨.runtime, "coroutine raised StopIteration"⟩ }
  | _ => o

end Outcome

namespace Routine

variable {σ : Type}

def awaitable : Value := .described .awaitable []

/-- The end of a body that is awaited; work it gives back itself stays unawaited. -/
def bodyOutcome : Reply σ → Outcome
  | .ended o => o.guardStop
  | .later c _ => .value c awaitable

/-- Calls a function. The body of an asynchronous one is done when the call is awaited. -/
def start (r : Routine σ) (c : Call) : StateM σ (Reply σ) := do
  if r.isAsync then
    return .later c fun s =>
      let (reply, s) := (r.body c).run s
      (bodyOutcome reply, s)
  else r.body c

def finish : Reply σ → StateM σ Outcome
  | .ended o => pure o
  | .later _ work => fun s =>
    let (o, s) := work s
    (o.guardStop, s)

def run (r : Routine σ) (c : Call) : StateM σ Outcome := do finish (← r.start c)

def within {τ α : Type} (get : τ → σ) (set : σ → τ → τ) (work : StateM σ α) : StateM τ α := fun t =>
  let (x, s) := work.run (get t)
  (x, set s t)

def liftReply {τ : Type} (get : τ → σ) (set : σ → τ → τ) : Reply σ → Reply τ
  | .ended o => .ended o
  | .later c work => .later c (within get set work)

def lift {τ : Type} (get : τ → σ) (set : σ → τ → τ) (r : Routine σ) : Routine τ where
  isAsync := r.isAsync
  body c := do return liftReply get set (← within get set (r.body c))

end Routine

end CallSnapshot
