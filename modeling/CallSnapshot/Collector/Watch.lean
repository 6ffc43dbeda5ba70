import CallSnapshot.Note
import CallSnapshot.Number.Binary64

/-!
The state of a recording session: whether calls are recorded, and when something was last done.
Times are seconds. A session that is idle for long enough is ended by a watch that looks at it from
time to time.
-/

namespace CallSnapshot

structure Recording where
  isOn : Bool
  lastActivity : Binary64
  started : Binary64
  deriving DecidableEq, Repr, Inhabited

namespace Recording

def begin (now : Binary64) : Recording := ⟨false, now, now⟩

def touch (now : Binary64) (r : Recording) : Recording := { r with lastActivity := now }

def start (now : Binary64) (r : Recording) : Recording := { r with isOn := true, lastActivity := now }

def stop (r : Recording) : Recording := { r with isOn := false }

def idleMinutes (now : Binary64) (r : Recording) : Binary64 := (now.sub r.lastActivity).divNat 60

/-- The minutes until a given time; none and zero mean the present. -/
def idleMinutesAt (given : Option Binary64) (now : Binary64) (r : Recording) : Binary64 :=
  match given with
  | some t => r.idleMinutes (if t.isZero then now else t)
  | none => r.idleMinutes now

def uptime (now : Binary64) (r : Recording) : Binary64 := now.sub r.started

def atLeast (x : Binary64) (n : Int) : Bool :=
  match x with
  | .nan => false
  | .infinity negative => !negative
  | x => decide (n * x.toRatio.2 ≤ x.toRatio.1)

def isIdle (timeout : Int) (now : Binary64) (r : Recording) : Bool := atLeast (r.idleMinutes now) timeout

end Recording

end CallSnapshot

/-!
The watch over a session. It sleeps, looks at the session and sleeps again, until it finds the
session idle; then it says so and is over.
-/

namespace CallSnapshot

structure Watch where
  /-- Minutes without activity that end the session. -/
  timeout : Int
  /-- Seconds between two looks. -/
  interval : Binary64
  deriving Repr, Inhabited

structure Watched where
  recording : Recording
  clock : Binary64
  looks : List Binary64
  ended : Bool
  deriving Repr, Inhabited

namespace Watch

def endNote (w : Watch) : Note :=
  .error s!"Collector auto-shutting down after {w.timeout} minutes of inactivity."

def touchUntil (time : Binary64) (r : Recording) : List Binary64 → Recording × List Binary64
  | [] => (r, [])
  | t :: ts => if t.le time then touchUntil time (r.touch t) ts else (r, t :: ts)

def look (w : Watch) (now : Binary64) (s : Watched) : Watched :=
  { s with clock := now, looks := s.looks ++ [now], ended := s.recording.isIdle w.timeout now }

def run (w : Watch) : (looks : Nat) → List Binary64 → Watched → Watched
  | 0, _, s => s
  | n + 1, touches, s =>
    let now := s.clock.add w.interval
    let (recording, touches) := touchUntil now s.recording touches
    let s := w.look now { s with recording }
    if s.ended then s else run w n touches s

def start (now : Binary64) : Watched := ⟨.begin now, now, [], false⟩

end Watch

end CallSnapshot
