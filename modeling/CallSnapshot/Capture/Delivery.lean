import CallSnapshot.Config
import CallSnapshot.Outside

/-!
Delivery of recorded lines to the collector. A caller hands its line over and goes on; one worker posts
the lines, each once and in order. What goes wrong reaches no caller, and only the first failure after a
success is worth a warning.
-/

namespace CallSnapshot

def collectorPort (env : Environment) : Noting Int := do
  match env.get? portVariable with
  | none => return defaultPort
  | some s =>
    match Numeral.readInt 10 s with
    | .ok port => return port
    | .error _ =>
      Noting.note (.warning s!"Ignoring invalid {portVariable}={Text.quoted s}")
      return defaultPort

/-- How sending a line ended: with a reply, or with an exception. -/
inductive Sent where
  | replied (status : Nat)
  | failed (fault : Fault)
  deriving Repr, Inhabited

structure Delivery where
  /-- Zero means the port of the environment. -/
  port : Option Int
  warned : Bool := false
  deriving Repr, Inhabited

namespace Delivery

def url (d : Delivery) (env : Environment) : Noting String := do
  let port ← match d.port with
    | none => collectorPort env
    | some 0 => collectorPort env
    | some p => pure p
  return s!"http://localhost:{port}/telemetry"

def fault? (url : String) : Sent → Option Fault
  | .replied status => Reaching.statusFault? status url
  | .failed f => some f

def complaint (d : Delivery) (f : Fault) : Note :=
  ⟨if d.warned then .debug else .warning, "Telemetry failed: ", some f⟩

/-- The state after a line was sent, and what is noted. -/
def settle (d : Delivery) (fault : Option Fault) : Delivery × Option Note :=
  match fault with
  | none => ({ d with warned := false }, none)
  | some f => ({ d with warned := true }, some (d.complaint f))

def send (d : Delivery) (env : Environment) (sent : Sent) : Noting (Delivery × String) := do
  let url ← d.url env
  let (d, n) := d.settle (fault? url sent)
  n.forM Noting.note
  return (d, url)

def sendAll (d : Delivery) (env : Environment) : List Sent → Delivery × List (String × List Note)
  | [] => (d, [])
  | s :: rest =>
    match (d.send env s).start with
    | (.ok (d, url), notes) =>
      let (d, done) := d.sendAll env rest
      (d, (url, notes) :: done)
    | (.error _, _) => (d, [])

end Delivery

structure Posting where
  url : String
  body : List UInt8
  contentType : String
  timeout : Binary64
  /-- What was noted meanwhile. -/
  notes : List Note
  deriving Repr, Inhabited

structure Course where
  env : Nat → Environment
  sent : Nat → Sent

/-- Lines on their way: those that nothing has posted yet, the first one first, and what has been posted. -/
structure Outbox where
  delivery : Delivery
  timeout : Binary64
  waiting : List String
  posted : List Posting
  deriving Repr, Inhabited

/-- A caller sends a line, or the worker posts one. -/
inductive Turn where
  | send (line : String)
  | post
  deriving Repr, Inhabited

namespace Outbox

/-- Puts a line behind those that wait; it is posted later. -/
def send (line : String) : StateM Outbox (Except Fault Unit) := do
  modify fun o => { o with waiting := o.waiting ++ [line] }
  return .ok ()

/-- Posts the line that has waited longest, if one waits. A fault would be that of the work as a whole. -/
def post (course : Course) : StateM Outbox (Except Fault Unit) := do
  let o ← get
  match o.waiting with
  | [] => return .ok ()
  | line :: waiting =>
    let k := o.posted.length
    match (o.delivery.send (course.env k) (course.sent k)).start with
    | (.error f, _) =>
      set { o with waiting }
      return .error f
    | (.ok (delivery, url), notes) =>
      let posting := ⟨url, Text.encodeUtf8 line, "application/json", o.timeout, notes⟩
      set { o with delivery, waiting, posted := o.posted ++ [posting] }
      return .ok ()

def take (course : Course) : Turn → StateM Outbox (Except Fault Unit)
  | .send line => send line
  | .post => post course

def flush (course : Course) : StateM Outbox Unit := do
  (← get).waiting.forM fun _ => discard (post course)

end Outbox

end CallSnapshot
