import CallSnapshot.Json.Reader
import CallSnapshot.Number.Numeral
import CallSnapshot.Outside
import CallSnapshot.Session.Workspace
import CallSnapshot.Text.Utf8

/-!
The collector as a process: its number is kept in a file of the session, it is started apart from
the program that starts it, and it is stopped by a signal. A client asks it.
-/

namespace CallSnapshot

namespace Workspace

def savePid (w : Workspace) (pid : Int) : Acting Unit :=
  Acting.put w.pidFile (Text.encodeUtf8 (toString pid))

/-- The number that a content holds, blanks around it left out. -/
def pidOf? (content : List UInt8) : Option Int :=
  match Text.decodeUtf8 content with
  | .ok s => (Numeral.readInt 10 (Text.trim s)).toOption
  | .error _ => none

def savedPid (w : Workspace) : Acting (Option Int) := do
  if !(← Acting.files).hasEntry w.pidFile then return none
  match pidOf? (← Acting.ask w.pidFile fun fs => fs.read w.pidFile) with
  | some pid => return some pid
  | none =>
    Acting.note (.warning s!"Ignoring corrupt PID file {w.pidFile.text}")
    return none

def removePid (w : Workspace) : Acting Unit := do
  if (← Acting.files).hasEntry w.pidFile then
    Acting.change w.pidFile fun fs => fs.remove w.pidFile

end Workspace

namespace Daemon

def probeSignal : Nat := 0

def stopSignal : Nat := 15

/-- Whether there is a process, be it another user's. -/
def isRunning (pid : Int) : Reaching Bool := do
  match ← Reaching.signal pid probeSignal with
  | .running => return true
  | .denied => return true
  | _ => return false

def systemFault : Fault := ⟨.system, "[Errno 5] Input/output error"⟩

/-- Asks a process to stop; says whether it could be asked. -/
def stop (pid : Int) : Reaching Bool := do
  match ← Reaching.signal pid stopSignal with
  | .running => return true
  | .broken => throw systemFault
  | _ => return false

structure Order where
  port : Int
  timeout : Int
  /-- The allowed origin, as the settings have it. -/
  cors : Value
  project : Path
  logName : String
  deriving Repr, Inhabited

def Order.command (o : Order) : List Value :=
  ((["<python>", "-m", "io_snapshot.collector", "--port", toString o.port, "--timeout",
    toString o.timeout, "--cors"].map Value.str) ++ [o.cors]) ++
    ["--project-root", o.project.text, "--snapshot-file", o.logName].map Value.str

def launch (o : Order) : Reaching Int := do
  Reaching.ask (.spawn o.command o.project (toString o.port))
  return (← getThe Setting).outside.launched

end Daemon

/-! Requests to a running collector. -/

structure Client where
  port : Int
  host : String := "localhost"
  timeout : Binary64 := Binary64.ofNat 5
  deriving Repr

namespace Client

def address (c : Client) : String := s!"http://{c.host}:{c.port}"

/-- JSON data where the text of a reply is such, else the text. -/
def bodyOf (text : String) : Json :=
  match Json.parse text with
  | .ok data => data
  | .error _ => .str text

def request (c : Client) (method path : String) : Reaching Json := do
  let (status, text) ← Reaching.request method c.address path c.timeout
  match Reaching.statusFault? status (c.address ++ path) with
  | some f => throw f
  | none => return bodyOf text

def startRecording (c : Client) : Reaching Json := c.request "POST" "/record"

def stopRecording (c : Client) : Reaching Json := c.request "POST" "/stop"

def status (c : Client) : Reaching Json := c.request "GET" "/status"

/-- How often a request is made at most while time passes by steps. -/
def attempts (timeout interval : Binary64) : Nat :=
  let (n, d) := timeout.toRatio
  let (m, e) := interval.toRatio
  2 * (n.toNat * e / (d * m.toNat)) + 2

/-- Asks until there is an answer or the time is over. -/
def waitUntil (c : Client) (deadline interval : Binary64) : (fuel : Nat) → Reaching Bool
  | 0 => return false
  | fuel + 1 => do
    if !(← Reaching.clock).lt deadline then return false
    match ← Reaching.outcome c.status with
    | .ok _ => return true
    | .error f =>
      if !f.kind.isUnreachable then throw f
      Reaching.sleep interval
      c.waitUntil deadline interval fuel

def waitUntilReady (c : Client) (timeout interval : Binary64) : Reaching Bool := do
  let now ← Reaching.clock
  c.waitUntil (now.add timeout) interval (attempts timeout interval)

end Client

end CallSnapshot
