import CallSnapshot.CommandLine.Command
import CallSnapshot.Replay.Replay
import CallSnapshot.Session.Daemon

/-!
What the commands do. Each ends with a code, zero where all went well. What goes wrong on the way is
noted and gives one, so that nothing a command meets ends the program otherwise.
-/

namespace CallSnapshot

namespace CommandLine

-- Powers are those of the core library, whatever is imported beside this module.
attribute [local instance (high)] instPowNat

structure Context where
  workspace : Workspace
  host : Host
  config : Config
  configPath : Path
  /-- The time that is written into a summary. -/
  time : String

def say (text : String) : Reaching Unit := Reaching.note (.info text)

def warn (text : String) : Reaching Unit := Reaching.note (.warning text)

def bar : String := "━━━━━━━━━━━━━━━━━━━━"

def divider : String := bar ++ bar

def titled (label : String) : String := bar ++ " " ++ label ++ " " ++ bar

def settle {α : Type} (r : Except Fault α) : Reaching α := (Acting.settle r : Acting α)

namespace Context

def log (c : Context) : Except Fault Log :=
  match c.config.logName.textOf? with
  | some name => .ok ⟨c.workspace.project.join (.parse name)⟩
  | none =>
    .error ⟨.type,
      s!"unsupported operand type(s) for /: 'PosixPath' and '{c.config.logName.typeName}'"⟩

def portOf (c : Context) (given : Option String) : Except Fault Int :=
  match given with
  | some s => Options.port (.str s)
  | none => .ok c.config.port

def targetOf (c : Context) (given : Option String) : Except Fault Value :=
  match given with
  | some s => (Options.pattern (.str s)).map .str
  | none => .ok c.config.pattern

def ownTarget (given : Option String) : Except Fault (Option String) :=
  match given with
  | some s => (Options.pattern (.str s)).map some
  | none => .ok none

def patternOf (v : Value) : Except Fault (Option String) :=
  match v.isTrue, v.textOf? with
  | false, _ => .ok none
  | true, some s => .ok (some s)
  | true, none => .error ⟨.type, s!"expected str, bytes or os.PathLike object, not {v.typeName}"⟩

def tolerance (c : Context) : Except Fault Diff.Tolerance :=
  match c.config.tolerance with
  | .dict es =>
    let get := fun name => (Diff.lookup? (.str name) es).getD (.float Binary64.zero)
    .ok (.ofSettings (get "rtol") (get "atol"))
  | v => .error ⟨.attribute, s!"'{v.typeName}' object has no attribute 'get'"⟩

end Context

/-- The number of the running collector that is kept; zero is none. -/
def savedPid (c : Context) : Reaching (Option Int) := do
  return (← (c.workspace.savedPid : Acting (Option Int))).filter (· != 0)

def instrument (c : Context) (target : Value) (force : Bool) : Reaching (List Injection) := do
  let pattern ← settle (Context.patternOf target)
  (c.workspace.inject pattern force : Acting (List Injection))

def inject (c : Context) (target : Option String) (force : Bool) : Reaching Nat := do
  let results ← instrument c (← settle (c.targetOf target)) force
  if results.isEmpty then return 1
  let count := Injection.count results
  say (s!"Injected {count .injected} of {results.length} files ({count .unchanged} unchanged, " ++
    s!"{count .skipped} skipped, {count .failed} failed)")
  return if count .failed = 0 then 0 else 1

def workflow : List String := [
  titled "IMPORTANT",
  "Run this command FIRST, THEN start your program!",
  divider,
  "Workflow:",
  "  1. io-snapshot record  -> Inject recorder + start background collector",
  "  2. Run your program    -> The collector MUST be running",
  "  3. Exercise it         -> Capture real-world calls",
  "  4. io-snapshot stop    -> Stop recording and restore your original code",
  "  5. Modify your code    -> Perform your refactoring",
  "  6. io-snapshot test    -> Verify new code against captured snapshots"]

/-- Whether a collector of the project is running; the number of one that is not is forgotten. -/
def isOccupied (c : Context) : Reaching Bool := do
  say "Checking for existing session..."
  match ← savedPid c with
  | none => return false
  | some pid =>
    if ← Daemon.isRunning pid then
      say divider
      warn "io-snapshot is already running!"
      warn s!"A collector is active (PID: {pid})"
      warn "Please run \"io-snapshot stop\" first before starting a new session."
      say divider
      return true
    (c.workspace.removePid : Acting Unit)
    return false

def startLimit : Binary64 := Binary64.ofNat 10

def startInterval : Binary64 := Binary64.ofSigned 1 5

def startCollector (c : Context) (port timeout : Int) (log : Log) : Reaching Nat := do
  say "[Step 2] Starting collector..."
  let logName := (c.config.logName.textOf?).getD ""
  let pid ← Daemon.launch ⟨port, timeout, c.config.cors, c.workspace.project, logName⟩
  (c.workspace.savePid pid : Acting Unit)
  let client : Client := { port }
  if !(← client.waitUntilReady startLimit startInterval) then
    Reaching.note (.error s!"Collector did not come up on port {port}.")
    return 1
  say s!"Collector started on port {port} (PID: {pid})"
  say "[Step 3] Starting recording..."
  match ← Reaching.outcome client.startRecording with
  | .error f =>
    if !f.kind.isUnreachable then throw f
    Reaching.note ⟨.error, "Failed to start recording: ", some f⟩
    return 1
  | .ok _ =>
    [ "Recording active.", s!"Snapshots will be saved to: {log.path.text}", divider, "NOW START YOUR PROGRAM",
      "Run \"io-snapshot stop\" when done to restore original code.", divider].forM say
    return 0

def record (c : Context) (target port timeout : Option String) (force : Bool) : Reaching Nat := do
  let port ← settle (c.portOf port)
  let timeout ← match timeout with
    | some s => settle (Options.timeout (.str s))
    | none => pure c.config.timeout
  let target ← settle (c.targetOf target)
  workflow.forM say
  if ← isOccupied c then return 1
  let log ← settle c.log
  (log.clear : Acting Unit)
  say "Cleared previous snapshot file for a fresh session."
  say "[Step 1] Injecting recorder into files..."
  if (← instrument c target force).isEmpty then return 1
  startCollector c port timeout log

def stopRecording (port : Int) : Reaching Unit := do
  say "[Step 1] Stopping recording..."
  let client : Client := { port }
  match ← Reaching.outcome client.stopRecording with
  | .ok _ => say "Recording stopped."
  | .error f =>
    if !f.kind.isUnreachable then throw f
    warn s!"Collector not responding: {f.message}."

def stopCollector (c : Context) : Reaching Unit := do
  say "[Step 2] Stopping collector..."
  match ← savedPid c with
  | none => return
  | some pid =>
    if ← Daemon.stop pid then say s!"Collector (PID: {pid}) stopped."
    else warn "Collector not running, cleaning up PID file."
    (c.workspace.removePid : Acting Unit)

def stop (c : Context) (port : Option String) : Reaching Nat := do
  stopRecording (← settle (c.portOf port))
  stopCollector c
  say "[Step 3] Restoring original code..."
  let log ← settle c.log
  let _ ← (c.workspace.restore none none : Acting (List Path))
  let fs ← (Acting.files : Acting Files)
  if fs.hasEntry log.path then
    let size := match fs.read log.path with
      | .ok bs => bs.length
      | .error _ => 4096
    say s!"Snapshots preserved: {log.path.text} ({size} bytes)"
  [divider, "Original code restored. Snapshots preserved for testing.",
    "Run \"io-snapshot test\" to verify your code changes.", divider].forM say
  return 0

def writeSummary (c : Context) (r : Report) (p : Path) : Acting Unit := do
  Acting.change p fun fs => fs.write p []
  let text ← Acting.settle (r.summary c.time >>= Json.print Json.indented)
  Acting.change p fun fs => fs.write p (Text.encodeUtf8 text)

def counts (r : Report) : List String := [
  "\nVerification complete:",
  s!"  Functions: {r.results.length}",
  s!"  Passed: {r.count .passed}",
  s!"  Failed: {r.count .failed}",
  s!"  Not found: {r.count .notFound}",
  s!"  Skipped: {r.count .skipped}"]

def test (c : Context) (target : Option String) (summary : Option Path) : Reaching Nat := do
  let pattern ← settle (Context.ownTarget target)
  let tolerance ← settle c.tolerance
  let log ← settle c.log
  let r ← (c.workspace.verify c.host log tolerance pattern : Acting Report)
  if r.error.isNone then (counts r).forM say
  if r.passed then
    say (titled "SUCCESS")
    say "All verifications passed!"
  else
    say (titled "FAILURE")
    Reaching.note (.error "Some verifications failed.")
  match summary with
  | none => pure ()
  | some p =>
    match ← Reaching.outcome (writeSummary c r p : Acting Unit) with
    | .ok () => say s!"Summary written to {p.text}"
    | .error f => Reaching.note ⟨.warning, "Failed to write summary: ", some f⟩
  return if r.passed then 0 else 1

def clean (c : Context) (target : Option String) : Reaching Nat := do
  let pattern ← settle (Context.ownTarget target)
  let log ← settle c.log
  let _ ← (c.workspace.restore pattern (some log) : Acting (List Path))
  return 0

def outOfRange : Fault := ⟨.overflow, "timestamp out of range for platform time_t"⟩

def leastSecond : Int := -67768040609740800

def greatestSecond : Int := 67768036191676799

def twoDigits (n : Nat) : String := if n < 10 then s!"0{n}" else toString n

def timeOfDay (seconds : Int) : Except Fault String :=
  if seconds < -(2 ^ (63 : Nat)) || 2 ^ (63 : Nat) ≤ seconds then .error outOfRange
  else if seconds < leastSecond || greatestSecond < seconds then
    .error ⟨.system, "[Errno 75] Value too large for defined data type"⟩
  else
    let s := (seconds % 86400).toNat
    .ok s!"{twoDigits (s / 3600)}:{twoDigits (s / 60 % 60)}:{twoDigits (s % 60)}"

def uptimeText (uptime : Json) : Except Fault String :=
  match uptime with
  | .int n => timeOfDay n
  | .bool b => timeOfDay (if b then 1 else 0)
  | .null => timeOfDay 0
  | .float .nan => .error ⟨.value, "Invalid value NaN (not a number)"⟩
  | .float (.infinity _) => .error outOfRange
  | .float x => timeOfDay (x.toRatio.1 / x.toRatio.2)
  | j => .error ⟨.type, s!"'{Codec.typeName j}' object cannot be interpreted as an integer"⟩

def tellStatus (reply : Json) : Reaching Unit := do
  match reply with
  | .obj ms =>
    let text := fun name => (Codec.ofJson ((Json.find? name ms).getD .null)).plainText
    let recording := text "is_recording"
    say s!"  Recording: {recording}"
    let timeout := text "timeout"
    say s!"  Idle timeout: {timeout} minutes"
    say ("  Uptime: " ++ (← settle (uptimeText ((Json.find? "uptime" ms).getD (.int 0)))))
  | j => throw ⟨.attribute, s!"'{Codec.typeName j}' object has no attribute 'get'"⟩

def status (c : Context) (port : Option String) : Reaching Nat := do
  let port ← settle (c.portOf port)
  let saved ← savedPid c
  let client : Client := { port }
  match ← Reaching.outcome client.status with
  | .error f =>
    if !f.kind.isUnreachable then throw f
    say s!"Collector is not running on port {port}."
    match saved with
    | none => pure ()
    | some pid =>
      if !(← Daemon.isRunning pid) then
        warn s!"Stale PID file found (PID: {pid}); run \"io-snapshot stop\"."
    return 1
  | .ok reply =>
    let pid := saved.elim "" fun pid => s!" (PID: {pid})"
    say s!"Collector running on port {port}{pid}"
    tellStatus reply
    return 0

def configure (c : Context) (create display : Bool) : Reaching Nat := do
  if create then
    (Config.create c.configPath : Acting Unit)
  else if display then
    say "Current configuration:"
    c.config.members.forM fun (k, v) => say s!"  {k}: {v.plainText}"
  else say "Use --init to create default config or --show to display current config"
  return 0

def perform (c : Context) (command : Command) : Reaching Nat :=
  match command with
  | .inject target force => inject c target force
  | .record target port timeout force => record c target port timeout force
  | .stop port => stop c port
  | .test target summary => test c target summary
  | .clean target => clean c target
  | .status port => status c port
  | .config create display => configure c create display

def setLevel (l : Level) : Reaching Unit :=
  modifyThe Setting fun s => { s with scene := { s.scene with level := l } }

def withOutput (c : Config) (line : CommandLine) : Config := { c with
  verbose := if line.verbose then .bool true else c.verbose
  quiet := if line.quiet then .bool true else c.quiet }

def levelOf (c : Config) : Level :=
  if c.verbose.isTrue then .debug else if c.quiet.isTrue then .warning else .info

def carryOut (w : Workspace) (host : Host) (env : Environment) (time : String) (line : CommandLine)
    (command : Command) : Reaching Nat := do
  let path := line.config.getD (w.project.child configName)
  let config ← (Config.forProject env w.project (some path) : Acting Config)
  let config := withOutput config line
  setLevel (levelOf config)
  perform ⟨w, host, config, path, time⟩ command

def endWith (f : Fault) : Reaching Nat := do
  if f.kind == .interrupt then
    say "\nInterrupted by user"
    return 1
  if f.kind.isFinal then throw f
  Reaching.note ⟨.error, "Error: ", some f⟩
  return 1

def run (w : Workspace) (host : Host) (env : Environment) (time : String) (words : List String) :
    Reaching (Except Stop Nat) := do
  match parse words with
  | .error stop => return .error stop
  | .ok line =>
    setLevel .info
    match line.command with
    | none => return .ok 1
    | some command =>
      match ← Reaching.outcome (carryOut w host env time line command) with
      | .ok code => return .ok code
      | .error f => return .ok (← endWith f)

end CommandLine

end CallSnapshot
