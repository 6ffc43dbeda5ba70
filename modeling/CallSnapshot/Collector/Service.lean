import CallSnapshot.Collector.Watch
import CallSnapshot.Log.Store

/-!
The collector as a service. It answers requests to start and to stop recording, to tell its state,
and to take the line of a recorded call, which it adds to the log while recording is on. Pages from
allowed origins may send requests too.
-/

namespace CallSnapshot

structure Request where
  method : String
  path : String
  body : List UInt8 := []
  /-- The page that a request comes from. -/
  origin : Option String := none
  /-- The method that a page asks leave for. -/
  asked : Option String := none
  deriving Repr, Inhabited

inductive Body where
  | data (j : Json)
  | text (s : String)
  deriving Repr, Inhabited

structure Response where
  status : Nat
  body : Body
  allowedOrigin : Option String := none
  deriving Repr, Inhabited

structure Service where
  log : Log
  recording : Recording
  timeout : Int
  cors : String
  deriving Repr, Inhabited

/-- A service among files. -/
abbrev Serving := StateM (Service × Scene)

namespace Service

def methods : List String := ["GET", "POST", "OPTIONS"]

def routes : List (String × String) :=
  [("/status", "GET"), ("/record", "POST"), ("/stop", "POST"), ("/telemetry", "POST")]

def note (n : Note) : Serving Unit := modify fun (s, scene) => (s, scene.add n)

def onRecording (f : Recording → Recording) : Serving Unit :=
  modify fun (s, scene) => ({ s with recording := f s.recording }, scene)

def reply (members : List (String × Json)) : Response := ⟨200, .data (.obj members), none⟩

def statusReply (now : Binary64) (s : Service) : Response :=
  reply [("is_recording", .bool s.recording.isOn), ("timeout", .int s.timeout),
    ("uptime", .float (s.recording.uptime now)), ("cors_origin", .str s.cors)]

def store (log : Log) (body : List UInt8) : Acting Unit := do
  match Text.decodeUtf8 body with
  | .ok line => log.appendLine line
  | .error e => throw ⟨.textDecoding, e.message⟩

/-- Takes the line of a call. It counts as activity also where it cannot be stored. -/
def take (now : Binary64) (body : List UInt8) : Serving Response := do
  let (s, _) ← get
  if !s.recording.isOn then
    return reply [("status", .str "ignored"), ("reason", .str "not_recording")]
  onRecording (·.touch now)
  let (s, scene) ← get
  let (r, scene) := (store s.log body).run.run scene
  set (s, scene)
  match r with
  | .ok () => return reply [("status", .str "captured")]
  | .error f =>
    note ⟨.error, "Failed to store capture event: ", some f⟩
    return ⟨500, .data (.obj [("error", .str f.message)]), none⟩

def refusal (method : String) (status : Nat) (detail : String) : Response :=
  if method == "HEAD" then ⟨status, .text "", none⟩
  else ⟨status, .data (.obj [("detail", .str detail)]), none⟩

def slashed (path : String) : String :=
  if path.endsWith "/" then String.ofList (path.toList.reverse.dropWhile (· == '/')).reverse
  else path ++ "/"

/-- The route of a path, or of the path that it is redirected to. -/
def route? (path : String) : Option (String × String) :=
  (routes.find? (·.1 == path)).orElse fun _ =>
    if path == "/" then none else routes.find? (·.1 == slashed path)

def answer (now : Binary64) (r : Request) : Serving Response := do
  match route? r.path with
  | none => return refusal r.method 404 "Not Found"
  | some (path, method) =>
    if method != r.method then return refusal r.method 405 "Method Not Allowed"
    match path with
    | "/status" => return statusReply now (← get).1
    | "/record" =>
      onRecording (·.start now)
      note (.info "Recording started.")
      return reply [("is_recording", .bool true)]
    | "/stop" =>
      onRecording (·.stop)
      note (.info "Recording stopped.")
      return reply [("is_recording", .bool false)]
    | _ => take now r.body

def admits (s : Service) (origin : String) : Bool := s.cors == "*" || s.cors == origin

def letIn (s : Service) (origin : String) : Option String :=
  if s.cors == "*" then some "*" else if s.cors == origin then some origin else none

def leave (s : Service) (origin asked : String) : Response :=
  let refused := (if s.admits origin then [] else ["origin"]) ++
    (if methods.contains asked then [] else ["method"])
  if refused.isEmpty then ⟨200, .text "OK", s.letIn origin⟩
  else ⟨400, .text ("Disallowed CORS " ++ ", ".intercalate refused), s.letIn origin⟩

def handle (now : Binary64) (r : Request) : Serving Response := do
  match r.origin with
  | none => answer now r
  | some origin =>
    let (s, _) ← get
    match r.method, r.asked with
    | "OPTIONS", some asked => return s.leave origin asked
    | _, _ => return { ← answer now r with allowedOrigin := s.letIn origin }

structure Handled where
  time : Binary64
  response : Response
  recording : Recording
  notes : List Note
  deriving Repr, Inhabited

def handleAll : List (Binary64 × Request) → Serving (List Handled)
  | [] => pure []
  | (now, r) :: rest => do
    let (s, scene) ← get
    set (s, { scene with notes := [] })
    let response ← handle now r
    let (s, done) ← get
    set (s, { done with notes := scene.notes })
    return ⟨now, response, s.recording, done.notes⟩ :: (← handleAll rest)

end Service

end CallSnapshot
