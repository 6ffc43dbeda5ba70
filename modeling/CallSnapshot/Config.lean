import CallSnapshot.Diff.Compare
import CallSnapshot.Scene
import CallSnapshot.Text.Utf8

/-!
Settings for recording and verification. They come from a file of JSON data; what the file does not
set keeps its default, what it sets wrongly makes all of it count for nothing. Two settings can be
overridden from the environment.
-/

namespace CallSnapshot

def optionFault (message : String) : Fault := ⟨.option, message⟩

def defaultPort : Int := 9444

def defaultTimeout : Int := 30

def defaultPattern : String := "**/*.py"

def defaultLogName : String := ".snaps.jsonl"

def configName : String := ".iosnapshotrc.json"

def portVariable : String := "IOSNAP_DAEMON_PORT"

def corsVariable : String := "IOSNAP_DAEMON_CORS"

abbrev Environment := List (String × String)

def Environment.get? (env : Environment) (name : String) : Option String :=
  match (env.find? (·.1 == name)).map Prod.snd with
  | some "" => none
  | v => v

namespace Options

/-- What keeps a value from being read as an integer. -/
inductive Unread where
  | malformed
  | fault (f : Fault)
  deriving Repr

def readText (s : String) : Except Unread Int :=
  match Numeral.readInt 10 s with
  | .ok n => .ok n
  | .error _ => .error .malformed

def asciiText? (bs : List UInt8) : Option String :=
  if bs.all (· < 128) then some (String.ofList (bs.map fun b => Char.ofNat b.toNat)) else none

def infiniteFault (name : String) : Fault := ⟨.overflow, s!"cannot convert {name} to integer"⟩

/-- What a value is read by: its only item, where it is a scalar or an array without dimensions. -/
def content (v : Value) : Value :=
  match v.base with
  | .scalar _ x => x
  | .array _ [] [x] => x
  | v => v

/-- The integer that a value stands for: the integer part of a number, the bits of an identifier, or
the numeral that a text or bytes hold. -/
def readInteger (v : Value) : Except Unread Int :=
  match (content v).quantity? with
  | some (.int n) => .ok n
  | some (.binary .nan) => .error .malformed
  | some (.binary (.infinity _)) => .error (.fault (infiniteFault "float infinity"))
  | some (.binary x) => .ok x.truncate
  | some (.decimal (.finite s m e)) => .ok (Decimal.truncate s m e)
  | some (.decimal (.infinity _)) => .error (.fault (infiniteFault "Infinity"))
  | some (.decimal (.nan ..)) => .error .malformed
  | some (.ratio n d) => .ok (n.tdiv d)
  | none =>
    match (content v).textOf?, content v with
    | some s, _ => readText s
    | none, .bytes bs =>
      match asciiText? bs with
      | some s => readText s
      | none => .error .malformed
    | none, .uuid u => .ok u.bits
    | none, _ => .error .malformed

/-- A complaint about a value, which integers with too many digits keep from being written. -/
def complain (what rule : String) (v : Value) : Fault :=
  if v.tooLong then ⟨.value, Json.printLimitText⟩
  else optionFault s!"Invalid {what}: {v.plainText}. Must be {rule}."

def portRule : String := "an integer between 1 and 65535"

def timeoutRule : String := "a positive integer"

/-- Whether a value is a binary fraction that is no integer. -/
def isBroken (v : Value) : Bool :=
  match Diff.number? v with
  | some (.binary x) => !x.isIntegral
  | _ => false

def port (v : Value) : Except Fault Int :=
  match readInteger v with
  | .error (.fault f) => .error f
  | .error .malformed => .error (complain "port" portRule v)
  | .ok n =>
    if isBroken v || n < 1 || 65535 < n then .error (complain "port" portRule v) else .ok n

def timeout (v : Value) : Except Fault Int :=
  match readInteger v with
  | .error (.fault f) => .error f
  | .error .malformed => .error (complain "timeout" timeoutRule v)
  | .ok n => if n < 1 then .error (complain "timeout" timeoutRule v) else .ok n

def pattern (v : Value) : Except Fault String :=
  let refusal := optionFault "File pattern must be a non-empty string."
  match v.textOf? with
  | some s => if (Text.trim s).isEmpty then .error refusal else .ok (Text.trim s)
  | none => .error refusal

end Options

structure Config where
  port : Int
  timeout : Int
  cors : Value
  pattern : Value
  logName : Value
  tolerance : Value
  verbose : Value
  quiet : Value
  deriving Repr, Inhabited

namespace Config

def zeroTolerance : Value :=
  .dict [(.str "rtol", .float Binary64.zero), (.str "atol", .float Binary64.zero)]

def standard : Config where
  port := defaultPort
  timeout := defaultTimeout
  cors := .str "*"
  pattern := .str defaultPattern
  logName := .str defaultLogName
  tolerance := zeroTolerance
  verbose := .bool false
  quiet := .bool false

def names : List String :=
  ["port", "timeout", "cors_origin", "pattern", "snapshot_file", "tolerance", "verbose", "quiet"]

def members (c : Config) : List (String × Value) := [
  ("port", .int c.port), ("timeout", .int c.timeout), ("cors_origin", c.cors),
  ("pattern", c.pattern), ("snapshot_file", c.logName), ("tolerance", c.tolerance),
  ("verbose", c.verbose), ("quiet", c.quiet)]

def toValue (c : Config) : Value := .dict (c.members.map fun (k, v) => (.str k, v))

def keysOf (data : Value) : Except Fault (List Value) :=
  match data.base with
  | .dict es => .ok (es.map Prod.fst)
  | .list xs => check xs
  | .tuple xs => check xs
  | .set xs => .ok xs
  | .frozenset xs => .ok xs
  | .str s => .ok (distinct (s.toList.map fun c => .str c.toString))
  | v => .error ⟨.type, s!"'{v.typeName}' object is not iterable"⟩
where
  distinct (xs : List Value) : List Value := xs.foldl (fun found x => Codec.addElement x found) []
  check (xs : List Value) : Except Fault (List Value) :=
    match xs.findSome? Value.hashFault? with
    | some f => .error f
    | none => .ok (distinct xs)

def isName (v : Value) : Bool := names.any fun n => v.eq (.str n)

def insertText (s : String) : List String → List String
  | [] => [s]
  | t :: ts => if s ≤ t then s :: t :: ts else t :: insertText s ts

def sortTexts (ss : List String) : List String := ss.foldr insertText []

/-- Keys in order; texts cannot be ordered among other values. -/
def sortKeys (keys : List Value) : Except Fault (List Value) :=
  match keys with
  | [] => .ok []
  | [k] => .ok [k]
  | keys =>
    match keys.mapM Value.textOf? with
    | some texts => .ok ((sortTexts texts).map .str)
    | none =>
      let ints := keys.filterMap Diff.int?
      if ints.length == keys.length then .ok ((ints.foldr Value.insertInt []).map .int)
      else .error ⟨.type, "'<' not supported between instances of these types"⟩

def setting? (data : Value) (name : String) : Option Value :=
  Diff.lookup? (.str name) (Diff.entriesOf data)

/-- Settings from data; unknown keys are noted and left out. -/
def ofData (data : Value) : Noting Config := do
  let unknown := (← Noting.settle (keysOf data)).filter fun k => !isName k
  if !unknown.isEmpty then
    let shown := Value.display (.list (← Noting.settle (sortKeys unknown)))
    Noting.note (.warning s!"Ignoring unknown configuration keys: {shown}")
  match data.base with
  | .dict _ => pure ()
  | v => Noting.fail .attribute s!"'{v.typeName}' object has no attribute 'items'"
  let get := fun name (v : Value) => (setting? data name).getD v
  let port ← Noting.settle (Options.port (get "port" (.int defaultPort)))
  let timeout ← Noting.settle (Options.timeout (get "timeout" (.int defaultTimeout)))
  return {
    port, timeout
    cors := get "cors_origin" standard.cors
    pattern := get "pattern" standard.pattern
    logName := get "snapshot_file" standard.logName
    tolerance := get "tolerance" zeroTolerance
    verbose := get "verbose" (.bool false)
    quiet := get "quiet" (.bool false) }

def textOf (content : List UInt8) : Except Fault String :=
  match Text.decodeUtf8 content with
  | .ok s => .ok (String.ofList (Text.unifyLineEnds s.toList))
  | .error e => .error ⟨.textDecoding, e.message⟩

def ofContent (content : List UInt8) : Noting Config := do
  let s ← Noting.settle (textOf content)
  ofData (Codec.ofJson (← Noting.settle (Json.parse s)))

/-- The settings at a path. Where there is none they are the defaults, and so they are, with a
note, where the file is of no use. -/
def load (p : Path) : Acting Config := do
  if !(← Acting.files).hasEntry p then return standard
  match ← Acting.outcome (do
      Acting.ofNoting (ofContent (← Acting.ask p fun fs => fs.read p))) with
  | .ok c => return c
  | .error f => do
    Acting.note ⟨.warning, s!"Failed to load config from {p.text}: ", some f⟩
    return standard

def override (env : Environment) (c : Config) : Except Fault Config := do
  let c ← match env.get? portVariable with
    | some s => do .ok { c with port := ← Options.port (.str s) }
    | none => .ok c
  match env.get? corsVariable with
  | some s => .ok { c with cors := .str s }
  | none => .ok c

mutual

def plainData (v : Value) : Except Fault Json :=
  match v with
  | .null => .ok .null
  | .bool b => .ok (.bool b)
  | .int n => .ok (.int n)
  | .float x => .ok (.float x)
  | .str s => .ok (.str s)
  | .list xs => do .ok (.arr (← plainItems xs))
  | .tuple xs => do .ok (.arr (← plainItems xs))
  | .dict es => do .ok (.obj (← plainEntries es))
  | v => .error ⟨.type, s!"Object of type {v.typeName} is not JSON serializable"⟩

def plainItems : List Value → Except Fault (List Json)
  | [] => .ok []
  | x :: xs => do .ok ((← plainData x) :: (← plainItems xs))

def plainEntries : List (Value × Value) → Except Fault (List (String × Json))
  | [] => .ok []
  | (k, v) :: es => do .ok ((k.plainText, ← plainData v) :: (← plainEntries es))

end

def fileText (c : Config) : Except Fault String := do
  Json.print Json.indented (← plainData c.toValue)

def save (c : Config) (p : Path) : Acting Unit := do
  Acting.put p []
  let text ← Acting.settle c.fileText
  Acting.change p fun fs => fs.write p (Text.encodeUtf8 text)

def forProject (env : Environment) (project : Path) (given : Option Path) : Acting Config := do
  let c ← load (given.getD (project.child configName))
  Acting.settle (c.override env)

def create (p : Path) : Acting Unit := do
  standard.save p
  Acting.info s!"Created default configuration at {p.text}"

end Config

end CallSnapshot
