import CallSnapshot.Log.Event
import CallSnapshot.Scene
import CallSnapshot.Text.Utf8

/-!
The log of a session: a file with one recorded call on each line, to which lines are only added.
Lines that hold no call are left out when it is read.
-/

namespace CallSnapshot

structure Log where
  path : Path
  deriving DecidableEq, Repr, Inhabited

namespace Log

-- Sums start at the zero of the core library, whatever is imported beside this module.
attribute [local instance (high)] Zero.ofOfNat0

def chunkSize : Nat := 8192

/-- The text that could be read, and what stopped the reading. -/
structure Reading where
  text : List Char
  fault : Option Text.DecodeError
  deriving Repr

/-- Decodes bytes but for an unfinished character at their end, which is left over. -/
def decodePart (bs : List UInt8) : Except Text.DecodeError (List Char × List UInt8) :=
  match Text.decodeUtf8 bs with
  | .ok s => .ok (s.toList, [])
  | .error e =>
    if e.fault == .unexpectedEnd then
      match Text.decodeUtf8 (bs.take e.start) with
      | .ok s => .ok (s.toList, bs.drop e.start)
      | .error e => .error e
    else .error e

/-- Reads a file chunk by chunk; places of faults count from the chunk, with what was left over
before it. -/
def readChunks : (fuel : Nat) → (pending rest : List UInt8) → Reading
  | 0, _, _ => ⟨[], none⟩
  | fuel + 1, pending, rest =>
    if rest.isEmpty then
      match Text.decodeUtf8 pending with
      | .ok s => ⟨s.toList, none⟩
      | .error e => ⟨[], some e⟩
    else
      match decodePart (pending ++ rest.take chunkSize) with
      | .error e => ⟨[], some e⟩
      | .ok (cs, pending) =>
        let r := readChunks fuel pending (rest.drop chunkSize)
        ⟨cs ++ r.text, r.fault⟩

def endsLine (l : List Char) : Bool := l.getLast? == some '\n'

/-- A carriage return at the very end may be half of a line end. -/
def dropHalfEnd (cs : List Char) : List Char :=
  if cs.getLast? == some '\r' then cs.dropLast else cs

/-- The lines of a content up to a fault, if there is one; a line that is cut off by it is left out. -/
def linesOf (content : List UInt8) : List (List Char) × Option Text.DecodeError :=
  let r := readChunks (content.length + 2) [] content
  match r.fault with
  | none => (Text.splitLines (Text.unifyLineEnds r.text), none)
  | some e =>
    ((Text.splitLines (Text.unifyLineEnds (dropHalfEnd r.text))).filter endsLine, some e)

/-- The record on a line: none where it is blank or holds no call. A line that cannot be parsed is
noted. -/
def readLine (number : Nat) (line : List Char) : Noting (Option Record) :=
  let s := Text.trimChars line
  if s.isEmpty then pure none
  else
    match Json.parse (String.ofList s) with
    | .error f => do
      Noting.note ⟨.warning, s!"Failed to parse snapshot line {number}: ", some f⟩
      pure none
    | .ok data => pure (Record.ofData? data)

def readLines : (number : Nat) → List (List Char) → Noting (List Record)
  | _, [] => pure []
  | number, l :: ls => do
    let r ← readLine number l
    let rs ← readLines (number + 1) ls
    pure (r.elim rs (· :: rs))

def recordsOf (content : List UInt8) : Noting (List Record) := do
  let (lines, fault) := linesOf content
  let records ← readLines 1 lines
  match fault with
  | none => pure records
  | some e => Noting.fail .textDecoding e.message

/-- The records of the log; where some are required, it is a fault to have none. -/
def records (log : Log) (required : Bool) : Acting (List Record) := do
  if !(← Acting.files).hasEntry log.path then
    if required then
      throw ⟨.noSnapshots, s!"No snapshots found at {log.path.text}. Run 'io-snapshot record' first."⟩
    return []
  let content ← Acting.ask log.path fun fs => fs.read log.path
  let records ← Acting.ofNoting (recordsOf content)
  if required && records.isEmpty then
    throw ⟨.noSnapshots, s!"Snapshot log {log.path.text} holds no capture events."⟩
  return records

/-- The calls of records; those that cannot be decoded are noted and left out. -/
def decodeRecords (mode : Codec.Mode) : List Record → Noting (List Event)
  | [] => pure []
  | r :: rs => do
    let outcome ← try
        let e ← Event.ofRecord mode r
        pure (some e)
      catch f =>
        let name := (Codec.ofJson r.name).plainText
        Noting.note ⟨.warning, s!"Failed to decode snapshot of {name}: ", some f⟩
        pure none
    let es ← decodeRecords mode rs
    pure (outcome.elim es (· :: es))

def read (log : Log) : Acting (List Event) := do
  Acting.ofNoting (decodeRecords none (← log.records false))

def clear (log : Log) : Acting Unit := Acting.put log.path []

/-- Adds a text as a line; blanks around it do not count, and a blank one adds nothing. -/
def appendLine (log : Log) (line : String) : Acting Unit := do
  let s := Text.trim line
  if s.isEmpty then return
  Acting.change log.path fun fs => fs.append log.path (Text.encodeUtf8 (s ++ "\n"))

def append (log : Log) (heap : Heap) (e : Event) : Acting Unit := do
  log.appendLine (← Acting.settle (e.line heap))

def remove (log : Log) : Acting Bool := do
  if (← Acting.files).hasEntry log.path then
    Acting.change log.path fun fs => fs.remove log.path
    return true
  return false

structure Group where
  name : Json
  events : List Event
  deriving Repr, Inhabited

/-- Whether two names are one key. What is not a number equals nothing, but is one object wherever it is read. -/
def sameName (a b : Json) : Bool :=
  match a, b with
  | .float .nan, .float .nan => true
  | _, _ => (Codec.ofJson a).eq (Codec.ofJson b)

def addToGroups (e : Event) : List Group → List Group
  | [] => [⟨e.name, [e]⟩]
  | g :: gs =>
    if sameName g.name e.name then { g with events := g.events ++ [e] } :: gs
    else g :: addToGroups e gs

/-- A name has to be hashable for calls to be grouped by it. -/
def groupable (name : Json) : Except Fault Unit :=
  match (Codec.ofJson name).hashFault? with
  | some f => .error f
  | none => .ok ()

def group (events : List Event) : Except Fault (List Group) := do
  events.forM fun e => groupable e.name
  .ok (events.foldl (fun gs e => addToGroups e gs) [])

structure Stats where
  total : Nat
  functions : List (Json × Nat)
  size : Nat
  deriving Repr

def stats (log : Log) : Acting Stats := do
  let groups ← Acting.settle (group (← log.read))
  let size := match (← Acting.files).read log.path with
    | .ok bs => bs.length
    | .error _ => 0
  let functions := groups.map fun g => (g.name, g.events.length)
  return ⟨(functions.map Prod.snd).sum, functions, size⟩

end Log

end CallSnapshot
