import CallSnapshot.Files.Tree
import CallSnapshot.Note

/-!
What work on a project changes: the files, and the notes left so far. What was done before a
failure stays done.
-/

namespace CallSnapshot

structure Scene where
  files : Files
  notes : List Note
  /-- Notes below this level are not kept. -/
  level : Level
  deriving Repr, Inhabited

def Scene.add (s : Scene) (n : Note) : Scene :=
  if s.level.rank ≤ n.level.rank then { s with notes := s.notes ++ [n] } else s

abbrev Acting := ExceptT Fault (StateM Scene)

namespace Acting

def note (n : Note) : Acting Unit := modify fun s => s.add n

def info (text : String) : Acting Unit := note (.info text)

def files : Acting Files := do return (← get).files

def change (p : Path) (op : Files → Except FileError Files) : Acting Unit := do
  match op (← files) with
  | .ok fs => modify fun s => { s with files := fs }
  | .error e => throw (e.fault p.text)

def ask {α : Type} (p : Path) (op : Files → Except FileError α) : Acting α := do
  match op (← files) with
  | .ok x => return x
  | .error e => throw (e.fault p.text)

def put (p : Path) (content : List UInt8) : Acting Unit := do
  change p.parent fun fs => fs.makeDirectories p.parent
  change p fun fs => fs.write p content

def settle {α : Type} (r : Except Fault α) : Acting α :=
  match r with
  | .ok x => pure x
  | .error f => throw f

/-- A computation that leaves notes, among the others. -/
def ofNoting {α : Type} (c : Noting α) : Acting α := do
  let (r, notes) := c.start
  notes.forM note
  settle r

/-- The outcome of something that may fail, without failing. -/
def outcome {α : Type} (c : Acting α) : Acting (Except Fault α) := fun s =>
  let (r, s) := c.run s
  (.ok r, s)

end Acting

end CallSnapshot
