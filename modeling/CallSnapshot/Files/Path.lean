import CallSnapshot.Text.Replace

/-!
Paths of files as sequences of names. Two leading slashes are a root of their own, more than two
mean one; empty names and single dots are dropped, double dots are kept.
-/

namespace CallSnapshot

inductive PathRoot where
  | relative
  | single
  | double
  deriving DecidableEq, Repr, Inhabited

structure Path where
  root : PathRoot
  names : List String
  deriving DecidableEq, Repr, Inhabited

namespace Path

def rootText : PathRoot → String
  | .relative => ""
  | .single => "/"
  | .double => "//"

def rootOf (cs : List Char) : PathRoot :=
  match (cs.takeWhile (· == '/')).length with
  | 0 => .relative
  | 2 => .double
  | _ => .single

def namesOf (cs : List Char) : List String :=
  ((Text.splitAt '/' cs).map String.ofList).filter fun n => n != "" && n != "."

def parse (s : String) : Path := ⟨rootOf s.toList, namesOf s.toList⟩

def text (p : Path) : String :=
  let body := rootText p.root ++ "/".intercalate p.names
  if body.isEmpty then "." else body

def isAbsolute (p : Path) : Bool := p.root != .relative

/-- A path taken from a directory; an absolute one stays as it is. -/
def join (p q : Path) : Path := if q.isAbsolute then q else ⟨p.root, p.names ++ q.names⟩

def child (p : Path) (name : String) : Path := ⟨p.root, p.names ++ [name]⟩

def parent (p : Path) : Path := ⟨p.root, p.names.dropLast⟩

def name (p : Path) : String := p.names.getLast?.getD ""

def below? (dir : List String) (names : List String) : Option (List String) :=
  match dir, names with
  | [], names => some names
  | d :: ds, n :: ns => if d == n then below? ds ns else none
  | _ :: _, [] => none

def relativeTo? (p dir : Path) : Option (List String) :=
  if p.root == dir.root then below? dir.names p.names else none

end Path

end CallSnapshot
