import CallSnapshot.Codec.Decode

/-!
A catalogue of definitions: classes, enumerations, functions and constants under their qualified
names. It serves as a library for rebuilding values.
-/

namespace CallSnapshot

structure Enumeration where
  name : Qualified
  mixin : Mixin
  members : List (String × Value)
  deriving Repr, Inhabited

namespace Enumeration

-- Sums start at the zero of the core library, whatever is imported beside this module.
attribute [local instance (high)] Zero.ofOfNat0

def member (e : Enumeration) (m : String × Value) : Value := .member e.name e.mixin (some m.1) m.2

def allMembers (e : Enumeration) : List (String × Value) := e.members.map fun m => (m.1, e.member m)

def bitsOf : Value → Int
  | .int n => n
  | _ => 0

def union (e : Enumeration) (ms : List (String × Value)) : Value :=
  .member e.name e.mixin (if ms.isEmpty then none else some ("|".intercalate (ms.map Prod.fst)))
    (.int ((ms.map fun m => bitsOf m.2).sum))

/-- The member of a name; names with bars between them stand for the union of their flags. -/
def named (e : Enumeration) (name : String) : Value :=
  match e.members.find? (·.1 == name) with
  | some m => e.member m
  | none => e.union (e.members.filter fun m => (name.splitOn "|").contains m.1)

end Enumeration

structure Catalogue where
  classes : List Class := []
  enumerations : List Enumeration := []
  functions : List Qualified := []
  /-- Functions that show no module of their own. -/
  nameless : List Qualified := []
  constants : List (Qualified × Value) := []
  /-- Blank instances that are no plain objects. -/
  blanks : List (Qualified × Value) := []
  /-- Classes that make no blank instances. -/
  barred : List (Qualified × Fault) := []
  deriving Repr, Inhabited

namespace Catalogue

def append (c d : Catalogue) : Catalogue where
  classes := c.classes ++ d.classes
  enumerations := c.enumerations ++ d.enumerations
  functions := c.functions ++ d.functions
  nameless := c.nameless ++ d.nameless
  constants := c.constants ++ d.constants
  blanks := c.blanks ++ d.blanks
  barred := c.barred ++ d.barred

instance : Append Catalogue := ⟨append⟩

def classOf (c : Catalogue) (q : Qualified) : Class :=
  (c.classes.find? (·.name == q)).getD ⟨q, .openEnded, .each⟩

def enumeration? (c : Catalogue) (q : Qualified) : Option Enumeration :=
  c.enumerations.find? (·.name == q)

def member (c : Catalogue) (q : Qualified) (name : String) : Value :=
  ((c.enumeration? q).getD ⟨q, .flag, []⟩).named name

def definitions (c : Catalogue) : List (Qualified × Value) :=
  c.constants ++ (c.classes.map fun k => (k.name, .type k.name)) ++
    (c.enumerations.flatMap fun e => (e.name, .type e.name) ::
      e.allMembers.map fun (n, v) => (⟨e.name.module, e.name.path ++ "." ++ n⟩, v)) ++
    ((c.functions ++ c.nameless).map fun q => (q, .function q))

def hasModule (c : Catalogue) (module : String) : Bool := c.definitions.any (·.1.module == module)

def relativeFault (module : String) : Fault :=
  ⟨.type, s!"the 'package' argument is required to perform a relative import for '{module}'"⟩

def missingModule (module : String) : Fault :=
  ⟨.missingModule, "No module named '" ++ (module.splitOn ".").headD "" ++ "'"⟩

def resolve (c : Catalogue) (module path : String) : Except Fault Value :=
  if module.startsWith "." then .error (relativeFault module)
  else if !c.hasModule module then .error (missingModule module)
  else
    match c.definitions.find? (·.1 == ⟨module, path⟩) with
    | some (_, v) => .ok v
    | none => .error ⟨.attribute, s!"module '{module}' has no attribute '{path}'"⟩

/-- An enumeration has no blank members. -/
def blankMember : Fault := ⟨.type, "EnumType.__call__() missing 1 required positional argument: 'value'"⟩

def create (c : Catalogue) (q : Qualified) : Except Fault Value :=
  match c.barred.find? (·.1 == q), c.blanks.find? (·.1 == q) with
  | some (_, f), _ => .error f
  | none, some (_, v) => .ok v
  | none, none =>
    if (c.enumeration? q).isSome then .error blankMember
    else .ok (.object (c.classOf q) [])

def library (c : Catalogue) : Codec.Library where
  resolve := c.resolve
  create := c.create
  members? q := (c.enumeration? q).map Enumeration.allMembers

end Catalogue

end CallSnapshot
