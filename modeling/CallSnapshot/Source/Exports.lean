import CallSnapshot.Fault
import CallSnapshot.Source.ModuleReader

/-!
The names that a module exports: those of a literal `__all__` where it has one, otherwise all names
bound at its top level that do not begin with an underscore.
-/

namespace CallSnapshot.Source

def allName : String := "__all__"

def isAllName : Expr → Bool
  | .name id => id == allName
  | _ => false

/-- The texts of a list or a tuple; whatever else is in it does not count. -/
def listedTexts (value : Expr) : List String :=
  let items := match value with
    | .list items => items
    | .tuple items => items
    | _ => []
  items.filterMap fun
    | .literal (.text s _) => some s
    | _ => none

/-- What a statement does to the list of exports. -/
inductive Listing where
  | set (names : List String)
  | extend (names : List String)
  deriving DecidableEq, Repr

def Statement.listing? : Statement → Option Listing
  | .assign targets value => if targets.any isAllName then some (.set (listedTexts value)) else none
  | .declare target _ _ (some value) =>
    if isAllName target then some (.set (listedTexts value)) else none
  | .augment target _ value =>
    if isAllName target then some (.extend (listedTexts value)) else none
  | _ => none

/-- The list after a statement; one that extends no list begins one. -/
def Listing.apply (listed : Option (List String)) : Listing → List String
  | .set names => names
  | .extend names => listed.getD [] ++ names

namespace Module

/-- The names of the literal `__all__`, in order and as often as they are listed. -/
def listed (m : Module) : Option (List String) :=
  (m.filterMap Statement.listing?).foldl (fun names l => some (l.apply names)) none

end Module

mutual

def Expr.targetNames : Expr → List String
  | .name id => [id]
  | .list items => targetNamesOf items
  | .tuple items => targetNamesOf items
  | .starred e => e.targetNames
  | _ => []

def targetNamesOf : List Expr → List String
  | [] => []
  | e :: es => e.targetNames ++ targetNamesOf es

end

def Alias.binds (a : Alias) : Option String :=
  if a.name == "*" then none else some (a.bound.getD ((a.name.splitOn ".").headD ""))

def Statement.binds : Statement → List String
  | .function _ _ name _ _ _ => [name]
  | .cls _ name _ _ _ => [name]
  | .assign targets _ => targetNamesOf targets
  | .declare target _ _ _ => target.targetNames
  | .augment target _ _ => target.targetNames
  | .load names => names.filterMap Alias.binds
  | .loadFrom _ names _ => names.filterMap Alias.binds
  | _ => []

def firsts (names : List String) : List String :=
  names.foldl (fun seen n => if seen.contains n then seen else seen ++ [n]) []

namespace Module

def topLevel (m : Module) : List String := firsts (m.flatMap Statement.binds)

def exported (m : Module) : List String :=
  match m.listed with
  | some names => firsts names
  | none => m.topLevel.filter fun name => !name.startsWith "_"

def exports (m : Module) (name : String) : Bool := m.exported.contains name

end Module

def nullText : String := "source code string cannot contain null bytes"

/-- The module of a source text. A text with a null character is no source at all. -/
def parse (source : String) : Except Fault Module :=
  if source.toList.contains '\x00' then .error ⟨.value, nullText⟩
  else
    match read? source with
    | some m => .ok m
    | none => .error ⟨.sourceText, "invalid source"⟩

end CallSnapshot.Source
