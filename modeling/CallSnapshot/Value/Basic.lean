import CallSnapshot.Files.Path
import CallSnapshot.Json.Basic
import CallSnapshot.Number.Decimal
import CallSnapshot.Time.Calendar
import CallSnapshot.Time.Duration
import CallSnapshot.Uuid

/-!
Values that calls take and give. Data are trees; a container that lies within itself is reached
through a `link` into a heap. Instances, members of enumerations, classes and functions are known
by qualified names.
-/

namespace CallSnapshot

/-- A definition, by its module and its dotted path there. -/
structure Qualified where
  module : String
  path : String
  deriving DecidableEq, Repr, Inhabited

def Qualified.text (q : Qualified) : String := q.module ++ ":" ++ q.path

/-- The name with a dot in place of the colon, without the module of the built-in definitions. -/
def Qualified.dotted (q : Qualified) : String :=
  if q.module == "builtins" then q.path else q.module ++ "." ++ q.path

def Qualified.lastName (q : Qualified) : String := (q.path.splitOn ".").getLastD ""

def builtin (path : String) : Qualified := ⟨"builtins", path⟩

inductive Constant where
  | none
  | bool (b : Bool)
  | int (n : Int)
  | str (s : String)
  deriving DecidableEq, Repr, Inhabited

/-- How the instances of a class keep their attributes. -/
inductive Layout where
  /-- Declared fields; the constants stand in for those that are not set. -/
  | record (fields : List String) (constants : List (String × Constant))
  /-- Any attributes. -/
  | openEnded
  /-- Only the attributes named by a class and its bases, the class itself first. -/
  | slots (classes : List (List String))
  /-- Named attributes, and any others beside them. -/
  | mixed (classes : List (List String))
  /-- Reading the attributes fails. -/
  | barred (fault : String)
  deriving DecidableEq, Repr, Inhabited

/-- When two instances of a class are equal. -/
inductive Identity where
  | each
  | fields (hashable : Bool)
  | ratio
  deriving DecidableEq, Repr, Inhabited

structure Class where
  name : Qualified
  layout : Layout
  identity : Identity
  deriving DecidableEq, Repr, Inhabited

/-- What the members of an enumeration are besides. -/
inductive Mixin where
  | plain
  | int
  | str
  | flag
  deriving DecidableEq, Repr, Inhabited

/-- Kinds of values that extend a basic one. -/
inductive Extension where
  | subclass (name : Qualified)
  | mutableBytes
  | orderedDict
  | counter
  | namedTuple (name : Qualified) (fields : List String)
  deriving DecidableEq, Repr, Inhabited

def Extension.name : Extension → Qualified
  | .subclass q => q
  | .mutableBytes => builtin "bytearray"
  | .orderedDict => ⟨"collections", "OrderedDict"⟩
  | .counter => ⟨"collections", "Counter"⟩
  | .namedTuple q _ => q

inductive Plainness where
  | range
  | slice
  | ellipsis
  | deque
  | keysView
  | awaitable
  deriving DecidableEq, Repr, Inhabited

def Plainness.name : Plainness → Qualified
  | .range => builtin "range"
  | .slice => builtin "slice"
  | .ellipsis => builtin "ellipsis"
  | .deque => ⟨"collections", "deque"⟩
  | .keysView => builtin "dict_keys"
  | .awaitable => builtin "coroutine"

inductive Value where
  | null
  | bool (b : Bool)
  | int (n : Int)
  | float (x : Binary64)
  | str (s : String)
  | bytes (bs : List UInt8)
  | date (d : Date)
  | time (t : ClockTime)
  | datetime (m : DateTime)
  | duration (d : Duration)
  | decimal (d : Decimal)
  | complex (re im : Binary64)
  | uuid (u : Uuid)
  | path (p : Path)
  | list (items : List Value)
  | tuple (items : List Value)
  | set (items : List Value)
  | frozenset (items : List Value)
  | dict (entries : List (Value × Value))
  | extended (kind : Extension) (base : Value)
  | member (cls : Qualified) (mixin : Mixin) (name : Option String) (value : Value)
  | object (cls : Class) (attrs : List (String × Value))
  | type (name : Qualified)
  | function (name : Qualified)
  | method (name : Qualified) (receiver : Value)
  | array (element : String) (shape : List Nat) (items : List Value)
  | scalar (element : String) (value : Value)
  | iterator (cls : Qualified)
  | described (kind : Plainness) (parts : List Value)
  | link (address : Nat)
  deriving Repr, Inhabited

abbrev Heap := List Value

namespace Value

def ofConstant : Constant → Value
  | .none => .null
  | .bool b => .bool b
  | .int n => .int n
  | .str s => .str s

def base : Value → Value
  | .extended _ v => v.base
  | v => v

def className : Value → Qualified
  | .null => builtin "NoneType"
  | .bool _ => builtin "bool"
  | .int _ => builtin "int"
  | .float _ => builtin "float"
  | .str _ => builtin "str"
  | .bytes _ => builtin "bytes"
  | .date _ => ⟨"datetime", "date"⟩
  | .time _ => ⟨"datetime", "time"⟩
  | .datetime _ => ⟨"datetime", "datetime"⟩
  | .duration _ => ⟨"datetime", "timedelta"⟩
  | .decimal _ => ⟨"decimal", "Decimal"⟩
  | .complex _ _ => builtin "complex"
  | .uuid _ => ⟨"uuid", "UUID"⟩
  | .path _ => ⟨"pathlib", "PosixPath"⟩
  | .list _ => builtin "list"
  | .tuple _ => builtin "tuple"
  | .set _ => builtin "set"
  | .frozenset _ => builtin "frozenset"
  | .dict _ => builtin "dict"
  | .extended kind _ => kind.name
  | .member cls .. => cls
  | .object cls _ => cls.name
  | .type _ => builtin "type"
  | .function q => if q.module == "builtins" then builtin "builtin_function_or_method" else builtin "function"
  | .method _ _ => builtin "method"
  | .array .. => ⟨"numpy", "ndarray"⟩
  | .scalar element _ => ⟨"numpy", element⟩
  | .iterator cls => cls
  | .described kind _ => kind.name
  | .link _ => builtin "list"

def typeName (v : Value) : String :=
  match v with
  | .array .. => "numpy.ndarray"
  | .scalar element _ => "numpy." ++ element
  | .path _ => "PosixPath"
  | .date _ => "datetime.date"
  | .time _ => "datetime.time"
  | .datetime _ => "datetime.datetime"
  | .duration _ => "datetime.timedelta"
  | .decimal _ => "decimal.Decimal"
  | .described .deque _ => "collections.deque"
  | .extended .orderedDict _ => "collections.OrderedDict"
  | v => ((v.className.path.splitOn ".").getLast?).getD ""

mutual

/-- Whether a value reaches into a heap. -/
def hasLink : Value → Bool
  | .link _ => true
  | .list xs => hasLinkIn xs
  | .tuple xs => hasLinkIn xs
  | .set xs => hasLinkIn xs
  | .frozenset xs => hasLinkIn xs
  | .dict es => hasLinkEntry es
  | .extended _ v => hasLink v
  | .object _ as => hasLinkAttr as
  | .described _ xs => hasLinkIn xs
  | _ => false

def hasLinkIn : List Value → Bool
  | [] => false
  | x :: xs => hasLink x || hasLinkIn xs

def hasLinkEntry : List (Value × Value) → Bool
  | [] => false
  | (k, v) :: es => hasLink k || hasLink v || hasLinkEntry es

def hasLinkAttr : List (String × Value) → Bool
  | [] => false
  | (_, v) :: es => hasLink v || hasLinkAttr es

end

def follow (heap : Heap) : Value → Value
  | .link a => heap.getD a .null
  | v => v

end Value

end CallSnapshot
