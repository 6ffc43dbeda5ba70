import CallSnapshot.Program.Thing
import CallSnapshot.Source.Instrument
import CallSnapshot.Value.Sum

/-!
Expressions at the top level of a module. Literals, names, attributes and simple operations have a
meaning here; of anything else it only matters that its names are there.
-/

namespace CallSnapshot

/-- Where an expression stands: in a module of a program. -/
structure Scope where
  program : Program
  number : Nat

namespace Scope

def undefined (name : String) : Fault := ⟨.other "NameError", s!"name '{name}' is not defined"⟩

def record (s : Scope) : ModuleRecord := (s.program.module? s.number).getD default

/-- What the module knows of itself. -/
def ownName? (s : Scope) (name : String) : Option Thing :=
  let m := s.record
  match name with
  | "__name__" => some (.value (.str m.name))
  | "__package__" => some (.value (.str m.package))
  | "__file__" => some (.value (m.file.elim .null fun p => .str p.text))
  | "__doc__" => some (.value .null)
  | "__spec__" => some .unknown
  | "__loader__" => some .unknown
  | "__builtins__" => some .unknown
  | _ => none

def builtin? (s : Scope) (name : String) : Option Thing :=
  match s.program.host.definition (builtin name) with
  | .foreign _ => if name == "__debug__" then some (.value (.bool true)) else none
  | t => some t

def lookup (s : Scope) (name : String) : Except Fault Thing :=
  let own := (s.program.lookup? s.number name).orElse fun _ => s.ownName? name
  match own.orElse fun _ => s.builtin? name with
  | some t => .ok t
  | none => .error (undefined name)

def missingAttribute (m : ModuleRecord) (name : String) : Fault :=
  if m.isStarting then
    ⟨.attribute, s!"partially initialized module '{m.name}' has no attribute '{name}' (most likely due " ++
      "to a circular import)"⟩
  else ⟨.attribute, s!"module '{m.name}' has no attribute '{name}'"⟩

def attributeOf (p : Program) (t : Thing) (name : String) : Except Fault Thing :=
  match t with
  | .module n =>
    match p.lookup? n name, (Scope.mk p n).ownName? name with
    | some t, _ => .ok t
    | none, some t => .ok t
    | none, none => .error (missingAttribute ((p.module? n).getD default) name)
  | .foreign q =>
    .ok (p.host.definition ⟨q.module, if q.path.isEmpty then name else q.path ++ "." ++ name⟩)
  | .value (.type q) =>
    match p.host.definition ⟨q.module, q.path ++ "." ++ name⟩ with
    | .foreign _ => .ok .unknown
    | t => .ok t
  | .enumeration e =>
    match e.members.find? (·.1 == name) with
    | some m => .ok (.value (e.member m))
    | none =>
      if name.startsWith "__" then .ok .unknown
      else .error ⟨.attribute, s!"type object '{e.name.lastName}' has no attribute '{name}'"⟩
  | .cls c =>
    if name.startsWith "__" then .ok .unknown
    else .error ⟨.attribute, s!"type object '{c.name.lastName}' has no attribute '{name}'"⟩
  | _ => .ok .unknown

def ofLiteral : Source.Literal → Value
  | .none => .null
  | .bool b => .bool b
  | .ellipsis => .described .ellipsis []
  | .int n => .int n
  | .float x => .float x
  | .imaginary x => .complex Binary64.zero x
  | .text s _ => .str s
  | .bytes bs => .bytes bs

def values? (ts : List Thing) : Option (List Value) :=
  ts.mapM fun
    | .value v => some v
    | _ => none

def gather (make : List Value → Value) (ts : List Thing) : Thing :=
  (values? ts).elim .unknown fun vs => .value (make vs)

def zeroDivision (text : String) : Fault := ⟨.other "ZeroDivisionError", text⟩

def isZero (v : Value) : Bool :=
  match v.quantity? with
  | some q => q.eq (.int 0)
  | none => false

def negated : Thing → Thing
  | .value (.int n) => .value (.int (-n))
  | .value (.float x) => .value (.float x.neg)
  | _ => .unknown

def unary (op : Source.UnaryOp) (t : Thing) : Thing :=
  match op with
  | .minus => negated t
  | .plus => t
  | _ => .unknown

def binary (op : Source.BinaryOp) (a b : Thing) : Except Fault Thing :=
  match a, b with
  | .value v, .value w =>
    match op with
    | .add => (v.add w).map .value
    | .divide => if isZero w then .error (zeroDivision "division by zero") else .ok .unknown
    | .floorDivide =>
      if isZero w then .error (zeroDivision "integer division or modulo by zero") else .ok .unknown
    | .remainder =>
      if v.quantity?.isSome && isZero w then .error (zeroDivision "integer modulo by zero") else .ok .unknown
    | _ => .ok .unknown
  | _, _ => .ok .unknown

def compare (op : Source.CompareOp) (a b : Thing) : Thing :=
  match a, b with
  | .value v, .value w =>
    match op with
    | .equal => .value (.bool (v.eq w))
    | .unequal => .value (.bool !(v.eq w))
    | _ => .unknown
  | _, _ => .unknown

/-- Whether something counts as true; of what is unknown that is not assumed. -/
def isTrue : Thing → Bool
  | .value v => v.isTrue
  | .unknown => false
  | .foreign q => q.path.isEmpty
  | _ => true

def isRecorder : Thing → Bool
  | .foreign q => q == ⟨Source.recorderModule, "record"⟩
  | _ => false

/-- The fault that a call of an exception's class makes. -/
def faultOf (title : String) (args : List Thing) : Fault :=
  let kind := FaultKind.ofTitle title
  match values? args with
  | some [] => ⟨kind, ""⟩
  | some [v] => ⟨kind, if kind == .key then v.display else v.plainText⟩
  | some vs => ⟨kind, Value.display (.tuple vs)⟩
  | none => ⟨kind, ""⟩

def isExceptionName (q : Qualified) : Bool :=
  q.module == "builtins" && Standard.exceptions.contains q.path

def instanceOf (p : Program) (c : Class) (args : List Thing) : Except Fault Thing :=
  if args.isEmpty then .ok (.value (.object c []))
  else if p.host.modules.contains c.name.module then .ok .unknown
  else .error ⟨.type, s!"{c.name.lastName}() takes no arguments"⟩

def apply (p : Program) (f : Thing) (args : List Thing) : Except Fault Thing :=
  match f with
  | .value (.type q) => .ok (if isExceptionName q then .fault (faultOf q.path args) else .unknown)
  | .cls c => instanceOf p c args
  | .value v =>
    if f.isCallable then .ok .unknown
    else .error ⟨.type, s!"'{v.typeName}' object is not callable"⟩
  | .module _ => .error ⟨.type, "'module' object is not callable"⟩
  | f =>
    match isRecorder f, args with
    | true, [t, .value (.str name)] => .ok (.recorded name t)
    | _, _ => .ok .unknown

def define (s : Scope) (path : String) (isAsync : Bool) (params : Source.Params)
    (body : List Source.Statement) : Thing :=
  let m := s.record
  .function ⟨s.number, m.name, m.file.getD default, path, isAsync, params, body⟩

def gatherEntries (entries : Option (List (Thing × Thing))) : Thing :=
  match entries with
  | none => .unknown
  | some es =>
    match values? (es.map Prod.fst), values? (es.map Prod.snd) with
    | some ks, some vs => .value (.dict ((ks.zip vs).foldl (fun d (k, v) => Codec.putEntry k v d) []))
    | _, _ => .unknown

mutual

def eval (s : Scope) (e : Source.Expr) : Except Fault Thing :=
  match e with
  | .literal l => .ok (.value (ofLiteral l))
  | .name id => s.lookup id
  | .attribute e name => do attributeOf s.program (← eval s e) name
  | .call f args keywords => do
    let f ← eval s f
    let args ← evalAll s args
    evalKeywords s keywords
    apply s.program f args
  | .list items => do .ok (gather .list (← evalAll s items))
  | .tuple items => do .ok (gather .tuple (← evalAll s items))
  | .set items => do
    let ts ← evalAll s items
    .ok (gather (fun vs => .set (vs.foldl (fun found x => Codec.addElement x found) [])) ts)
  | .dict entries => do .ok (gatherEntries (← evalEntries s entries))
  | .unary op e => do .ok (unary op (← eval s e))
  | .binary op a b => do binary op (← eval s a) (← eval s b)
  | .boolean op es => evalBoolean s op es
  | .compare a rest => do evalComparisons s (← eval s a) rest
  | .conditional test yes no => do if isTrue (← eval s test) then eval s yes else eval s no
  | .lambda params body => .ok (s.define "<lambda>" false params [.give (some body)])
  | .subscript e index => do
    let _ ← eval s e
    let _ ← eval s index
    .ok .unknown
  | _ => .ok .unknown

def evalAll (s : Scope) : List Source.Expr → Except Fault (List Thing)
  | [] => .ok []
  | e :: es => do .ok ((← eval s e) :: (← evalAll s es))

def evalKeywords (s : Scope) : List Source.Keyword → Except Fault Unit
  | [] => .ok ()
  | .mk _ e :: rest => do
    let _ ← eval s e
    evalKeywords s rest

/-- Keys and values; none where something else is unpacked. -/
def evalEntries (s : Scope) : List Source.Entry → Except Fault (Option (List (Thing × Thing)))
  | [] => .ok (some [])
  | .mk key value :: rest => do
    let k ← match key with
      | some k => do .ok (some (← eval s k))
      | none => .ok none
    let v ← eval s value
    let rest ← evalEntries s rest
    .ok (do some ((← k, v) :: (← rest)))

def evalBoolean (s : Scope) (op : Source.BooleanOp) : List Source.Expr → Except Fault Thing
  | [] => .ok .unknown
  | [e] => eval s e
  | e :: es => do
    let t ← eval s e
    if isTrue t == (op == .or) then .ok t else evalBoolean s op es

def evalComparisons (s : Scope) (first : Thing) : List Source.Comparison → Except Fault Thing
  | [] => .ok .unknown
  | [.mk op e] => do .ok (compare op first (← eval s e))
  | .mk _ e :: rest => do evalComparisons s (← eval s e) rest

end

end Scope

end CallSnapshot
