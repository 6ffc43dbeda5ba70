import CallSnapshot.Source.Formatted
import CallSnapshot.Text.Compatibility

/-!
Reading expressions. Each form is read by a plain function of the reader for the expressions
within it; the recursion is tied once, by the depth of nesting.
-/

namespace CallSnapshot.Source

/-- Reads from the front of some tokens, or refuses them. -/
abbrev Reader := StateT (List Token) Option

namespace Reader

def refuse : Reader α := fun _ => none

def peek : Reader (Option Token) := fun ts => some (ts.head?, ts)

def atMark (m : String) : Reader Bool := do
  match ← peek with
  | some (.mark n) => return m == n
  | _ => return false

def atWord (w : String) : Reader Bool := do
  match ← peek with
  | some (.keyword v) => return w == v
  | _ => return false

def drop : Reader Unit := fun ts => some ((), ts.tail)

def takeMark (m : String) : Reader Bool := do
  if ← atMark m then
    drop
    return true
  else return false

def takeWord (w : String) : Reader Bool := do
  if ← atWord w then
    drop
    return true
  else return false

def mark (m : String) : Reader Unit := do
  if !(← takeMark m) then refuse

def word (w : String) : Reader Unit := do
  if !(← takeWord w) then refuse

def newline : Reader Unit
  | .newline :: ts => some ((), ts)
  | _ => none

def atNewline : Reader Bool := fun ts =>
  match ts with
  | .newline :: _ => some (true, ts)
  | _ => some (false, ts)

def indent : Reader Unit
  | .indent :: ts => some ((), ts)
  | _ => none

def dedent : Reader Unit
  | .dedent :: ts => some ((), ts)
  | _ => none

def identifier : Reader String
  | .name id :: ts => some (Text.compatible id, ts)
  | _ => none

/-- Whether a name and then this mark are next. -/
def atNameBefore (m : String) : Reader Bool := fun ts =>
  match ts with
  | .name _ :: .mark n :: _ => some (m == n, ts)
  | _ => some (false, ts)

/-- Reads if that succeeds. -/
def attempt (r : Reader α) : Reader (Option α) := fun ts =>
  match r ts with
  | some (a, rest) => some (some a, rest)
  | none => some (none, ts)

def repeatUpTo : (fuel : Nat) → Reader (Option α) → Reader (List α)
  | 0, _ => refuse
  | fuel + 1, step => do
    match ← step with
    | none => return []
    | some a => return a :: (← repeatUpTo fuel step)

/-- Repeats a step, which takes tokens, until it gives nothing. -/
def many (step : Reader (Option α)) : Reader (List α) := fun ts =>
  repeatUpTo (ts.length + 1) step ts

def commaItemsUpTo (item : Reader α) (more : Reader Bool) : (fuel : Nat) → Reader (List α × Bool)
  | 0 => refuse
  | fuel + 1 => do
    let a ← item
    if !(← takeMark ",") then return ([a], false)
    if !(← more) then return ([a], true)
    let (rest, comma) ← commaItemsUpTo item more fuel
    return (a :: rest, comma)

/-- Items between commas, and whether a comma follows the last; `more` tells whether the next token
begins another one. -/
def commaItems (item : Reader α) (more : Reader Bool) : Reader (List α × Bool) := fun ts =>
  commaItemsUpTo item more (ts.length + 1) ts

def before (closing : List String) : Reader Bool := do
  match ← peek with
  | some (.mark m) => return !closing.contains m
  | _ => return true

end Reader

open Reader

def Token.beginsExpression : Token → Bool
  | .name _ => true
  | .number _ => true
  | .text _ => true
  | .keyword w => ["None", "True", "False", "lambda", "not", "await"].contains w
  | .mark m => ["(", "[", "\x7b", "-", "+", "~", "..."].contains m
  | _ => false

def atExpression : Reader Bool := do
  return ((← peek).map Token.beginsExpression).getD false

def atItem : Reader Bool := do
  return (← atExpression) || (← atMark "*")

/-- The readers for what lies within an expression. -/
structure Nested where
  expression : Reader Expr
  factor : Reader Expr
  /-- Reads an expression in braces within a formatted text. -/
  embedded : List Char → Option Expr

/-- Texts side by side: all bytes or none, formatted where one is. -/
def joinTexts (r : Nested) (ts : List QuotedText) : Option Expr := do
  if ts.all (·.bytes) then
    return .literal (.bytes (← ts.mapM fun t => Escape.bytes t.raw t.body).flatten)
  else if ts.any (·.bytes) then none
  else
    let pieces ← ts.mapM fun t =>
      if t.formatted then Formatted.read r.embedded t.raw t.body
      else do some [.text (String.ofList (← Escape.text t.raw t.body))]
    let pieces := Formatted.join pieces.flatten
    if ts.any (·.formatted) then return .formatted pieces
    else
      let s := match pieces with
        | [.text s] => s
        | _ => ""
      return .literal (.text s ((ts.head?.map QuotedText.marked).getD false))

def texts (r : Nested) : Reader Expr := do
  let ts ← many do
    match ← peek with
    | some (.text t) =>
      drop
      return some t
    | _ => return none
  fun rest => (joinTexts r ts).map (·, rest)

/-- Operands with operators between them, grouped from the left. -/
def leftChain (ops : List (String × BinaryOp)) (operand : Reader Expr) : Reader Expr := do
  let first ← operand
  let rest ← many do
    match ← peek with
    | some (.mark m) =>
      match ops.lookup m with
      | some op =>
        drop
        return some (op, ← operand)
      | none => return none
    | _ => return none
  return rest.foldl (fun e (op, operand) => .binary op e operand) first

def namedExpression (r : Nested) : Reader Expr := do
  if ← atNameBefore ":=" then
    let id ← identifier
    mark ":="
    return .named (.name id) (← r.expression)
  else r.expression

def unaryOp? : Token → Option UnaryOp
  | .mark "-" => some .minus
  | .mark "+" => some .plus
  | .mark "~" => some .invert
  | _ => none

def sliceItem (r : Nested) : Reader Expr := do
  let bound : Reader (Option Expr) := do
    if ← atExpression then return some (← r.expression) else return none
  if ← atNameBefore ":=" then namedExpression r
  else
    let lower ← bound
    if ← takeMark ":" then
      let upper ← bound
      let step ← if ← takeMark ":" then bound else pure none
      return .slice lower upper step
    else
      match lower with
      | some e => return e
      | none => refuse

def isStarred : Expr → Bool
  | .starred _ => true
  | _ => false

def tupleOr (items : List Expr) (comma : Bool) : Expr :=
  match items with
  | [e] => if comma then .tuple items else e
  | _ => .tuple items

def subscripts (r : Nested) : Reader Expr := do
  let item : Reader Expr := do
    if ← takeMark "*" then return .starred (← r.expression) else sliceItem r
  let (items, comma) ← commaItems item (before ["]"])
  mark "]"
  return if items.any isStarred then .tuple items else tupleOr items comma

/-- Where an argument list stands: positions, then names, then mappings. -/
inductive ArgumentPhase where
  | positions
  | names
  | mappings
  deriving DecidableEq, Repr

inductive Argument where
  | position (e : Expr)
  | keyword (k : Keyword)

def argument (r : Nested) (phase : ArgumentPhase) : Reader (Argument × ArgumentPhase) := do
  if ← takeMark "*" then
    if phase == .mappings then refuse
    else return (.position (.starred (← r.expression)), phase)
  else if ← takeMark "**" then return (.keyword (.mk none (← r.expression)), .mappings)
  else if ← atNameBefore "=" then
    let id ← identifier
    mark "="
    let next := if phase == .mappings then phase else .names
    return (.keyword (.mk (some id) (← r.expression)), next)
  else if phase == .positions then return (.position (← namedExpression r), phase)
  else refuse

def argumentsUpTo (r : Nested) : (fuel : Nat) → ArgumentPhase → Reader (List Argument)
  | 0, _ => refuse
  | fuel + 1, phase => do
    if ← takeMark ")" then return []
    let (a, phase) ← argument r phase
    if ← takeMark "," then return a :: (← argumentsUpTo r fuel phase)
    else
      mark ")"
      return [a]

def positionsOf (arguments : List Argument) : List Expr :=
  arguments.filterMap fun
    | .position e => some e
    | .keyword _ => none

def keywordsOf (arguments : List Argument) : List Keyword :=
  arguments.filterMap fun
    | .keyword k => some k
    | .position _ => none

def sortArguments (found : List Argument) : List Expr × List Keyword :=
  (positionsOf found, keywordsOf found)

def arguments (r : Nested) : Reader (List Expr × List Keyword) := do
  return sortArguments (← argumentsUpTo r ((← get).length + 1) .positions)

mutual

/-- Whether an expression may stand where values are bound. -/
def isTarget : Expr → Bool
  | .name _ => true
  | .attribute .. => true
  | .subscript .. => true
  | .starred e => isTarget e
  | .list items => areTargets items
  | .tuple items => areTargets items
  | _ => false

def areTargets : List Expr → Bool
  | [] => true
  | e :: es => isTarget e && areTargets es

end

/-- Targets that bind one value. -/
def isSingleTarget : Expr → Bool
  | .name _ => true
  | .attribute .. => true
  | .subscript .. => true
  | _ => false

def require (ok : Bool) : Reader Unit := if ok then pure () else refuse

/-- A target, a starred one too, by the reader for what names it. -/
def starTarget (primary : Reader Expr) : Reader Expr := do
  let e ← if ← takeMark "*" then Expr.starred <$> primary else primary
  require (isTarget e)
  return e

def loopTargets (primary : Reader Expr) : Reader Expr := do
  let more : Reader Bool := return !(← atWord "in")
  let (items, comma) ← commaItems (starTarget primary) more
  return tupleOr items comma

/-- Whether the clauses of a comprehension are next. -/
def atClauses : Reader Bool := do
  return (← atWord "for") || (← atWord "async")

def clauses (primary disjunction : Reader Expr) : Reader (List Clause) := do
  let found ← many do
    if ← atClauses then
      let isAsync ← takeWord "async"
      word "for"
      let target ← loopTargets primary
      word "in"
      let source ← disjunction
      let conditions ← many do
        if ← takeWord "if" then return some (← disjunction) else return none
      return some (.mk isAsync target source conditions)
    else return none
  require !found.isEmpty
  return found

def yielded (r : Nested) (expressions : Reader Expr) : Reader Expr := do
  if ← takeWord "from" then return .yieldFrom (← r.expression)
  else if ← atItem then return .yield (some (← expressions))
  else return .yield none

/-- Readers that the forms in brackets need from the levels above them. -/
structure Levels where
  bitOr : Reader Expr
  disjunction : Reader Expr
  primary : Reader Expr

/-- An item of a list of expressions: an expression, or a starred one. -/
def starExpression (r : Nested) (bitOr : Reader Expr) : Reader Expr := do
  if ← takeMark "*" then return .starred (← bitOr) else r.expression

def starExpressions (r : Nested) (bitOr : Reader Expr) : Reader Expr := do
  let (items, comma) ← commaItems (starExpression r bitOr) atItem
  return tupleOr items comma

def displayItem (r : Nested) (l : Levels) : Reader Expr := do
  if ← takeMark "*" then return .starred (← l.bitOr) else namedExpression r

/-- What lies behind an opening round bracket. -/
def bracketed (r : Nested) (l : Levels) : Reader Expr := do
  if ← takeMark ")" then return .tuple []
  else if ← takeWord "yield" then
    let e ← yielded r (starExpressions r l.bitOr)
    mark ")"
    return e
  else
    let first ← displayItem r l
    if ← atClauses then
      require !(isStarred first)
      let cs ← clauses l.primary l.disjunction
      mark ")"
      return .gathered .generator first cs
    else if ← takeMark "," then
      if ← takeMark ")" then return .tuple [first]
      let (items, _) ← commaItems (displayItem r l) (before [")"])
      mark ")"
      return .tuple (first :: items)
    else
      mark ")"
      require !(isStarred first)
      return first

/-- What lies behind an opening square bracket of a list. -/
def listDisplay (r : Nested) (l : Levels) : Reader Expr := do
  if ← takeMark "]" then return .list []
  let first ← displayItem r l
  if ← atClauses then
    require !(isStarred first)
    let cs ← clauses l.primary l.disjunction
    mark "]"
    return .gathered .list first cs
  else if ← takeMark "," then
    if ← takeMark "]" then return .list [first]
    let (items, _) ← commaItems (displayItem r l) (before ["]"])
    mark "]"
    return .list (first :: items)
  else
    mark "]"
    return .list [first]

def entry (r : Nested) (l : Levels) : Reader Entry := do
  if ← takeMark "**" then return .mk none (← l.bitOr)
  else
    let key ← r.expression
    mark ":"
    return .mk (some key) (← r.expression)

/-- The rest of a set behind its first item. -/
def restOfSet (r : Nested) (l : Levels) (first : Expr) : Reader Expr := do
  if ← atClauses then
    require !(isStarred first)
    let cs ← clauses l.primary l.disjunction
    mark "\x7d"
    return .gathered .set first cs
  else if ← takeMark "," then
    if ← takeMark "\x7d" then return .set [first]
    let (items, _) ← commaItems (displayItem r l) (before ["\x7d"])
    mark "\x7d"
    return .set (first :: items)
  else
    mark "\x7d"
    return .set [first]

/-- The rest of a dictionary behind its first entry. -/
def restOfDict (r : Nested) (l : Levels) (first : Entry) : Reader Expr := do
  if ← takeMark "," then
    if ← takeMark "\x7d" then return .dict [first]
    let (entries, _) ← commaItems (entry r l) (before ["\x7d"])
    mark "\x7d"
    return .dict (first :: entries)
  else
    mark "\x7d"
    return .dict [first]

def braced (r : Nested) (l : Levels) : Reader Expr := do
  if ← takeMark "\x7d" then return .dict []
  else if ← atMark "**" then restOfDict r l (← entry r l)
  else if (← atMark "*") || (← atNameBefore ":=") then restOfSet r l (← displayItem r l)
  else
    let first ← r.expression
    if ← takeMark ":" then
      let value ← r.expression
      if ← atClauses then
        let cs ← clauses l.primary l.disjunction
        mark "\x7d"
        return .gatheredDict first value cs
      else restOfDict r l (.mk (some first) value)
    else restOfSet r l first

def atom (r : Nested) (l : Levels) : Reader Expr := do
  match ← peek with
  | some (.text _) => texts r
  | some t =>
    drop
    match t with
    | .name id => return .name (Text.compatible id)
    | .number value => return .literal value
    | .keyword "None" => return .literal .none
    | .keyword "True" => return .literal (.bool true)
    | .keyword "False" => return .literal (.bool false)
    | .mark "..." => return .literal .ellipsis
    | .mark "(" => bracketed r l
    | .mark "[" => listDisplay r l
    | .mark "\x7b" => braced r l
    | _ => refuse
  | none => refuse

/-- Whether clauses may follow an argument. -/
def isPlain : Argument → Bool
  | .position e => !isStarred e
  | .keyword _ => false

/-- Arguments of a call; a generator may stand alone among them without brackets of its own. -/
def callArguments (r : Nested) (l : Levels) : Reader (List Expr × List Keyword) := do
  if ← takeMark ")" then return ([], [])
  let (first, phase) ← argument r .positions
  if isPlain first && (← atClauses) then
    let cs ← clauses l.primary l.disjunction
    mark ")"
    return ((positionsOf [first]).map fun item => .gathered .generator item cs, [])
  else if ← takeMark "," then
    let rest ← argumentsUpTo r ((← get).length + 1) phase
    return sortArguments (first :: rest)
  else
    mark ")"
    return sortArguments [first]

def trailers (r : Nested) (l : Levels) : (fuel : Nat) → Expr → Reader Expr
  | 0, _ => refuse
  | fuel + 1, e => do
    if ← takeMark "." then
      let id ← identifier
      trailers r l fuel (.attribute e id)
    else if ← takeMark "(" then
      let (positions, keywords) ← callArguments r l
      trailers r l fuel (.call e positions keywords)
    else if ← takeMark "[" then
      let index ← subscripts r
      trailers r l fuel (.subscript e index)
    else return e

def primaryWith (r : Nested) (l : Levels) : Reader Expr := do
  let e ← atom r l
  trailers r l ((← get).length + 1) e

/-- A power or what may stand in its place. -/
def power (r : Nested) (primary : Reader Expr) : Reader Expr := do
  let base ← if ← takeWord "await" then Expr.await <$> primary else primary
  if ← takeMark "**" then return .binary .power base (← r.factor) else return base

def factorWith (r : Nested) (primary : Reader Expr) : Reader Expr := do
  match (← peek).bind unaryOp? with
  | some op =>
    drop
    return .unary op (← r.factor)
  | none => power r primary

def bitOrWith (factor : Reader Expr) : Reader Expr :=
  leftChain [("|", .bitOr)] <| leftChain [("^", .bitXor)] <| leftChain [("&", .bitAnd)] <|
    leftChain [("<<", .shiftLeft), (">>", .shiftRight)] <|
    leftChain [("+", .add), ("-", .subtract)] <|
    leftChain [("*", .multiply), ("/", .divide), ("//", .floorDivide), ("%", .remainder),
      ("@", .matrixMultiply)] factor

def compareMarks : List (String × CompareOp) := [
  ("==", .equal), ("!=", .unequal), ("<", .less), ("<=", .lessEqual), (">", .greater),
  (">=", .greaterEqual)]

def compareOp : Reader (Option CompareOp) := do
  match ← peek with
  | some (.mark m) =>
    match compareMarks.lookup m with
    | some op =>
      drop
      return some op
    | none => return none
  | some (.keyword "in") =>
    drop
    return some .within
  | some (.keyword "is") =>
    drop
    if ← takeWord "not" then return some .notSame else return some .same
  | some (.keyword "not") =>
    drop
    word "in"
    return some .notWithin
  | _ => return none

def comparison (bitOr : Reader Expr) : Reader Expr := do
  let first ← bitOr
  let rest ← many do
    match ← compareOp with
    | some op => return some (.mk op (← bitOr))
    | none => return none
  return if rest.isEmpty then first else .compare first rest

def inversion (bitOr : Reader Expr) : Reader Expr := do
  let nots ← many do
    if ← takeWord "not" then return some () else return none
  let e ← comparison bitOr
  return nots.foldl (fun e _ => .unary .not e) e

def booleanChain (w : String) (op : BooleanOp) (operand : Reader Expr) : Reader Expr := do
  let first ← operand
  let rest ← many do
    if ← takeWord w then return some (← operand) else return none
  return if rest.isEmpty then first else .boolean op (first :: rest)

def disjunctionWith (bitOr : Reader Expr) : Reader Expr :=
  booleanChain "or" .or (booleanChain "and" .and (inversion bitOr))

/-- The parameters so far, in the order in which they must come. -/
structure ParamsSoFar where
  leading : List Param
  ordinary : List Param
  rest : Option Param
  named : List Param
  extra : Option Param
  /-- Only parameters by name may follow. -/
  byName : Bool
  /-- A parameter with a value has been passed. -/
  supplied : Bool

def supplies : Param → Bool
  | .mk _ _ default => default.isSome

/-- The declared type of a parameter, where `typed` parameters have one. -/
def paramType (r : Nested) (typed : Bool) : Reader (Option Expr) := do
  if typed then
    if ← takeMark ":" then return some (← r.expression) else return none
  else return none

def param (r : Nested) (typed : Bool) : Reader Param := do
  let id ← identifier
  let type ← paramType r typed
  let default ← if ← takeMark "=" then some <$> r.expression else pure none
  return .mk id type default

/-- The next parameter or mark between parameters; `closing` ends them all. -/
def nextParam (r : Nested) (bitOr : Reader Expr) (typed : Bool) (p : ParamsSoFar) :
    Reader ParamsSoFar := do
  if p.extra.isSome then refuse
  else if ← takeMark "**" then
    let id ← identifier
    return { p with extra := some (.mk id (← paramType r typed) none) }
  else if p.byName then
    return { p with named := p.named ++ [← param r typed] }
  else if ← takeMark "/" then
    require (p.leading.isEmpty && !p.ordinary.isEmpty)
    return { p with leading := p.ordinary, ordinary := [] }
  else if ← takeMark "*" then
    if ← takeMark "," then
      return { p with named := [← param r typed], byName := true }
    else
      let id ← identifier
      let type ← if typed then
          if ← takeMark ":" then some <$> starExpression r bitOr else pure none
        else pure none
      return { p with rest := some (.mk id type none), byName := true }
  else
    let next ← param r typed
    require (supplies next || !p.supplied)
    return { p with ordinary := p.ordinary ++ [next], supplied := p.supplied || supplies next }

def paramsUpTo (r : Nested) (bitOr : Reader Expr) (typed : Bool) (closing : String) :
    (fuel : Nat) → ParamsSoFar → Reader ParamsSoFar
  | 0, _ => refuse
  | fuel + 1, p => do
    if ← atMark closing then return p
    let p ← nextParam r bitOr typed p
    if ← takeMark "," then paramsUpTo r bitOr typed closing fuel p
    else
      require (← atMark closing)
      return p

def params (r : Nested) (bitOr : Reader Expr) (typed : Bool) (closing : String) :
    Reader Params := do
  let p ← paramsUpTo r bitOr typed closing ((← get).length + 1)
    ⟨[], [], none, [], none, false, false⟩
  return .mk p.leading p.ordinary p.rest p.named p.extra

def expressionWith (r : Nested) (bitOr disjunction : Reader Expr) : Reader Expr := do
  if ← takeWord "lambda" then
    let ps ← params r bitOr false ":"
    mark ":"
    return .lambda ps (← r.expression)
  else
    let e ← disjunction
    if ← takeWord "if" then
      let test ← disjunction
      word "else"
      return .conditional test e (← r.expression)
    else return e

/-- The levels over readers for what lies within. Brackets lead back to the levels of the
expressions in them, hence one step of recursion apart. -/
def levels (r : Nested) (inner : Levels) : Levels :=
  let primary := primaryWith r inner
  let bitOr := bitOrWith (factorWith r primary)
  ⟨bitOr, disjunctionWith bitOr, primary⟩

def Levels.none : Levels := ⟨refuse, refuse, refuse⟩

def readersAt (embedded : List Char → Option Expr) : (depth : Nat) → Nested × Levels
  | 0 => (⟨refuse, refuse, embedded⟩, Levels.none)
  | depth + 1 =>
    let (r, inner) := readersAt embedded depth
    let l := levels r inner
    (⟨expressionWith r l.bitOr l.disjunction, factorWith r l.primary, embedded⟩, l)

/-- Reads an expression in braces within a formatted text, as if in brackets. `depth` bounds how
deeply formatted texts lie within each other. -/
def embeddedExpression : (depth : Nat) → List Char → Option Expr
  | 0, _ => none
  | depth + 1, cs => do
    let ts ← tokens? ('(' :: cs ++ [')'])
    let (r, l) := readersAt (embeddedExpression depth) (ts.length + 1)
    let (e, _) ← starExpressions r l.bitOr ts
    some e

end CallSnapshot.Source
