import CallSnapshot.Source.PatternReader

/-! Reading statements, blocks and whole modules. -/

namespace CallSnapshot.Source

open Reader

-- Sums start at the zero of the core library, whatever is imported beside this module.
attribute [local instance (high)] Zero.ofOfNat0

structure Parts where
  nested : Nested
  levels : Levels
  pattern : Reader Pattern
  /-- Reads the block of a statement, behind its colon. -/
  block : Reader (List Statement)

namespace Parts

variable (p : Parts)

def expression : Reader Expr := p.nested.expression

def named : Reader Expr := namedExpression p.nested

def expressions : Reader Expr := starExpressions p.nested p.levels.bitOr

/-- A value to bind: expressions, or a `yield`. -/
def value : Reader Expr := do
  if ← takeWord "yield" then yielded p.nested p.expressions else p.expressions

def target : Reader Expr := starTarget p.levels.primary

end Parts

def nameList : Reader (List String) := do
  return (← commaItems identifier (pure true)).1

def dottedName : Reader String := do
  let first ← identifier
  let rest ← many do
    if ← takeMark "." then return some (← identifier) else return none
  return ".".intercalate (first :: rest)

def boundAs (name : Reader String) : Reader Alias := do
  let id ← name
  if ← takeWord "as" then return ⟨id, some (← identifier)⟩ else return ⟨id, none⟩

def loadStatement : Reader Statement := do
  return .load (← commaItems (boundAs dottedName) (pure true)).1

def leadingDots : Reader Nat := do
  let dots ← many do
    if ← takeMark "." then return some 1
    else if ← takeMark "..." then return some 3
    else return none
  return dots.sum

def loadFromStatement : Reader Statement := do
  let level ← leadingDots
  let module ← if 0 < level && (← atWord "import") then pure none else some <$> dottedName
  word "import"
  if ← takeMark "*" then return .loadFrom module [⟨"*", none⟩] level
  else if ← takeMark "(" then
    let (names, _) ← commaItems (boundAs identifier) (before [")"])
    mark ")"
    return .loadFrom module names level
  else return .loadFrom module (← commaItems (boundAs identifier) (pure true)).1 level

mutual

def isDeletable : Expr → Bool
  | .name _ => true
  | .attribute .. => true
  | .subscript .. => true
  | .list items => areDeletable items
  | .tuple items => areDeletable items
  | _ => false

def areDeletable : List Expr → Bool
  | [] => true
  | e :: es => isDeletable e && areDeletable es

end

def atEnd : Reader Bool := do
  match ← peek with
  | some .newline => return true
  | some (.mark ";") => return true
  | _ => return false

def deleteStatement (p : Parts) : Reader Statement := do
  let (targets, _) ← commaItems p.levels.primary (return !(← atEnd))
  require (areDeletable targets)
  return .delete targets

def failStatement (p : Parts) : Reader Statement := do
  if ← atExpression then
    let fault ← p.expression
    let cause ← if ← takeWord "from" then some <$> p.expression else pure none
    return .fail fault cause
  else return .fail none none

def assertStatement (p : Parts) : Reader Statement := do
  let test ← p.expression
  let message ← if ← takeMark "," then some <$> p.expression else pure none
  return .assert test message

def augmentMarks : List (String × BinaryOp) := [
  ("+=", .add), ("-=", .subtract), ("*=", .multiply), ("@=", .matrixMultiply), ("/=", .divide),
  ("%=", .remainder), ("&=", .bitAnd), ("|=", .bitOr), ("^=", .bitXor), ("<<=", .shiftLeft),
  (">>=", .shiftRight), ("**=", .power), ("//=", .floorDivide)]

def augmentMark : Reader (Option BinaryOp) := do
  match ← peek with
  | some (.mark m) =>
    match augmentMarks.lookup m with
    | some op =>
      drop
      return some op
    | none => return none
  | _ => return none

/-- The further sides of an assignment behind its first equals sign; all but the last are
targets. -/
def assignmentSides (p : Parts) : (fuel : Nat) → Reader (List Expr × Expr)
  | 0 => refuse
  | fuel + 1 => do
    let side ← p.value
    if ← takeMark "=" then
      require (isTarget side)
      let (targets, value) ← assignmentSides p fuel
      return (side :: targets, value)
    else return ([], side)

def expressionStatement (p : Parts) : Reader Statement := do
  let plain ← atNameBefore ":"
  let first ← p.expressions
  if ← takeMark ":" then
    require (isSingleTarget first)
    let type ← p.expression
    let value ← if ← takeMark "=" then some <$> p.value else pure none
    return .declare first plain type value
  else if ← takeMark "=" then
    require (isTarget first)
    let (targets, value) ← assignmentSides p ((← get).length + 1)
    return .assign (first :: targets) value
  else
    match ← augmentMark with
    | some op =>
      require (isSingleTarget first)
      return .augment first op (← p.value)
    | none => return .expression first

def giveStatement (p : Parts) : Reader Statement := do
  if ← atItem then return .give (some (← p.expressions)) else return .give none

def simpleStatement (p : Parts) : Reader Statement := do
  match ← peek with
  | some (.keyword "yield") => return .expression (← p.value)
  | some (.keyword w) =>
    let rest : Option (Reader Statement) := match w with
      | "return" => some (giveStatement p)
      | "import" => some loadStatement
      | "from" => some loadFromStatement
      | "raise" => some (failStatement p)
      | "pass" => some (pure .pass)
      | "del" => some (deleteStatement p)
      | "assert" => some (assertStatement p)
      | "break" => some (pure .leave)
      | "continue" => some (pure .next)
      | "global" => some (.global <$> nameList)
      | "nonlocal" => some (.nonlocal <$> nameList)
      | _ => none
    match rest with
    | some read =>
      drop
      read
    | none => expressionStatement p
  | _ => expressionStatement p

def simpleStatementsUpTo (p : Parts) : (fuel : Nat) → Reader (List Statement)
  | 0 => refuse
  | fuel + 1 => do
    let first ← simpleStatement p
    if (← takeMark ";") && !(← atNewline) then
      return first :: (← simpleStatementsUpTo p fuel)
    else
      newline
      return [first]

def simpleStatements (p : Parts) : Reader (List Statement) := do
  simpleStatementsUpTo p ((← get).length + 1)

def colonBlock (p : Parts) : Reader (List Statement) := do
  mark ":"
  p.block

def optionalBlock (p : Parts) (w : String) : Reader (List Statement) := do
  if ← takeWord w then colonBlock p else return []

def functionStatement (p : Parts) (isAsync : Bool) (decorators : List Expr) :
    Reader Statement := do
  let id ← identifier
  mark "("
  let ps ← params p.nested p.levels.bitOr true ")"
  mark ")"
  let returns ← if ← takeMark "->" then some <$> p.expression else pure none
  return .function isAsync decorators id ps returns (← colonBlock p)

def classStatement (p : Parts) (decorators : List Expr) : Reader Statement := do
  let id ← identifier
  let (bases, keywords) ← if ← takeMark "(" then arguments p.nested else pure ([], [])
  return .cls decorators id bases keywords (← colonBlock p)

/-- A branch with the further ones behind it, which stand where nothing else holds. -/
def branchStatement (p : Parts) : (fuel : Nat) → Reader Statement
  | 0 => refuse
  | fuel + 1 => do
    let test ← p.named
    let body ← colonBlock p
    if ← takeWord "elif" then return .branch test body [← branchStatement p fuel]
    else return .branch test body (← optionalBlock p "else")

def loopStatement (p : Parts) : Reader Statement := do
  let test ← p.named
  let body ← colonBlock p
  return .loop test body (← optionalBlock p "else")

def eachStatement (p : Parts) (isAsync : Bool) : Reader Statement := do
  let target ← loopTargets p.levels.primary
  word "in"
  let source ← p.expressions
  let body ← colonBlock p
  return .each isAsync target source body (← optionalBlock p "else")

def withinItem (p : Parts) : Reader (Expr × Option Expr) := do
  let e ← p.expression
  if ← takeWord "as" then return (e, some (← p.target)) else return (e, none)

/-- The items of a `with`, all within brackets if they can be read so, up to the colon. -/
def withinItems (p : Parts) : Reader (List (Expr × Option Expr)) := do
  let bracketed : Reader (List (Expr × Option Expr)) := do
    mark "("
    let (items, _) ← commaItems (withinItem p) (before [")"])
    mark ")"
    require (← atMark ":")
    return items
  match ← attempt bracketed with
  | some items => return items
  | none => return (← commaItems (withinItem p) (pure true)).1

def withinStatement (p : Parts) (isAsync : Bool) : Reader Statement := do
  let items ← withinItems p
  return .within isAsync items (← colonBlock p)

def handler (p : Parts) (isGroup : Bool) : Reader Handler := do
  if isGroup then mark "*"
  let type ← if isGroup || (← atExpression) then some <$> p.expression else pure none
  let name ← if type.isSome then
      if ← takeWord "as" then some <$> identifier else pure none
    else pure none
  return .mk type name (← colonBlock p)

/-- A `try`: handlers of one kind, or a final block. -/
def guardStatement (p : Parts) : Reader Statement := do
  let body ← colonBlock p
  let isGroup : Reader Bool := fun ts =>
    match ts with
    | .keyword "except" :: .mark "*" :: _ => some (true, ts)
    | _ => some (false, ts)
  let isGroup ← isGroup
  let handlers ← many do
    if ← takeWord "except" then return some (← handler p isGroup) else return none
  let otherwise ← if handlers.isEmpty then pure [] else optionalBlock p "else"
  let final ← optionalBlock p "finally"
  require (!handlers.isEmpty || !final.isEmpty)
  return .guard isGroup body handlers otherwise final

/-- A name that is a word only where it fits. -/
def takeSoftWord (w : String) : Reader Bool := fun ts =>
  match ts with
  | .name id :: rest => if id == w then some (true, rest) else some (false, ts)
  | _ => some (false, ts)

/-- What a `match` looks at, up to its block; otherwise the word is a mere name. -/
def selectHead (p : Parts) : Reader Expr := do
  require (← takeSoftWord "match")
  let (items, comma) ← commaItems (displayItem p.nested p.levels) atItem
  require (comma || !items.any isStarred || 1 < items.length)
  mark ":"
  newline
  indent
  return tupleOr items comma

def case (p : Parts) : Reader Case := do
  let pattern ← casePattern p.pattern
  let condition ← if ← takeWord "if" then some <$> p.named else pure none
  return .mk pattern condition (← colonBlock p)

def selectStatement (p : Parts) (subject : Expr) : Reader Statement := do
  let cases ← many do
    if ← takeSoftWord "case" then return some (← case p) else return none
  require !cases.isEmpty
  dedent
  return .select subject cases

def decoratorList (p : Parts) : Reader (List Expr) :=
  many do
    if ← takeMark "@" then
      let e ← p.named
      newline
      return some e
    else return none

/-- A function or a class behind its decorators. -/
def decorated (p : Parts) (decorators : List Expr) : Reader Statement := do
  if ← takeWord "class" then classStatement p decorators
  else
    let isAsync ← takeWord "async"
    word "def"
    functionStatement p isAsync decorators

def asyncStatement (p : Parts) : Reader Statement := do
  if ← takeWord "def" then functionStatement p true []
  else if ← takeWord "with" then withinStatement p true
  else
    word "for"
    eachStatement p true

def statement (p : Parts) : Reader (List Statement) := do
  match ← peek with
  | some (.mark "@") =>
    let decorators ← decoratorList p
    return [← decorated p decorators]
  | some (.keyword w) =>
    let rest : Option (Reader Statement) := match w with
      | "def" => some (functionStatement p false [])
      | "async" => some (asyncStatement p)
      | "class" => some (classStatement p [])
      | "if" => some do branchStatement p ((← get).length + 1)
      | "while" => some (loopStatement p)
      | "for" => some (eachStatement p false)
      | "with" => some (withinStatement p false)
      | "try" => some (guardStatement p)
      | _ => none
    match rest with
    | some read =>
      drop
      return [← read]
    | none => simpleStatements p
  | some (.name "match") =>
    match ← attempt (selectHead p) with
    | some subject => return [← selectStatement p subject]
    | none => simpleStatements p
  | _ => simpleStatements p

def statements (p : Parts) : Reader (List Statement) := do
  let found ← many do
    match ← peek with
    | none => return none
    | some .dedent => return none
    | some _ => return some (← statement p)
  return found.flatten

def blockWith (p : Parts) : Reader (List Statement) := do
  match ← peek with
  | some .newline =>
    newline
    indent
    let found ← statements p
    require !found.isEmpty
    dedent
    return found
  | _ => simpleStatements p

/-- The parts for blocks of a depth. -/
def partsAt (r : Nested) (l : Levels) (pattern : Reader Pattern) : (depth : Nat) → Parts
  | 0 => ⟨r, l, pattern, refuse⟩
  | depth + 1 => ⟨r, l, pattern, blockWith (partsAt r l pattern depth)⟩

def readTokens (embedded : List Char → Option Expr) (ts : List Token) : Option Module := do
  let depth := ts.length + 1
  let (r, l) := readersAt embedded depth
  let (found, rest) ← statements (partsAt r l (patternAt r depth) depth) ts
  if rest.isEmpty then some found else none

/-- The module that a source text spells, or nothing where it spells none. -/
def read? (source : String) : Option Module := do
  let cs := source.toList
  readTokens (embeddedExpression (cs.length + 1)) (← tokens? cs)

end CallSnapshot.Source
