import CallSnapshot.Source.Reader

/-! Reading the patterns of a `match`. -/

namespace CallSnapshot.Source

open Reader

def isReal : Literal → Bool
  | .int _ => true
  | .float _ => true
  | _ => false

def isImaginary : Literal → Bool
  | .imaginary _ => true
  | _ => false

def numberToken : Reader Literal
  | .number value :: ts => some (value, ts)
  | _ => none

/-- A number with its sign, or a complex number as a sum. -/
def signedNumber : Reader Expr := do
  let negative ← takeMark "-"
  let value ← numberToken
  let first := if negative then Expr.unary .minus (.literal value) else .literal value
  let op : Option BinaryOp ←
    if ← takeMark "+" then pure (some .add)
    else if ← takeMark "-" then pure (some .subtract)
    else pure none
  match op with
  | none => return first
  | some op =>
    let part ← numberToken
    require (isReal value && isImaginary part)
    return .binary op first (.literal part)

/-- A constant as the key of a mapping, if one is next. -/
def literalKey (r : Nested) : Reader (Option Expr) := do
  match ← peek with
  | some (.number _) => some <$> signedNumber
  | some (.mark "-") => some <$> signedNumber
  | some (.text _) => some <$> texts r
  | some (.keyword "None") =>
    drop
    return some (.literal .none)
  | some (.keyword "True") =>
    drop
    return some (.literal (.bool true))
  | some (.keyword "False") =>
    drop
    return some (.literal (.bool false))
  | _ => return none

/-- A constant pattern, if one is next. -/
def literalPattern (r : Nested) : Reader (Option Pattern) := do
  match ← literalKey r with
  | none => return none
  | some (.literal .none) => return some (.constant .none)
  | some (.literal (.bool b)) => return some (.constant (.bool b))
  | some e => return some (.value e)

def dotted : Reader Expr := do
  let first ← identifier
  let rest ← many do
    if ← takeMark "." then return some (← identifier) else return none
  return rest.foldl .attribute (.name first)

def isDotted : Expr → Bool
  | .attribute .. => true
  | _ => false

def takeBlank : Reader Bool := fun ts =>
  match ts with
  | .name "_" :: rest => some (true, rest)
  | _ => some (false, ts)

/-- A name to bind, which nothing may follow that would make it part of a longer pattern. -/
def captureName : Reader String := do
  if ← takeBlank then refuse
  let id ← identifier
  require !((← atMark ".") || (← atMark "(") || (← atMark "="))
  return id

def starOr (pattern : Reader Pattern) : Reader Pattern := do
  if ← takeMark "*" then
    if ← takeBlank then return .star none else return .star (some (← captureName))
  else pattern

def isStar : Pattern → Bool
  | .star _ => true
  | _ => false

def patternItems (pattern : Reader Pattern) (closing : String) :
    Reader (List Pattern × Bool) := do
  if ← takeMark closing then return ([], false)
  let found ← commaItems (starOr pattern) (before [closing])
  mark closing
  return found

/-- What lies behind an opening round bracket: a pattern, or a sequence of them. -/
def bracketedPattern (pattern : Reader Pattern) : Reader Pattern := do
  match ← patternItems pattern ")" with
  | ([p], false) =>
    require !(isStar p)
    return p
  | (ps, _) => return .sequence ps

structure MappingSoFar where
  entries : List (Expr × Pattern)
  rest : Option String

def mappingUpTo (r : Nested) (pattern : Reader Pattern) : (fuel : Nat) → MappingSoFar →
    Reader MappingSoFar
  | 0, _ => refuse
  | fuel + 1, m => do
    if ← takeMark "\x7d" then return m
    require m.rest.isNone
    let m : MappingSoFar ← if ← takeMark "**" then
        pure { m with rest := some (← captureName) }
      else
        let key ← match ← literalKey r with
          | some e => pure e
          | none =>
            let e ← dotted
            require (isDotted e)
            pure e
        mark ":"
        pure { m with entries := m.entries ++ [(key, ← pattern)] }
    if ← takeMark "," then mappingUpTo r pattern fuel m
    else
      mark "\x7d"
      return m

def mappingPattern (r : Nested) (pattern : Reader Pattern) : Reader Pattern := do
  if ← takeMark "\x7d" then return .mapping [] none
  let m ← mappingUpTo r pattern ((← get).length + 1) ⟨[], none⟩
  return .mapping m.entries m.rest

/-- The patterns by position and by name up to the closing bracket; those by name come last. -/
def shapeUpTo (pattern : Reader Pattern) : (fuel : Nat) → (items : List Pattern) →
    (named : List (String × Pattern)) → Reader (List Pattern × List (String × Pattern))
  | 0, _, _ => refuse
  | fuel + 1, items, named => do
    if ← takeMark ")" then return (items, named)
    let (items, named) ← if ← atNameBefore "=" then
        let id ← identifier
        mark "="
        pure (items, named ++ [(id, ← pattern)])
      else
        require named.isEmpty
        pure (items ++ [← pattern], named)
    if ← takeMark "," then shapeUpTo pattern fuel items named
    else
      mark ")"
      return (items, named)

def namePattern (pattern : Reader Pattern) : Reader Pattern := do
  if ← takeBlank then return .capture none
  let e ← dotted
  if ← takeMark "(" then
    let (items, named) ← shapeUpTo pattern ((← get).length + 1) [] []
    return .shape e items named
  else
    require !(← atMark "=")
    match e with
    | .name id => return .capture (some id)
    | e => return .value e

def closedPattern (r : Nested) (pattern : Reader Pattern) : Reader Pattern := do
  match ← literalPattern r with
  | some p => return p
  | none =>
    if ← takeMark "(" then bracketedPattern pattern
    else if ← takeMark "[" then return .sequence (← patternItems pattern "]").1
    else if ← takeMark "\x7b" then mappingPattern r pattern
    else namePattern pattern

def patternWith (r : Nested) (pattern : Reader Pattern) : Reader Pattern := do
  let first ← closedPattern r pattern
  let rest ← many do
    if ← takeMark "|" then return some (← closedPattern r pattern) else return none
  let p := if rest.isEmpty then first else .choice (first :: rest)
  if ← takeWord "as" then return .alias p (← captureName) else return p

def patternAt (r : Nested) : (depth : Nat) → Reader Pattern
  | 0 => refuse
  | depth + 1 => patternWith r (patternAt r depth)

def casePattern (pattern : Reader Pattern) : Reader Pattern := do
  let more : Reader Bool := return (← before [":"]) && !(← atWord "if")
  match ← commaItems (starOr pattern) more with
  | ([p], false) =>
    require !(isStar p)
    return p
  | (ps, _) => return .sequence ps

end CallSnapshot.Source
