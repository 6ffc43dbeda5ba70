import CallSnapshot.Fault
import CallSnapshot.Json.Printer
import CallSnapshot.Number.Shortest
import CallSnapshot.Source.Tree
import CallSnapshot.Text.Quoted
import CallSnapshot.Text.Replace

/-! The text of a module: one layout for each tree, with the brackets that its levels call for. -/

namespace CallSnapshot.Source

open Text (hexDigits isPrintable joinWith occursIn quotedChars)

/-- How tightly an expression binds; one that binds less than its place asks stands in brackets. -/
abbrev Level := Nat

namespace Level

def tuple : Level := 1
def yield : Level := 2
def test : Level := 3
def or : Level := 4
def and : Level := 5
def not : Level := 6
def compare : Level := 7
def bitOr : Level := 8
def bitXor : Level := 9
def bitAnd : Level := 10
def shift : Level := 11
def sum : Level := 12
def term : Level := 13
def factor : Level := 14
def power : Level := 15
def await : Level := 16
def atom : Level := 17

def next (l : Level) : Level := min (l + 1) atom

end Level

def UnaryOp.text : UnaryOp → String
  | .invert => "~"
  | .not => "not "
  | .plus => "+"
  | .minus => "-"

def UnaryOp.level : UnaryOp → Level
  | .not => .not
  | _ => .factor

def BinaryOp.text : BinaryOp → String
  | .add => "+"
  | .subtract => "-"
  | .multiply => "*"
  | .matrixMultiply => "@"
  | .divide => "/"
  | .remainder => "%"
  | .floorDivide => "//"
  | .power => "**"
  | .shiftLeft => "<<"
  | .shiftRight => ">>"
  | .bitOr => "|"
  | .bitXor => "^"
  | .bitAnd => "&"

def BinaryOp.level : BinaryOp → Level
  | .add => .sum
  | .subtract => .sum
  | .multiply => .term
  | .matrixMultiply => .term
  | .divide => .term
  | .remainder => .term
  | .floorDivide => .term
  | .power => .power
  | .shiftLeft => .shift
  | .shiftRight => .shift
  | .bitOr => .bitOr
  | .bitXor => .bitXor
  | .bitAnd => .bitAnd

/-- The levels of the left and the right operand: powers group from the right. -/
def BinaryOp.sides (op : BinaryOp) : Level × Level :=
  if op == .power then (op.level.next, op.level) else (op.level, op.level.next)

def BooleanOp.text : BooleanOp → String
  | .and => "and"
  | .or => "or"

def BooleanOp.level : BooleanOp → Level
  | .and => .and
  | .or => .or

def CompareOp.text : CompareOp → String
  | .equal => "=="
  | .unequal => "!="
  | .less => "<"
  | .lessEqual => "<="
  | .greater => ">"
  | .greaterEqual => ">="
  | .same => "is"
  | .notSame => "is not"
  | .within => "in"
  | .notWithin => "not in"

namespace Printer

/-- Quotation marks in order of choice. -/
def quotes : List (List Char) := ["'", "\"", "\"\"\"", "'''"].map String.toList

def longQuotes : List (List Char) := ["\"\"\"", "'''"].map String.toList

def escapeChar (layout : Bool) (c : Char) : List Char :=
  if !layout && (c == '\n' || c == '\t') then [c]
  else if c == '\\' then ['\\', '\\']
  else if isPrintable c then [c]
  else
    let n := c.toNat
    if c == '\n' then ['\\', 'n']
    else if c == '\t' then ['\\', 't']
    else if c == '\r' then ['\\', 'r']
    else if n < 0x100 then '\\' :: 'x' :: hexDigits 2 n
    else if n < 0x10000 then '\\' :: 'u' :: hexDigits 4 n
    else '\\' :: 'U' :: hexDigits 8 n

/-- A text with few escapes, and the quotation marks that may enclose it. Line ends and tabs are
escaped only where `layout` asks for it. -/
def fewEscapes (choices : List (List Char)) (layout : Bool) (cs : List Char) :
    List Char × List (List Char) :=
  let escaped := cs.flatMap (escapeChar layout)
  let long := if escaped.contains '\n' then choices.filter longQuotes.contains else choices
  let fit := long.filter fun q => !occursIn q escaped
  match fit with
  | [] =>
    let whole := quotedChars cs
    let mark := whole.headD '\''
    let quote := (choices.find? (·.contains mark)).getD [mark]
    (whole.tail.dropLast, [quote])
  | _ =>
    match escaped.getLast? with
    | none => (escaped, fit)
    | some last =>
      let clashes := fun (q : List Char) => q.head? == some last
      let sorted := fit.filter (fun q => !clashes q) ++ fit.filter clashes
      if (sorted.head?.map clashes).getD false then (escaped.dropLast ++ ['\\', last], sorted)
      else (escaped, sorted)

def enclose (body : List Char) (choices : List (List Char)) : String :=
  let quote := choices.headD ['\'']
  String.ofList (quote ++ body ++ quote)

def quoteFew (choices : List (List Char)) (s : String) : String :=
  let (body, fit) := fewEscapes choices false s.toList
  enclose body fit

/-- The parts of a formatted text in one pair of quotes; the texts may escape line ends, the
expressions may not. -/
def encloseParts : (choices : List (List Char)) → (seen : List Char) → List (String × Bool) →
    String
  | choices, seen, [] => enclose seen choices
  | choices, seen, (part, isText) :: rest =>
    let (body, choices) := fewEscapes choices isText part.toList
    encloseParts choices (seen ++ body) rest

def floatText (pointZero : Bool) (x : Binary64) : String :=
  if x.isInfinite then "1e309" else x.render pointZero

def literal (bare : Bool) : Literal → Except Fault String
  | .none => pure "None"
  | .bool b => pure (if b then "True" else "False")
  | .ellipsis => pure "..."
  | .int n => do
    let digits := Nat.repr n
    if Numeral.digitLimit < digits.length then throw ⟨.value, Json.printLimitText⟩
    return digits
  | .float x => pure (floatText true x)
  | .imaginary x => pure (floatText false x ++ "j")
  | .text s marked =>
    pure ((if marked then "u" else "") ++ if bare then quoteFew quotes s else Text.quoted s)
  | .bytes bs => pure (Text.quotedBytes bs)

def commas (parts : List String) : String := ", ".intercalate parts

/-- Items of a tuple: one alone keeps a comma. -/
def tupleItems (parts : List String) : String :=
  match parts with
  | [p] => p ++ ","
  | ps => commas ps

def brackets (needed : Bool) (s : String) : String := if needed then "(" ++ s ++ ")" else s

def braces (s : String) : String := "\x7b" ++ s ++ "\x7d"

def doubleBraces (s : String) : String :=
  String.ofList (s.toList.flatMap fun c => if c == '\x7b' || c == '\x7d' then [c, c] else [c])

def isInt : Expr → Bool
  | .literal (.int _) => true
  | .literal (.bool _) => true
  | _ => false

def gathering (kind : Gathering) (s : String) : String :=
  match kind with
  | .list => "[" ++ s ++ "]"
  | .set => braces s
  | .generator => "(" ++ s ++ ")"

/-- The text of an expression in braces within a formatted text. -/
def embedded (s : String) : Except Fault String := do
  if s.toList.contains '\\' then
    throw ⟨.value, "Unable to avoid backslash in f-string expression part"⟩
  return if s.toList.head? == some '\x7b' then " " ++ s else s

def paramTexts (leading ordinary : List String) (rest : Option String) (named : List String)
    (extra : Option String) : List String :=
  let positional := if leading.isEmpty then ordinary else leading ++ "/" :: ordinary
  let star := match rest with
    | some p => ["*" ++ p]
    | none => if named.isEmpty then [] else ["*"]
  positional ++ star ++ named ++ (extra.map ("**" ++ ·)).toList

mutual

def expr (bare : Bool) (level : Level) (e : Expr) : Except Fault String :=
  match e with
  | .literal value => literal bare value
  | .name id => pure id
  | .formatted ps =>
    if bare then do return "f" ++ quoteFew quotes (← piecesText ps)
    else do return "f" ++ encloseParts quotes [] (← pieceTexts ps)
  | .unary op operand => do
    return brackets (op.level < level) (op.text ++ (← expr bare op.level operand))
  | .binary op left right => do
    let (l, r) := op.sides
    let left ← expr bare l left
    let right ← expr bare r right
    return brackets (op.level < level) s!"{left} {op.text} {right}"
  | .boolean op operands => do
    let parts ← rising bare op.level.next operands
    return brackets (op.level < level) (s!" {op.text} ".intercalate parts)
  | .compare first rest => do
    let first ← expr bare Level.compare.next first
    return brackets (Level.compare < level) (first ++ (← comparisons bare rest))
  | .conditional test yes no => do
    let yes ← expr bare Level.test.next yes
    let test ← expr bare Level.test.next test
    let no ← expr bare .test no
    return brackets (Level.test < level) s!"{yes} if {test} else {no}"
  | .lambda ps body => do
    let head ← paramsText bare ps
    let body ← expr bare .test body
    let head := if head.isEmpty then "lambda" else "lambda " ++ head
    return brackets (Level.test < level) (head ++ ": " ++ body)
  | .named target value => do
    let target ← expr bare .atom target
    let value ← expr bare .atom value
    return brackets (Level.tuple < level) (target ++ " := " ++ value)
  | .call function positions keywords => do
    let function ← expr bare .atom function
    let positions ← exprs bare .test positions
    return s!"{function}({commas (positions ++ (← keywordTexts bare keywords))})"
  | .attribute value name => do
    return (← expr bare .atom value) ++ (if isInt value then " ." else ".") ++ name
  | .subscript value index => do
    let value ← expr bare .atom value
    let index ← match index with
      | .tuple (item :: items) => do
        pure (tupleItems ((← expr bare .test item) :: (← exprs bare .test items)))
      | index => expr bare .test index
    return s!"{value}[{index}]"
  | .slice lower upper step => do
    let lower ← optional bare "" lower
    let upper ← optional bare "" upper
    return lower ++ ":" ++ upper ++ (← optional bare ":" step)
  | .starred value => do return "*" ++ (← expr bare .bitOr value)
  | .list items => do return s!"[{commas (← exprs bare .test items)}]"
  | .tuple items => do
    return brackets (items.isEmpty || Level.tuple < level)
      (tupleItems (← exprs bare .test items))
  | .set items => do
    let parts ← exprs bare .test items
    return braces (if parts.isEmpty then "*()" else commas parts)
  | .dict entries => do return braces (commas (← entryTexts bare entries))
  | .gathered kind item cs => do
    let item ← expr bare .test item
    return gathering kind (item ++ (← clauseTexts bare cs))
  | .gatheredDict key value cs => do
    let key ← expr bare .test key
    let value ← expr bare .test value
    return braces (key ++ ": " ++ value ++ (← clauseTexts bare cs))
  | .await value => do
    return brackets (Level.await < level) ("await " ++ (← expr bare .atom value))
  | .yield value => do
    let value ← match value with
      | none => pure ""
      | some e => do pure (" " ++ (← expr bare .atom e))
    return brackets (Level.yield < level) ("yield" ++ value)
  | .yieldFrom value => do
    return brackets (Level.yield < level) ("yield from " ++ (← expr bare .atom value))

def exprs (bare : Bool) (level : Level) : List Expr → Except Fault (List String)
  | [] => pure []
  | e :: es => do
    let first ← expr bare level e
    return first :: (← exprs bare level es)

def rising (bare : Bool) (level : Level) : List Expr → Except Fault (List String)
  | [] => pure []
  | e :: es => do
    let first ← expr bare level e
    return first :: (← rising bare level.next es)

def optional (bare : Bool) (lead : String) : Option Expr → Except Fault String
  | none => pure ""
  | some e => do return lead ++ (← expr bare .test e)

def comparisons (bare : Bool) : List Comparison → Except Fault String
  | [] => pure ""
  | .mk op operand :: rest => do
    let operand ← expr bare Level.compare.next operand
    return s!" {op.text} {operand}" ++ (← comparisons bare rest)

def keywordTexts (bare : Bool) : List Keyword → Except Fault (List String)
  | [] => pure []
  | .mk name value :: rest => do
    let value ← expr bare .test value
    let lead := match name with
      | some id => id ++ "="
      | none => "**"
    return (lead ++ value) :: (← keywordTexts bare rest)

def entryTexts (bare : Bool) : List Entry → Except Fault (List String)
  | [] => pure []
  | .mk key value :: rest => do
    let first ← match key with
      | some k => do
        let k ← expr bare .test k
        pure (k ++ ": " ++ (← expr bare .test value))
      | none => do pure ("**" ++ (← expr bare .bitOr value))
    return first :: (← entryTexts bare rest)

def clauseTexts (bare : Bool) : List Clause → Except Fault String
  | [] => pure ""
  | .mk isAsync target source conditions :: rest => do
    let target ← expr bare .tuple target
    let source ← expr bare Level.test.next source
    let conditions ← exprs bare Level.test.next conditions
    let lead := if isAsync then " async for " else " for "
    let conditions := String.join (conditions.map (" if " ++ ·))
    return lead ++ target ++ " in " ++ source ++ conditions ++ (← clauseTexts bare rest)

def paramText (bare : Bool) : Param → Except Fault String
  | .mk name type default => do
    let type ← optional bare ": " type
    return name ++ type ++ (← optional bare "=" default)

def paramList (bare : Bool) : List Param → Except Fault (List String)
  | [] => pure []
  | p :: ps => do
    let first ← paramText bare p
    return first :: (← paramList bare ps)

def optionalParam (bare : Bool) : Option Param → Except Fault (Option String)
  | none => pure none
  | some p => do return some (← paramText bare p)

def paramsText (bare : Bool) : Params → Except Fault String
  | .mk leading ordinary rest named extra => do
    let leading ← paramList bare leading
    let ordinary ← paramList bare ordinary
    let rest ← optionalParam bare rest
    let named ← paramList bare named
    return commas (paramTexts leading ordinary rest named (← optionalParam bare extra))

def pieceText : Piece → Except Fault String
  | .text s => pure (doubleBraces s)
  | .value value conversion format => do
    let value ← embedded (← expr true Level.test.next value)
    let conversion := match conversion with
      | some c => "!" ++ c.toString
      | none => ""
    return braces (value ++ conversion ++ (← formatText format))

def formatText : Option (List Piece) → Except Fault String
  | none => pure ""
  | some ps => do return ":" ++ (← piecesText ps)

def piecesText : List Piece → Except Fault String
  | [] => pure ""
  | p :: ps => do
    let first ← pieceText p
    return first ++ (← piecesText ps)

def pieceTexts : List Piece → Except Fault (List (String × Bool))
  | [] => pure []
  | p :: ps => do
    let first ← pieceText p
    let isText := match p with
      | .text _ => true
      | .value .. => false
    return (first, isText) :: (← pieceTexts ps)

end

end Printer

end CallSnapshot.Source
