import CallSnapshot.Source.Printer

/-! The lines of statements and modules. A text over several lines counts as part of one line. -/

namespace CallSnapshot.Source

namespace Printer

mutual

def pattern (level : Level) (p : Pattern) : Except Fault String :=
  match p with
  | .value e => expr false .test e
  | .constant value => literal false value
  | .sequence items => do return s!"[{commas (← patterns .test items)}]"
  | .mapping entries rest => do
    let parts ← mappingTexts entries
    return braces (commas (parts ++ (rest.map ("**" ++ ·)).toList))
  | .shape cls items named => do
    let cls ← expr false .atom cls
    let items ← patterns .test items
    return s!"{cls}({commas (items ++ (← namedPatterns named))})"
  | .star name => pure ("*" ++ name.getD "_")
  | .capture name => pure (name.getD "_")
  | .alias p name => do
    let p ← pattern .bitOr p
    return brackets (Level.test < level) (p ++ " as " ++ name)
  | .choice ps => do
    return brackets (Level.bitOr < level) (" | ".intercalate (← patterns Level.bitOr.next ps))

def patterns (level : Level) : List Pattern → Except Fault (List String)
  | [] => pure []
  | p :: ps => do
    let first ← pattern level p
    return first :: (← patterns level ps)

def mappingTexts : List (Expr × Pattern) → Except Fault (List String)
  | [] => pure []
  | (key, p) :: rest => do
    let key ← expr false .test key
    let p ← pattern .test p
    return (key ++ ": " ++ p) :: (← mappingTexts rest)

def namedPatterns : List (String × Pattern) → Except Fault (List String)
  | [] => pure []
  | (name, p) :: rest => do
    let p ← pattern .test p
    return (name ++ "=" ++ p) :: (← namedPatterns rest)

end

/-- An empty line stays empty. -/
def indentLine (s : String) : String := if s.isEmpty then s else "    " ++ s

/-- A head with its colon and the lines of its block. -/
def block (head : String) (lines : List String) : List String :=
  (head ++ ":") :: lines.map indentLine

/-- A block that is left out where it is empty. -/
def tail (head : String) (lines : List String) : List String :=
  if lines.isEmpty then [] else block head lines

def aliasText (a : Alias) : String := a.name ++ (a.bound.map (" as " ++ ·)).getD ""

def aliasTexts (names : List Alias) : String := commas (names.map aliasText)

def decoratorLines (decorators : List Expr) : Except Fault (List String) := do
  return (← exprs false .test decorators).map ("@" ++ ·)

def withinItems (items : List (Expr × Option Expr)) : Except Fault (List String) :=
  items.mapM fun (e, target) => do
    return (← expr false .test e) ++ (← optional false " as " target)


/-- The text that a statement gives as documentation where it opens a body. -/
def documentation? : Statement → Option String
  | .expression (.literal (.text s marked)) =>
    some ((if marked then "u" else "") ++ quoteFew longQuotes s)
  | _ => none

def isBranch : List Statement → Bool
  | [.branch ..] => true
  | _ => false

/-- A branch that goes on where another does not hold, at the same depth. -/
def joinBranch : List String → List String
  | [] => []
  | first :: rest => ("el" ++ first) :: rest

def asyncWord (isAsync : Bool) : String := if isAsync then "async " else ""

mutual

def statement (s : Statement) : Except Fault (List String) :=
  match s with
  | .function isAsync decorators name ps returns body => do
    let decorators ← decoratorLines decorators
    let ps ← paramsText false ps
    let returns ← optional false " -> " returns
    let body ← documented body
    return "" :: decorators ++ block s!"{asyncWord isAsync}def {name}({ps}){returns}" body
  | .cls decorators name bases keywords body => do
    let decorators ← decoratorLines decorators
    let bases ← exprs false .test bases
    let parts := bases ++ (← keywordTexts false keywords)
    let body ← documented body
    let head := if parts.isEmpty then "class " ++ name else s!"class {name}({commas parts})"
    return "" :: decorators ++ block head body
  | .give value => do return ["return" ++ (← optional false " " value)]
  | .delete targets => do return ["del " ++ commas (← exprs false .test targets)]
  | .assign targets value => do
    let targets ← exprs false .tuple targets
    let value ← expr false .test value
    return [" = ".intercalate (targets ++ [value])]
  | .augment target op value => do
    let target ← expr false .test target
    return [s!"{target} {op.text}= " ++ (← expr false .test value)]
  | .declare target plain type value => do
    let isName := match target with
      | .name _ => true
      | _ => false
    let target ← expr false .test target
    let type ← expr false .test type
    let value ← optional false " = " value
    return [brackets (isName && !plain) target ++ ": " ++ type ++ value]
  | .each isAsync target source body otherwise => do
    let target ← expr false .tuple target
    let source ← expr false .test source
    let body ← statements body
    let otherwise ← statements otherwise
    return block s!"{asyncWord isAsync}for {target} in {source}" body ++ tail "else" otherwise
  | .loop test body otherwise => do
    let test ← expr false .test test
    let body ← statements body
    let otherwise ← statements otherwise
    return block ("while " ++ test) body ++ tail "else" otherwise
  | .branch test body otherwise => do
    let test ← expr false .test test
    let body ← statements body
    let rest ← statements otherwise
    return block ("if " ++ test) body ++
      if isBranch otherwise then joinBranch rest else tail "else" rest
  | .within isAsync items body => do
    let items ← withinItems items
    return block (asyncWord isAsync ++ "with " ++ commas items) (← statements body)
  | .select subject cases => do
    let subject ← expr false .test subject
    return block ("match " ++ subject) (← caseLines cases)
  | .fail fault cause => do
    let fault ← optional false " " fault
    return ["raise" ++ fault ++ (← optional false " from " cause)]
  | .guard isGroup body handlers otherwise final => do
    let body ← statements body
    let handlers ← handlerLines (if isGroup then "except*" else "except") handlers
    let otherwise ← statements otherwise
    let final ← statements final
    return block "try" body ++ handlers ++ tail "else" otherwise ++ tail "finally" final
  | .assert test message => do
    let test ← expr false .test test
    return ["assert " ++ test ++ (← optional false ", " message)]
  | .load names => pure ["import " ++ aliasTexts names]
  | .loadFrom module names level => do
    let dots := String.ofList (List.replicate level '.')
    let empty := ""
    return [s!"from {dots}{module.getD empty} import {aliasTexts names}"]
  | .global names => pure ["global " ++ commas names]
  | .nonlocal names => pure ["nonlocal " ++ commas names]
  | .expression e => do return [← expr false .yield e]
  | .pass => pure ["pass"]
  | .leave => pure ["break"]
  | .next => pure ["continue"]

def statements : List Statement → Except Fault (List String)
  | [] => pure []
  | s :: rest => do
    let first ← statement s
    return first ++ (← statements rest)

def documented : List Statement → Except Fault (List String)
  | [] => pure []
  | s :: rest => do
    let first ← match documentation? s with
      | some text => pure [text]
      | none => statement s
    return first ++ (← statements rest)

def caseLines : List Case → Except Fault (List String)
  | [] => pure []
  | .mk p condition body :: rest => do
    let p ← pattern .test p
    let condition ← optional false " if " condition
    let body ← statements body
    return block ("case " ++ p ++ condition) body ++ (← caseLines rest)

def handlerLines (word : String) : List Handler → Except Fault (List String)
  | [] => pure []
  | .mk type name body :: rest => do
    let type ← optional false " " type
    let head := word ++ type ++ (name.map (" as " ++ ·)).getD ""
    let body ← statements body
    return block head body ++ (← handlerLines word rest)

end

end Printer

def Module.text (m : Module) : Except Fault String := do
  let lines ← Printer.documented m
  let lines := if lines.head? == some "" then lines.tail else lines
  return "\n".intercalate lines

end CallSnapshot.Source
