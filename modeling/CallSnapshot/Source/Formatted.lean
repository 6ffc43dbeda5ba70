import CallSnapshot.Source.Escape

/-! Formatted texts: literal text with expressions in braces. -/

namespace CallSnapshot.Source.Formatted

/-- Texts side by side become one, empty ones are dropped. -/
def join : List Piece → List Piece
  | [] => []
  | .text s :: rest =>
    match join rest with
    | .text t :: more => if s.isEmpty then .text t :: more else .text (s ++ t) :: more
    | more => if s.isEmpty then more else .text s :: more
  | piece :: rest => piece :: join rest

/-- The text before the next expression: its characters, what follows, and whether it ends with a
doubled brace, which stands for one. Braces within a format are never doubled. -/
def literal (raw nested : Bool) : (fuel : Nat) → (seen : List Char) → List Char →
    Option (List Char × List Char × Bool)
  | 0, _, _ => none
  | _, seen, [] => some (seen.reverse, [], false)
  | fuel + 1, seen, c :: rest =>
    if !raw && c == '\\' then
      match rest with
      | 'N' :: '\x7b' :: name =>
        let inner := name.takeWhile (· != '\x7d')
        let after := name.drop inner.length
        literal raw nested fuel ((after.take 1).reverse ++ inner.reverse ++ '\x7b' :: 'N' :: c :: seen)
          (after.drop 1)
      | e :: more =>
        if e == '\x7b' || e == '\x7d' then brace (c :: seen) e more
        else literal raw nested fuel (e :: c :: seen) more
      | [] => some ((c :: seen).reverse, [], false)
    else if c == '\x7b' || c == '\x7d' then brace seen c rest
    else literal raw nested fuel (c :: seen) rest
where
  brace (seen : List Char) (c : Char) (rest : List Char) : Option (List Char × List Char × Bool) :=
    if nested then some (seen.reverse, c :: rest, false)
    else if rest.head? == some c then some ((c :: seen).reverse, rest.tail, true)
    else if c == '\x7d' then none
    else some (seen.reverse, c :: rest, false)

/-- Up to where an expression reaches: to a `!`, `:`, `=` or closing brace outside brackets and
quotes that is no part of a comparison. -/
def expressionText : (fuel : Nat) → (quote : Option (Char × Bool)) → (brackets : List Char) →
    (seen : List Char) → List Char → Option (List Char × List Char)
  | 0, _, _, _, _ => none
  | _, _, _, _, [] => none
  | fuel + 1, quote, brackets, seen, c :: rest =>
    if c == '\\' then none
    else
      let tripled := match rest with
        | a :: b :: _ => a == c && b == c
        | _ => false
      match quote with
      | some (q, long) =>
        if c != q then expressionText fuel quote brackets (c :: seen) rest
        else if !long then expressionText fuel none brackets (c :: seen) rest
        else if tripled then expressionText fuel none brackets (c :: c :: c :: seen) (rest.drop 2)
        else expressionText fuel quote brackets (c :: seen) rest
      | none =>
        if c == '\'' || c == '"' then
          if tripled then
            expressionText fuel (some (c, true)) brackets (c :: c :: c :: seen) (rest.drop 2)
          else expressionText fuel (some (c, false)) brackets (c :: seen) rest
        else if c == '(' || c == '[' || c == '\x7b' then
          if Scan.bracketLimit ≤ brackets.length then none
          else expressionText fuel none (c :: brackets) (c :: seen) rest
        else if c == '#' then none
        else if brackets.isEmpty && "!:\x7d=<>".toList.contains c then
          if "!=<>".toList.contains c && rest.head? == some '=' then
            expressionText fuel none brackets ('=' :: c :: seen) rest.tail
          else if c == '<' || c == '>' then expressionText fuel none brackets (c :: seen) rest
          else some (seen.reverse, c :: rest)
        else if c == ')' || c == ']' || c == '\x7d' then
          match brackets with
          | opening :: outer =>
            if Scan.closes opening c then expressionText fuel none outer (c :: seen) rest else none
          | [] => none
        else expressionText fuel none brackets (c :: seen) rest

def isLayout (c : Char) : Bool := c == ' ' || c == '\t' || c == '\n' || c == '\x0c'

/-- The blanks that an equals sign takes along. -/
def isTrailing (c : Char) : Bool := isLayout c || c == '\x0b' || c == '\r'

/-- An `=` with the blanks behind it, if there is one. -/
def equalsSign (cs : List Char) : List Char × List Char :=
  match cs with
  | '=' :: rest => ('=' :: rest.takeWhile isTrailing, rest.dropWhile isTrailing)
  | cs => ([], cs)

/-- A conversion behind a `!`, if there is one. -/
def conversion (cs : List Char) : Option (Option Char × List Char) :=
  match cs with
  | '!' :: c :: rest => if c == 's' || c == 'r' || c == 'a' then some (some c, rest) else none
  | ['!'] => none
  | cs => some (none, cs)

/-- Formats within expressions may hold expressions, but no deeper. -/
def depthLimit : Nat := 2

/-- The pieces of a text, or of a format up to its closing brace; `expression` reads what stands
in braces. -/
def pieces (expression : List Char → Option Expr) (raw : Bool) : (fuel : Nat) → (depth : Nat) →
    List Char → Option (List Piece × List Char)
  | 0, _, _ => none
  | fuel + 1, depth, cs => do
    let (text, cs, doubled) ← literal raw (0 < depth) (cs.length + 1) [] cs
    let piece := Piece.text (String.ofList (← Escape.text raw text))
    match doubled, cs with
    | false, '\x7b' :: rest =>
      let (source, rest) ← expressionText (rest.length + 1) none [] [] rest
      if depthLimit ≤ depth || source.all isLayout then none
      else
        let value ← expression source
        let (sign, rest) := equalsSign rest
        let shown := if sign.isEmpty then "" else String.ofList (source ++ sign)
        let (conversion, rest) ← conversion rest
        let (format, rest) ← match rest with
          | ':' :: spec => do
            let (format, rest) ← pieces expression raw fuel (depth + 1) spec
            some (some (join format), rest)
          | rest => some (none, rest)
        match rest with
        | '\x7d' :: rest =>
          let conversion := if sign.isEmpty || format.isSome || conversion.isSome then conversion
            else some 'r'
          let (more, cs) ← pieces expression raw fuel depth rest
          some (piece :: .text shown :: .value value conversion format :: more, cs)
        | _ => none
    | false, cs => some ([piece], cs)
    | true, cs =>
      let (more, cs) ← pieces expression raw fuel depth cs
      some (piece :: more, cs)

def read (expression : List Char → Option Expr) (raw : Bool) (cs : List Char) :
    Option (List Piece) := do
  let (found, rest) ← pieces expression raw (cs.length + 1) 0 cs
  if rest.isEmpty then some (join found) else none

end CallSnapshot.Source.Formatted
