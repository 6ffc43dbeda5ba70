import CallSnapshot.Number.Numeral
import CallSnapshot.Source.Tree
import CallSnapshot.Text.Identifier
import CallSnapshot.Text.Utf8

/-! Source text as tokens: names, numbers, texts and marks, and the lines and blocks they form. -/

namespace CallSnapshot.Source

structure QuotedText where
  raw : Bool
  bytes : Bool
  formatted : Bool
  /-- A small `u` stands in front. -/
  marked : Bool
  body : List Char
  deriving DecidableEq, Repr

inductive Token where
  | name (id : String)
  | keyword (word : String)
  | number (value : Literal)
  | text (t : QuotedText)
  | mark (m : String)
  | newline
  | indent
  | dedent
  deriving Repr, Inhabited

def keywords : List String := [
  "False", "None", "True", "and", "as", "assert", "async", "await", "break", "class", "continue",
  "def", "del", "elif", "else", "except", "finally", "for", "from", "global", "if", "import", "in",
  "is", "lambda", "nonlocal", "not", "or", "pass", "raise", "return", "try", "while", "with",
  "yield"]

def marks : List String := [
  "...", "**=", "//=", "<<=", ">>=",
  "!=", "%=", "&=", "**", "*=", "+=", "-=", "->", "//", "/=", ":=", "<<", "<=", "<>", "==", ">=",
  ">>", "@=", "^=", "|=",
  "%", "&", "(", ")", "*", "+", ",", "-", ".", "/", ":", ";", "<", "=", ">", "@", "[", "]", "^",
  "\x7b", "|", "\x7d", "~"]

def marksAsChars : List (List Char) := marks.map String.toList

namespace Scan

/-- May begin a name; what lies beyond ASCII is judged with the whole name. -/
def isNameStart (c : Char) : Bool := c.isAlpha || c == '_' || 128 ≤ c.toNat

def isNameChar (c : Char) : Bool := isNameStart c || c.isDigit

/-- Words that may follow a number at once. -/
def followers : List (List Char) :=
  ["and", "else", "for", "if", "in", "is", "or"].map String.toList

def endsNumber (rest : List Char) : Bool :=
  match rest with
  | [] => true
  | c :: _ => !isNameChar c || followers.any fun w => w.isPrefixOf rest

/-- Digits with single underscores between them. -/
def digitRun (isDigit : Char → Bool) : (fuel : Nat) → List Char → Option (List Char × List Char)
  | 0, _ => none
  | fuel + 1, cs =>
    let digits := cs.takeWhile isDigit
    if digits.isEmpty then none
    else
      match cs.drop digits.length with
      | '_' :: rest => do
        let (more, rest) ← digitRun isDigit fuel rest
        some (digits ++ more, rest)
      | rest => some (digits, rest)

/-- A number behind `0x` and the like; an underscore may stand in front of its digits. -/
def basedNumber (base : Nat) (cs : List Char) : Option (Literal × List Char) := do
  let isDigit := fun c => (Numeral.digitIn base c).isSome
  let cs := match cs with
    | '_' :: rest => rest
    | cs => cs
  let (digits, rest) ← digitRun isDigit (cs.length + 1) cs
  if (rest.head?.map Char.isDigit).getD false || !endsNumber rest then none
  else some (.int (Numeral.ofDigits base (digits.filterMap (Numeral.digitIn base))), rest)

def decimalRun (cs : List Char) : Option (List Char × List Char) :=
  digitRun Char.isDigit (cs.length + 1) cs

def pointDigits (cs : List Char) : Option (List Char × List Char) :=
  if (cs.head?.map Char.isDigit).getD false then decimalRun cs else some ([], cs)

/-- An exponent. Text that only begins like one ends the number, if it may. -/
def exponent (cs : List Char) : Option (Option Int × List Char) :=
  match cs with
  | e :: rest =>
    if e == 'e' || e == 'E' then
      let (signed, negative, digits) : Bool × Bool × List Char := match rest with
        | '+' :: ds => (true, false, ds)
        | '-' :: ds => (true, true, ds)
        | ds => (false, false, ds)
      match decimalRun digits with
      | some (ds, rest) =>
        let n : Int := Numeral.ofDigits 10 (ds.filterMap (Numeral.digitIn 10))
        some (some (if negative then -n else n), rest)
      | none =>
        if signed || (digits.head?.map Char.isDigit).getD false || !endsNumber cs then none
        else some (none, cs)
    else some (none, cs)
  | [] => some (none, [])

/-- A decimal number by the digits before its point, the text behind these digits, and whether a
point has been passed. -/
def decimalNumber (whole : List Char) (pointed : Bool) (cs : List Char) :
    Option (Literal × List Char) := do
  let (pointed, cs) := match cs with
    | '.' :: rest => if pointed then (true, cs) else (true, rest)
    | cs => (pointed, cs)
  let (part, cs) ← if pointed then pointDigits cs else some ([], cs)
  let (power, cs) ← exponent cs
  let digits := (whole ++ part).filterMap (Numeral.digitIn 10)
  let value := fun (_ : Unit) =>
    Numeral.scale false (Numeral.ofDigits 10 digits) (power.getD 0 - part.length)
  match cs with
  | c :: rest =>
    if c == 'j' || c == 'J' then
      if endsNumber rest then some (.imaginary (value ()), rest) else none
    else if !endsNumber cs then none
    else if pointed || power.isSome then some (.float (value ()), cs)
    else wholeNumber digits cs
  | [] => if pointed || power.isSome then some (.float (value ()), []) else wholeNumber digits []
where
  /-- Zeros may only stand before further zeros; too many digits are refused. -/
  wholeNumber (digits : List Nat) (rest : List Char) : Option (Literal × List Char) :=
    if digits.head? == some 0 then
      if digits.all (· == 0) then some (.int 0, rest) else none
    else if Numeral.digitLimit < digits.length then none
    else some (.int (Numeral.ofDigits 10 digits), rest)

def number (cs : List Char) : Option (Literal × List Char) :=
  match cs with
  | '.' :: rest => decimalNumber [] true rest
  | '0' :: c :: rest =>
    if c == 'x' || c == 'X' then basedNumber 16 rest
    else if c == 'o' || c == 'O' then basedNumber 8 rest
    else if c == 'b' || c == 'B' then basedNumber 2 rest
    else do
      let (whole, rest) ← decimalRun cs
      decimalNumber whole false rest
  | cs => do
    let (whole, rest) ← decimalRun cs
    decimalNumber whole false rest

/-- The letters that may stand before an opening quote, in small letters. -/
def textMarks : List String := ["", "b", "u", "r", "f", "br", "rb", "fr", "rf"]

/-- The letters before a quote, and the text from the quote on. -/
def splitTextMark (cs : List Char) : Option (List Char × List Char) :=
  let letters := (cs.take 3).takeWhile Char.isAlpha
  let rest := cs.drop letters.length
  if (rest.head? == some '"' || rest.head? == some '\'')
      && textMarks.contains (Numeral.lowered letters) then some (letters, rest)
  else none

/-- The characters up to the closing quotes; only a long text goes over line ends. -/
def textBody (quote : Char) (long : Bool) : (fuel : Nat) → (seen : List Char) → List Char →
    Option (List Char × List Char)
  | 0, _, _ => none
  | fuel + 1, seen, cs =>
    match cs with
    | [] => none
    | '\\' :: c :: rest => textBody quote long fuel (c :: '\\' :: seen) rest
    | c :: rest =>
      if c == quote then
        if !long then some (seen.reverse, rest)
        else
          match rest with
          | a :: b :: after =>
            if a == quote && b == quote then some (seen.reverse, after)
            else textBody quote long fuel (c :: seen) rest
          | _ => none
      else if c == '\n' && !long then none
      else textBody quote long fuel (c :: seen) rest

/-- A text by the letters before it and what begins with its opening quote. -/
def quotedText (letters cs : List Char) : Option (QuotedText × List Char) := do
  let (quote, long, body) ← match cs with
    | a :: b :: c :: rest =>
      if a == b && b == c then some (a, true, rest) else some (a, false, b :: c :: rest)
    | a :: rest => some (a, false, rest)
    | [] => none
  let (body, rest) ← textBody quote long (body.length + 1) [] body
  let has := fun c => (Numeral.lowered letters).toList.contains c
  some (⟨has 'r', has 'b', has 'f', letters.head? == some 'u', body⟩, rest)

/-- The width of a line's lead: tabs reach to multiples of eight in one count and are single
blanks in the other; a form feed begins anew. Of a lead that goes on behind a backslash the part
before the first backslash counts, if there is any. -/
structure Lead where
  column : Nat
  other : Nat
  broken : Nat
  rest : List Char

def lead : List Char → Lead → Option Lead
  | '\\' :: '\n' :: [], _ => none
  | '\\' :: '\n' :: rest, l =>
    lead rest { l with broken := if l.broken == 0 then l.column else l.broken, rest := rest }
  | '\\' :: _, _ => none
  | ' ' :: rest, l => lead rest { l with column := l.column + 1, other := l.other + 1, rest := rest }
  | '\t' :: rest, l =>
    lead rest { l with column := (l.column / 8 + 1) * 8, other := l.other + 1, rest := rest }
  | '\x0c' :: rest, l => lead rest { l with column := 0, other := 0, rest := rest }
  | cs, l => some { l with rest := cs }

/-- Where a scan stands: the widths of the open blocks, the innermost first, the open brackets,
and the tokens so far, the last first. -/
structure State where
  widths : List (Nat × Nat)
  brackets : List Char
  tokens : List Token

def State.push (s : State) (t : Token) : State := { s with tokens := t :: s.tokens }

/-- At most this many blocks lie within each other. -/
def blockLimit : Nat := 100

/-- At most this many brackets lie within each other. -/
def bracketLimit : Nat := 200

/-- Closes the blocks wider than a line; the width left must be that of the line. -/
def closeBlocks (width : Nat × Nat) : List (Nat × Nat) → List Token →
    Option (List (Nat × Nat) × List Token)
  | [], tokens => if width == (0, 0) then some ([], tokens) else none
  | w :: widths, tokens =>
    if width.1 < w.1 then closeBlocks width widths (.dedent :: tokens)
    else if w == width then some (w :: widths, tokens)
    else none

/-- Opens or closes blocks for a line of this width. -/
def State.enter (s : State) (width : Nat × Nat) : Option State :=
  let current := s.widths.headD (0, 0)
  if current.1 < width.1 then
    if width.2 ≤ current.2 || blockLimit ≤ s.widths.length + 1 then none
    else some { s with widths := width :: s.widths, tokens := .indent :: s.tokens }
  else do
    let (widths, tokens) ← closeBlocks width s.widths s.tokens
    some { s with widths := widths, tokens := tokens }

def closes (opening closing : Char) : Bool :=
  (opening == '(' && closing == ')') || (opening == '[' && closing == ']') ||
    (opening == '\x7b' && closing == '\x7d')

/-- A mark; brackets are counted. -/
def State.mark (s : State) (m : List Char) : Option State :=
  let pushed := s.push (.mark (String.ofList m))
  match m with
  | [c] =>
    if c == '(' || c == '[' || c == '\x7b' then
      if bracketLimit ≤ s.brackets.length then none
      else some { pushed with brackets := c :: s.brackets }
    else if c == ')' || c == ']' || c == '\x7d' then
      match s.brackets with
      | opening :: rest => if closes opening c then some { pushed with brackets := rest } else none
      | [] => none
    else some pushed
  | _ => some pushed

/-- One token that is no line end, and the text behind it. -/
def token (s : State) (cs : List Char) : Option (State × List Char) :=
  match cs with
  | [] => none
  | c :: rest =>
    match splitTextMark cs with
    | some (letters, cs) => do
      let (t, rest) ← quotedText letters cs
      some (s.push (.text t), rest)
    | none =>
      if isNameStart c then
        let id := String.ofList (cs.takeWhile isNameChar)
        let rest := cs.dropWhile isNameChar
        if keywords.contains id then some (s.push (.keyword id), rest)
        else if Text.isIdentifier id then some (s.push (.name id), rest)
        else none
      else if c.isDigit || (c == '.' && (rest.head?.map Char.isDigit).getD false) then do
        let (value, rest) ← number cs
        some (s.push (.number value), rest)
      else do
        let m ← marksAsChars.find? fun m => m.isPrefixOf cs
        some (← s.mark m, cs.drop m.length)

/-- Scans from the lead of a line (`fresh`) or from within one. -/
def run : (fuel : Nat) → (fresh : Bool) → State → List Char → Option State
  | 0, _, _, _ => none
  | fuel + 1, true, s, cs =>
    match lead cs ⟨0, 0, 0, cs⟩ with
    | none => none
    | some l =>
      match l.rest with
      | '\n' :: rest => run fuel true s rest
      | '#' :: rest => run fuel true s (rest.dropWhile (· != '\n')).tail
      | rest =>
        if s.brackets.isEmpty then
          let width := if l.broken == 0 then (l.column, l.other) else (l.broken, l.broken)
          match s.enter width with
          | none => none
          | some s => run fuel false s rest
        else run fuel false s rest
  | fuel + 1, false, s, cs =>
    match cs.dropWhile fun c => c == ' ' || c == '\t' || c == '\x0c' with
    | [] => if s.brackets.isEmpty then some s else none
    | '#' :: rest => run fuel false s (rest.dropWhile (· != '\n'))
    | '\n' :: rest =>
      if s.brackets.isEmpty then run fuel true (s.push .newline) rest else run fuel true s rest
    | '\\' :: '\n' :: rest => if rest.isEmpty then none else run fuel false s rest
    | cs =>
      match token s cs with
      | none => none
      | some (s, rest) => run fuel false s rest

end Scan

/-- A final line end is supplied where there is none. -/
def closeLine (cs : List Char) : List Char :=
  if cs.getLast? == some '\n' then cs else cs ++ ['\n']

/-- The tokens of a source text, or nothing where it has none. -/
def tokens? (source : List Char) : Option (List Token) := do
  let cs := closeLine (Text.unifyLineEnds source)
  let s ← Scan.run (2 * cs.length + 2) true ⟨[], [], []⟩ cs
  some s.tokens.reverse

end CallSnapshot.Source
