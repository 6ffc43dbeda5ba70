import CallSnapshot.Fault
import CallSnapshot.Number.Numeral

/-!
Words of a command line. Options may be shortened as long as they stay unambiguous, single-letter
options may share a dash, and a value may follow its option or be joined to it. All that follows a
bare double dash is plain. What comes of a command line is what it sets, or that it is of no use.
-/

namespace CallSnapshot

inductive OptionKind where
  | help
  | flag
  | text
  | integer
  deriving DecidableEq, Repr, Inhabited

structure OptionSpec where
  key : String
  names : List String
  kind : OptionKind
  deriving DecidableEq, Repr, Inhabited

inductive Positional where
  | none
  | target
  /-- The name of a command and all that follows it. -/
  | command
  deriving DecidableEq, Repr, Inhabited

structure Grammar where
  options : List OptionSpec
  positional : Positional
  deriving DecidableEq, Repr, Inhabited

inductive Stop where
  | help
  | misuse
  /-- The value of an option was a bare double dash, which stands for nothing. -/
  | lost
  deriving DecidableEq, Repr, Inhabited

def Stop.code : Stop → Except Fault Nat
  | .help => .ok 0
  | .misuse => .ok 2
  | .lost => .error ⟨.value, "not enough values to unpack (expected 1, got 0)"⟩

inductive Word where
  | plain
  | separator
  | option (spec : Option OptionSpec) (name : String) (value : Option String)
  deriving DecidableEq, Repr, Inhabited

/-- What a command line sets, the plain words it is about, and words that are of no use. -/
structure Arguments where
  values : List (String × String) := []
  words : Option (List String) := none
  unused : List String := []
  deriving DecidableEq, Repr, Inhabited

namespace Arguments

def get? (a : Arguments) (key : String) : Option String :=
  (a.values.reverse.find? (·.1 == key)).map Prod.snd

def has (a : Arguments) (key : String) : Bool := (a.get? key).isSome

def int? (a : Arguments) (key : String) : Option Int :=
  (a.get? key).bind fun s => (Numeral.readInt 10 s).toOption

def target? (a : Arguments) : Option String := a.words.bind List.head?

end Arguments

namespace Grammar

def separator : String := "--"

def helpOption : OptionSpec := ⟨"help", ["-h", "--help"], .help⟩

def named? (g : Grammar) (name : String) : Option OptionSpec :=
  g.options.find? fun o => o.names.contains name

def allNames (g : Grammar) : List (String × OptionSpec) :=
  g.options.flatMap fun o => o.names.map fun n => (n, o)

def splitValue (s : String) : Option (String × String) :=
  let cs := s.toList
  match cs.dropWhile (· != '=') with
  | [] => none
  | _ :: rest => some (String.ofList (cs.takeWhile (· != '=')), String.ofList rest)

def candidates (g : Grammar) (s : String) : List (OptionSpec × String × Option String) :=
  if s.startsWith "--" then
    let (start, value) := match splitValue s with
      | some (n, v) => (n, some v)
      | none => (s, none)
    (g.allNames.filter fun n => n.1.startsWith start).map fun (n, o) => (o, n, value)
  else
    let short := String.ofList (s.toList.take 2)
    g.allNames.filterMap fun (n, o) =>
      if n == short then some (o, n, some (String.ofList (s.toList.drop 2)))
      else if n.startsWith s then some (o, n, none)
      else none

def isDigit (c : Char) : Bool := (Text.digitValue? c).isSome

def isNegative (s : String) : Bool :=
  let cs := s.toList.drop 1
  let whole := cs.takeWhile isDigit
  match cs.drop whole.length with
  | [] => !whole.isEmpty
  | '.' :: part => !part.isEmpty && part.all isDigit
  | _ => false

def classify (g : Grammar) (s : String) : Except Stop Word :=
  if !s.startsWith "-" || s == "-" then .ok .plain
  else
    match g.named? s with
    | some o => .ok (.option (some o) s none)
    | none =>
      let joined := (splitValue s).bind fun (n, v) => (g.named? n).map fun o => (o, n, v)
      match joined with
      | some (o, n, v) => .ok (.option (some o) n (some v))
      | none =>
        match g.candidates s with
        | [(o, n, v)] => .ok (.option (some o) n v)
        | _ :: _ :: _ => .error .misuse
        | [] =>
          if isNegative s || s.toList.contains ' ' then .ok .plain else .ok (.option none s none)

def classifyAll (g : Grammar) : List String → Except Stop (List (Word × String))
  | [] => .ok []
  | s :: rest =>
    if s == separator then .ok ((.separator, s) :: rest.map fun r => (.plain, r))
    else do .ok ((← g.classify s, s) :: (← g.classifyAll rest))

def apply (a : Arguments) (o : OptionSpec) (value : String) : Except Stop Arguments :=
  let done := { a with values := a.values ++ [(o.key, value)] }
  match o.kind with
  | .help => .error .help
  | .flag => .ok done
  | .text => if value == separator then .error .lost else .ok done
  | .integer =>
    if value == separator then .error .lost
    else
      match Numeral.readInt 10 value with
      | .ok _ => .ok done
      | .error _ => .error .misuse

def takesValue (o : OptionSpec) : Bool := o.kind == .text || o.kind == .integer

/-- The options that share a dash, with the values they have; the last one may still want one. -/
def shared (g : Grammar) (o : OptionSpec) (name : String) (value : Option String) : (fuel : Nat) →
    Except Stop (List (OptionSpec × Option String))
  | 0 => .error .misuse
  | fuel + 1 =>
    match value with
    | none => .ok [(o, none)]
    | some v =>
      if takesValue o then .ok [(o, some v)]
      else
        match name.startsWith "--", v.toList with
        | false, c :: cs =>
          let next := "-" ++ c.toString
          match g.named? next with
          | some p => do
            let rest := if cs.isEmpty then none else some (String.ofList cs)
            .ok ((o, none) :: (← g.shared p next rest fuel))
          | none => .error .misuse
        | _, _ => .error .misuse

/-- Sets options in order; one that lacks its value takes the next word, which has to be plain. -/
def applyAll (a : Arguments) : List (OptionSpec × Option String) → List (Word × String) →
    Except Stop (Arguments × List (Word × String))
  | [], rest => .ok (a, rest)
  | (o, some v) :: more, rest => do applyAll (← apply a o v) more rest
  | (o, none) :: more, rest =>
    if takesValue o then
      match rest with
      | (.plain, v) :: rest => do applyAll (← apply a o v) more rest
      | _ => .error .misuse
    else do applyAll (← apply a o "") more rest

def isOption : Word → Bool
  | .option .. => true
  | _ => false

/-- Plain words at the front, as far as a target takes them, and the rest. -/
def takeTarget (words : List (Word × String)) : List String × List (Word × String) :=
  match words with
  | (.separator, _) :: (.plain, s) :: rest => ([s], rest)
  | (.separator, _) :: rest => ([], rest)
  | (.plain, s) :: (.separator, _) :: rest => ([s], rest)
  | (.plain, s) :: rest => ([s], rest)
  | rest => ([], rest)

def takePlain (g : Grammar) (a : Arguments) (words : List (Word × String)) :
    Arguments × List (Word × String) :=
  let skipped := words.takeWhile fun w => !isOption w.1
  let skip := ({ a with unused := a.unused ++ skipped.map Prod.snd }, words.drop skipped.length)
  if a.words.isSome then skip
  else
    match g.positional with
    | .none => skip
    | .target =>
      let (target, rest) := takeTarget words
      ({ a with words := some target }, rest)
    | .command =>
      if skipped.any fun w => w.1 == .plain then ({ a with words := some (words.map Prod.snd) }, [])
      else skip

def parseFrom (g : Grammar) : (fuel : Nat) → Arguments → List (Word × String) → Except Stop Arguments
  | 0, a, _ => .ok a
  | _, a, [] => .ok a
  | fuel + 1, a, (.option none _ _, s) :: rest => g.parseFrom fuel { a with unused := a.unused ++ [s] } rest
  | fuel + 1, a, (.option (some o) name value, s) :: rest => do
    let options ← g.shared o name value (s.length + 1)
    let (a, rest) ← applyAll a options rest
    g.parseFrom fuel a rest
  | fuel + 1, a, words =>
    let (a, rest) := g.takePlain a words
    g.parseFrom fuel a rest

def parse (g : Grammar) (words : List String) : Except Stop Arguments := do
  g.parseFrom (words.length + 1) {} (← g.classifyAll words)

def parseAll (g : Grammar) (words : List String) : Except Stop Arguments := do
  let a ← g.parse words
  if a.unused.isEmpty then .ok a else .error .misuse

end Grammar

end CallSnapshot
