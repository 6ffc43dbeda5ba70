import CallSnapshot.Text.Quoted
import CallSnapshot.Time.Iso
import CallSnapshot.Value.Equality

/-! The text of a value as a report shows it. Small integers in a set stand in ascending order. -/

namespace CallSnapshot.Value

def intText (n : Int) : String := toString n

def commas (parts : List String) : String := ", ".intercalate parts

/-- A clock time as the arguments that build it: seconds and microseconds only where needed. -/
def clockArguments (t : ClockTime) : List String :=
  [toString t.hour, toString t.minute] ++
    (if t.second == 0 && t.micro == 0 then [] else [toString t.second]) ++
    (if t.micro == 0 then [] else [toString t.micro])

def durationParts (d : Duration) : List String :=
  let part := fun (name : String) (n : Int) => if n == 0 then [] else [s!"{name}={n}"]
  part "days" d.days ++ part "seconds" d.seconds ++ part "microseconds" d.remainder

def durationDisplay (d : Duration) : String :=
  let parts := durationParts d
  let zero := "0"
  s!"datetime.timedelta({if parts.isEmpty then zero else commas parts})"

def offsetDisplay (offset : Int) : String :=
  if offset == 0 then "datetime.timezone.utc"
  else s!"datetime.timezone({durationDisplay ⟨offset⟩})"

def zoneArgument (offset : Option Int) : List String :=
  offset.elim [] fun o => [s!"tzinfo={offsetDisplay o}"]

def dateArguments (d : Date) : List String := [toString d.year, toString d.month, toString d.day]

def timeDisplay (t : ClockTime) : String :=
  s!"datetime.time({commas (clockArguments t ++ zoneArgument t.offset)})"

def datetimeDisplay (m : DateTime) : String :=
  let parts := dateArguments m.date ++ clockArguments m.time ++ zoneArgument m.time.offset
  s!"datetime.datetime({commas parts})"

/-- A complex number in brackets, or its imaginary part alone where the real part is zero. -/
def complexText (re im : Binary64) : String :=
  let imaginary := im.render false ++ "j"
  if re.isZero && !re.isNegative then imaginary
  else "(" ++ re.render false ++ (if im.isNegative then "" else "+") ++ imaginary ++ ")"

def insertInt (n : Int) : List Int → List Int
  | [] => [n]
  | m :: ms => if n ≤ m then n :: m :: ms else m :: insertInt n ms

/-- The items of a set in the order in which they are shown. -/
def shownItems (items : List Value) (texts : List String) : List String :=
  let ints := items.filterMap fun
    | .int n => some n
    | _ => none
  if ints.length == items.length then (ints.foldr insertInt []).map intText else texts

def setText (opening closing empty : String) (texts : List String) : String :=
  if texts.isEmpty then empty else opening ++ commas texts ++ closing

def tupleText (texts : List String) : String :=
  match texts with
  | [t] => s!"({t},)"
  | ts => s!"({commas ts})"

def braces (body : String) : String := "\x7b" ++ body ++ "\x7d"

/-- A member of an enumeration, or a union of flags, by name and value. -/
def memberText (cls : Qualified) (name : Option String) (value : String) : String :=
  match name with
  | some n => s!"<{cls.lastName}.{n}: {value}>"
  | none => s!"<{cls.lastName}: {value}>"

mutual

def display (v : Value) : String :=
  match v with
  | .null => "None"
  | .bool b => if b then "True" else "False"
  | .int n => intText n
  | .float x => x.text
  | .str s => Text.quoted s
  | .bytes bs => Text.quotedBytes bs
  | .date d => s!"datetime.date({commas (dateArguments d)})"
  | .time t => timeDisplay t
  | .datetime m => datetimeDisplay m
  | .duration d => durationDisplay d
  | .decimal d => s!"Decimal('{d.text}')"
  | .complex re im => complexText re im
  | .uuid u => s!"UUID('{u.text}')"
  | .path p => s!"PosixPath({Text.quoted p.text})"
  | .list items => s!"[{commas (displayItems items)}]"
  | .tuple items => tupleText (displayItems items)
  | .set items => setText "\x7b" "\x7d" "set()" (shownItems items (displayItems items))
  | .frozenset items =>
    setText "frozenset(\x7b" "\x7d)" "frozenset()" (shownItems items (displayItems items))
  | .dict entries => braces (commas (displayEntries entries))
  | .extended kind v =>
    match kind with
    | .subclass _ => display v
    | .mutableBytes => s!"bytearray({display v})"
    | .orderedDict =>
      match v with
      | .dict [] => "OrderedDict()"
      | .dict entries => s!"OrderedDict([{commas (displayPairs entries)}])"
      | v => display v
    | .counter =>
      match v with
      | .dict [] => "Counter()"
      | v => s!"Counter({display v})"
    | .namedTuple q fields =>
      match v with
      | .tuple items =>
        let parts := (fields.zip (displayItems items)).map fun (n, t) => n ++ "=" ++ t
        s!"{q.lastName}({commas parts})"
      | v => display v
  | .member cls _ name v => memberText cls name (display v)
  | .object cls attrs =>
    match cls.identity with
    | .ratio =>
      s!"Fraction({commas ((displayAttrs attrs).map Prod.snd)})"
    | .fields _ =>
      match cls.layout with
      | .record fields constants =>
        let shown := displayAttrs attrs
        let supplied := constants.map fun (k, c) => (k, match c with
          | .none => "None"
          | .bool b => if b then "True" else "False"
          | .int n => intText n
          | .str s => Text.quoted s)
        let parts := fields.map fun f =>
          f ++ "=" ++ (((shown ++ supplied).find? (·.1 == f)).map Prod.snd).getD ""
        s!"{cls.name.path}({commas parts})"
      | _ =>
        let parts := (displayAttrs attrs).map fun (k, t) => k ++ "=" ++ t
        s!"namespace({commas parts})"
    | .each => s!"<{cls.name.dotted} object>"
  | .type q => s!"<class '{q.dotted}'>"
  | .function q =>
    if q.module == "builtins" then s!"<built-in function {q.path}>" else s!"<function {q.path}>"
  | .method q _ => s!"<bound method {q.path}>"
  | .array element _ items => s!"array([{commas (displayItems items)}], dtype={element})"
  | .scalar element v => s!"np.{element}({display v})"
  | .iterator cls => s!"<{cls.path} object>"
  | .described kind parts =>
    let texts := displayItems parts
    match kind with
    | .range =>
      let texts := match parts with
        | [_, _, .int 1] => texts.take 2
        | _ => texts
      s!"range({commas texts})"
    | .slice => s!"slice({commas texts})"
    | .ellipsis => "Ellipsis"
    | .deque => s!"deque([{commas texts}])"
    | .keysView => s!"dict_keys([{commas texts}])"
    | .awaitable => "<coroutine>"
  | .link _ => "[...]"

def displayItems : List Value → List String
  | [] => []
  | x :: xs => display x :: displayItems xs

def displayEntries : List (Value × Value) → List String
  | [] => []
  | (k, v) :: rest => (display k ++ ": " ++ display v) :: displayEntries rest

def displayPairs : List (Value × Value) → List String
  | [] => []
  | (k, v) :: rest => s!"({display k}, {display v})" :: displayPairs rest

def displayAttrs : List (String × Value) → List (String × String)
  | [] => []
  | (k, v) :: rest => (k, display v) :: displayAttrs rest

end

def pad2 (n : Int) : String := if 0 ≤ n && n < 10 then s!"0{n}" else toString n

/-- A duration by days and a clock time. -/
def durationText (d : Duration) : String :=
  let s := d.seconds
  let clock := s!"{s / 3600}:{pad2 (s / 60 % 60)}:{pad2 (s % 60)}"
  let days := if d.days == 0 then ""
    else s!"{d.days} day" ++ (if d.days.natAbs == 1 then ", " else "s, ")
  let fraction := if d.remainder == 0 then ""
    else "." ++ String.ofList (Binary64.pad 6 (toString d.remainder).toList)
  days ++ clock ++ fraction

/-- A value as a plain text: strings without quotes, dates and the like in their own notation. -/
def plainText : Value → String
  | .str s => s
  | .date d => Iso.dateText d
  | .time t => Iso.timeText t
  | .datetime m => Iso.dateText m.date ++ " " ++ Iso.timeText m.time
  | .duration d => durationText d
  | .decimal d => d.text
  | .uuid u => u.text
  | .path p => p.text
  | .extended (.subclass _) v => v.plainText
  | .member cls mixin name v =>
    match mixin, name with
    | .int, _ => display v
    | _, some n => cls.lastName ++ "." ++ n
    | _, none => s!"{cls.lastName}({display v})"
  | .scalar _ v => v.plainText
  | v =>
    match v.quantity?, v with
    | some (.ratio n d), .object .. => if d == 1 then intText n else s!"{n}/{d}"
    | _, v => display v

mutual

/-- Whether an integer with more digits than are ever written lies in a value. -/
def tooLong (v : Value) : Bool :=
  match v with
  | .int n => Numeral.digitLimit < (Nat.repr n.natAbs).length
  | .list xs => tooLongIn xs
  | .tuple xs => tooLongIn xs
  | .set xs => tooLongIn xs
  | .frozenset xs => tooLongIn xs
  | .dict es => tooLongEntry es
  | .extended _ v => tooLong v
  | .member _ _ _ v => tooLong v
  | .object _ attrs => tooLongAttr attrs
  | .described _ parts => tooLongIn parts
  | _ => false

def tooLongIn : List Value → Bool
  | [] => false
  | x :: xs => tooLong x || tooLongIn xs

def tooLongEntry : List (Value × Value) → Bool
  | [] => false
  | (k, v) :: rest => tooLong k || tooLong v || tooLongEntry rest

def tooLongAttr : List (String × Value) → Bool
  | [] => false
  | (_, v) :: rest => tooLong v || tooLongAttr rest

end

end CallSnapshot.Value
