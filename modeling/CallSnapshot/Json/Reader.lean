import CallSnapshot.Fault
import CallSnapshot.Json.Basic
import CallSnapshot.Number.Numeral

/-!
Reading JSON text. Beyond the standard it takes `NaN` and the infinities; a key that comes again
keeps its first place and takes its last value. A fault says where in the text it lies.
-/

namespace CallSnapshot.Json

inductive Complaint where
  | value
  | propertyName
  | colon
  | comma
  | unterminated
  | control
  | escape
  | unicodeEscape
  | extra
  | byteOrderMark
  deriving DecidableEq, Repr

def Complaint.text : Complaint → String
  | .value => "Expecting value"
  | .propertyName => "Expecting property name enclosed in double quotes"
  | .colon => "Expecting ':' delimiter"
  | .comma => "Expecting ',' delimiter"
  | .unterminated => "Unterminated string starting at"
  | .control => "Invalid control character at"
  | .escape => "Invalid \\escape"
  | .unicodeEscape => "Invalid \\uXXXX escape"
  | .extra => "Extra data"
  | .byteOrderMark => "Unexpected UTF-8 BOM (decode using utf-8-sig)"

/-- A complaint about the place where this many characters are left, or an integer too long. -/
inductive ReadError where
  | bad (complaint : Complaint) (left : Nat)
  | tooLong (digits : Nat)
  deriving DecidableEq, Repr

/-- Line, column and offset of a place; lines end at line feeds, lines and columns count from one. -/
structure Place where
  line : Nat
  column : Nat
  offset : Nat
  deriving DecidableEq, Repr

def placeAfter (before : List Char) : Place :=
  ⟨before.count '\n' + 1, (before.reverse.takeWhile (· != '\n')).length + 1, before.length⟩

def tooLongText (digits : Nat) : String :=
  s!"Exceeds the limit (4300 digits) for integer string conversion: value has {digits} digits; " ++
    "use sys.set_int_max_str_digits() to increase the limit"

def ReadError.fault (text : List Char) : ReadError → Fault
  | .bad complaint left =>
    let p := placeAfter (text.take (text.length - left))
    ⟨.json, s!"{complaint.text}: line {p.line} column {p.column} (char {p.offset})"⟩
  | .tooLong digits => ⟨.value, tooLongText digits⟩

def isSpace (c : Char) : Bool := c == ' ' || c == '\t' || c == '\n' || c == '\r'

def skip (cs : List Char) : List Char := cs.dropWhile isSpace

def hexValue? (c : Char) : Option Nat := Numeral.digitIn 16 c

def hexFour? : List Char → Option Nat
  | [a, b, c, d] => do
    some ((((← hexValue? a) * 16 + (← hexValue? b)) * 16 + (← hexValue? c)) * 16 + (← hexValue? d))
  | _ => none

def escaped? : Char → Option Char
  | '"' => some '"'
  | '\\' => some '\\'
  | '/' => some '/'
  | 'b' => some '\x08'
  | 'f' => some '\x0c'
  | 'n' => some '\n'
  | 'r' => some '\r'
  | 't' => some '\t'
  | _ => none

def isHighSurrogate (n : Nat) : Bool := 0xd800 ≤ n && n < 0xdc00

def isLowSurrogate (n : Nat) : Bool := 0xdc00 ≤ n && n < 0xe000

/-- The character behind `\u`, which a second escape may complete; at least one character has to
follow the four digits. -/
def unicodeEscape (cs : List Char) : Except ReadError (Char × List Char) :=
  if cs.length ≤ 4 then .error (.bad .unicodeEscape (cs.length + 1))
  else
    match hexFour? (cs.take 4) with
    | none => .error (.bad .unicodeEscape (cs.length + 1))
    | some high =>
      let rest := cs.drop 4
      match rest with
      | '\\' :: 'u' :: low =>
        if isHighSurrogate high && 4 < low.length then
          match hexFour? (low.take 4) with
          | none => .error (.bad .unicodeEscape (low.length + 1))
          | some n =>
            if isLowSurrogate n then
              .ok (Char.ofNat (0x10000 + (high - 0xd800) * 0x400 + (n - 0xdc00)), low.drop 4)
            else .ok (Char.ofNat high, rest)
        else .ok (Char.ofNat high, rest)
      | _ => .ok (Char.ofNat high, rest)

/-- The characters of a string up to its closing quote; `opening` characters were left at the
opening one. `fuel` bounds the characters. -/
def stringBody (opening : Nat) : (fuel : Nat) → List Char → Except ReadError (List Char × List Char)
  | 0, _ => .error (.bad .unterminated opening)
  | _, [] => .error (.bad .unterminated opening)
  | _, '"' :: rest => .ok ([], rest)
  | fuel + 1, '\\' :: rest =>
    match rest with
    | [] => .error (.bad .unterminated opening)
    | 'u' :: digits => do
      let (c, rest) ← unicodeEscape digits
      let (cs, rest) ← stringBody opening fuel rest
      .ok (c :: cs, rest)
    | e :: more =>
      match escaped? e with
      | none => .error (.bad .escape (rest.length + 1))
      | some c => do
        let (cs, rest) ← stringBody opening fuel more
        .ok (c :: cs, rest)
  | fuel + 1, c :: rest =>
    if c.toNat < 0x20 then .error (.bad .control (rest.length + 1))
    else do
      let (cs, rest) ← stringBody opening fuel rest
      .ok (c :: cs, rest)

def readString (cs : List Char) : Except ReadError (String × List Char) := do
  let (body, rest) ← stringBody (cs.length + 1) (cs.length + 1) cs
  .ok (String.ofList body, rest)

/-- The part of a number before a point or an exponent: no zero stands before another digit. -/
def wholePart : List Char → Option (List Char × List Char)
  | '0' :: rest => some (['0'], rest)
  | c :: rest =>
    if c.isDigit then some (c :: rest.takeWhile Char.isDigit, rest.dropWhile Char.isDigit) else none
  | [] => none

def fractionPart : List Char → List Char × List Char
  | '.' :: c :: rest =>
    if c.isDigit then (c :: rest.takeWhile Char.isDigit, rest.dropWhile Char.isDigit)
    else ([], '.' :: c :: rest)
  | cs => ([], cs)

def exponentPart (cs : List Char) : Option Int × List Char :=
  match cs with
  | e :: rest =>
    if e == 'e' || e == 'E' then
      let (negative, rest) := Numeral.splitSign rest
      let ds := rest.takeWhile Char.isDigit
      if ds.isEmpty then (none, cs)
      else
        let n : Int := Numeral.ofDigits 10 (ds.map fun c => c.toNat - '0'.toNat)
        (some (if negative then -n else n), rest.dropWhile Char.isDigit)
    else (none, cs)
  | [] => (none, [])

def digitsValue (cs : List Char) : Nat := Numeral.ofDigits 10 (cs.map fun c => c.toNat - '0'.toNat)

def readNumber (cs : List Char) : Except ReadError (Json × List Char) :=
  let (negative, body) := match cs with
    | '-' :: rest => (true, rest)
    | cs => (false, cs)
  match wholePart body with
  | none => .error (.bad .value cs.length)
  | some (whole, rest) =>
    let (part, rest) := fractionPart rest
    let (exponent, rest) := exponentPart rest
    if part.isEmpty && exponent.isNone then
      if Numeral.digitLimit < whole.length then .error (.tooLong whole.length)
      else
        let n : Int := digitsValue whole
        .ok (.int (if negative then -n else n), rest)
    else
      let x := Numeral.scale negative (digitsValue (whole ++ part)) (exponent.getD 0 - part.length)
      .ok (.float x, rest)

def words : List (String × Json) := [
  ("null", .null), ("true", .bool true), ("false", .bool false), ("NaN", .float .nan),
  ("Infinity", .float (.infinity false)), ("-Infinity", .float (.infinity true))]

def dropWord? : (word : List Char) → List Char → Option (List Char)
  | [], cs => some cs
  | w :: ws, c :: cs => if w == c then dropWord? ws cs else none
  | _ :: _, [] => none

def readWord? (cs : List Char) : Option (Json × List Char) :=
  words.findSome? fun (w, v) => (dropWord? w.toList cs).map (v, ·)

mutual

def readValue : (fuel : Nat) → List Char → Except ReadError (Json × List Char)
  | 0, cs => .error (.bad .value cs.length)
  | fuel + 1, cs =>
    match cs with
    | [] => .error (.bad .value 0)
    | '"' :: rest => do
      let (s, rest) ← readString rest
      .ok (.str s, rest)
    | '[' :: rest =>
      match skip rest with
      | ']' :: rest => .ok (.arr [], rest)
      | rest => do
        let (items, rest) ← readItems fuel rest
        .ok (.arr items, rest)
    | '\x7b' :: rest =>
      match skip rest with
      | '\x7d' :: rest => .ok (.obj [], rest)
      | rest => do
        let (members, rest) ← readMembers fuel rest
        .ok (.obj (merge members), rest)
    | cs =>
      match readWord? cs with
      | some found => .ok found
      | none => readNumber cs

def readItems : (fuel : Nat) → List Char → Except ReadError (List Json × List Char)
  | 0, cs => .error (.bad .value cs.length)
  | fuel + 1, cs => do
    let (item, rest) ← readValue fuel cs
    match skip rest with
    | ']' :: rest => .ok ([item], rest)
    | ',' :: rest => do
      let (items, rest) ← readItems fuel (skip rest)
      .ok (item :: items, rest)
    | rest => .error (.bad .comma rest.length)

def readMembers : (fuel : Nat) → List Char → Except ReadError (List (String × Json) × List Char)
  | 0, cs => .error (.bad .value cs.length)
  | fuel + 1, cs =>
    match cs with
    | '"' :: rest => do
      let (key, rest) ← readString rest
      match skip rest with
      | ':' :: rest => do
        let (value, rest) ← readValue fuel (skip rest)
        match skip rest with
        | '\x7d' :: rest => .ok ([(key, value)], rest)
        | ',' :: rest => do
          let (members, rest) ← readMembers fuel (skip rest)
          .ok ((key, value) :: members, rest)
        | rest => .error (.bad .comma rest.length)
      | rest => .error (.bad .colon rest.length)
    | cs => .error (.bad .propertyName cs.length)

end

def readText (cs : List Char) : Except ReadError Json :=
  match cs with
  | '\uFEFF' :: _ => .error (.bad .byteOrderMark cs.length)
  | _ => do
    let (value, rest) ← readValue (2 * cs.length + 2) (skip cs)
    match skip rest with
    | [] => .ok value
    | rest => .error (.bad .extra rest.length)

def parse (text : String) : Except Fault Json :=
  (readText text.toList).mapError (ReadError.fault text.toList)

end CallSnapshot.Json
