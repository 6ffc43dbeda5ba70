import CallSnapshot.Number.Binary64
import CallSnapshot.Text.Digit

/-! Reading integers and binary fractions from text. -/

namespace CallSnapshot.Numeral

open Text

-- Powers are those of the core library, whatever is imported beside this module.
attribute [local instance (high)] instPowNat

/-- The longest run of digits that is converted between integers and decimal text. -/
def digitLimit : Nat := 4300

inductive IntError where
  | malformed
  | tooLong (digits : Nat)
  deriving DecidableEq, Repr

def digitIn (base : Nat) (c : Char) : Option Nat :=
  let v :=
    if c.isDigit then c.toNat - '0'.toNat
    else if c.isLower then c.toNat - 'a'.toNat + 10
    else if c.isUpper then c.toNat - 'A'.toNat + 10
    else base
  if v < base then some v else none

/-- Reads digits with single underscores between them: the digits read, most significant first,
and the rest. None where an underscore has no digit after it. -/
def takeDigits (base : Nat) : List Char → Option (List Nat × List Char)
  | [] => some ([], [])
  | '_' :: c :: cs =>
    match digitIn base c with
    | some d => (takeDigits base cs).map fun (ds, rest) => (d :: ds, rest)
    | none => none
  | ['_'] => none
  | c :: cs =>
    match digitIn base c with
    | some d => (takeDigits base cs).map fun (ds, rest) => (d :: ds, rest)
    | none => some ([], c :: cs)

def ofDigits (base : Nat) (ds : List Nat) : Nat := ds.foldl (fun n d => base * n + d) 0

def splitSign : List Char → Bool × List Char
  | '-' :: cs => (true, cs)
  | '+' :: cs => (false, cs)
  | cs => (false, cs)

def dropMarker (base : Nat) : List Char → List Char
  | '0' :: x :: '_' :: cs => if base == 16 && (x == 'x' || x == 'X') then cs else '0' :: x :: '_' :: cs
  | '0' :: x :: cs => if base == 16 && (x == 'x' || x == 'X') then cs else '0' :: x :: cs
  | cs => cs

def readInt (base : Nat) (s : String) : Except IntError Int :=
  let (negative, cs) := splitSign (trimNumeral (toNumeral s))
  let cs := dropMarker base cs
  match cs with
  | '_' :: _ => .error .malformed
  | _ =>
    match takeDigits base cs with
    | none => .error .malformed
    | some (ds, rest) =>
      if base == 10 && digitLimit < ds.length then .error (.tooLong ds.length)
      else if ds.isEmpty || !rest.isEmpty then .error .malformed
      else
        let n : Int := ofDigits base ds
        .ok (if negative then -n else n)

/-- The number nearest to `digits * 10 ^ exponent`. Exponents far outside the range are not expanded. -/
def scale (negative : Bool) (digits : Nat) (exponent : Int) : Binary64 :=
  if digits = 0 then .finite negative 0 0
  else
    let size : Int := (digits.log2 : Int) * 30103 / 100000 + exponent
    if 400 < size then .infinity negative
    else if size < -400 then .finite negative 0 0
    else if 0 ≤ exponent then Binary64.ofRatio negative (digits * 10 ^ exponent.toNat) 1
    else Binary64.ofRatio negative digits (10 ^ (-exponent).toNat)

/-- Underscores go where a digit stands on both sides; none where one stands elsewhere. -/
def dropUnderscores (before : Char) : List Char → Option (List Char)
  | [] => some []
  | '_' :: c :: cs =>
    if before.isDigit && c.isDigit then (dropUnderscores c cs).map (c :: ·) else none
  | ['_'] => none
  | c :: cs => (dropUnderscores c cs).map (c :: ·)

/-- A plain exponent behind its `e`; the text before it has been read. -/
def readExponent : List Char → Option Int
  | [] => some 0
  | e :: cs =>
    if e == 'e' || e == 'E' then
      let (negative, cs) := splitSign cs
      if cs.isEmpty || !cs.all Char.isDigit then none
      else
        let n : Int := ofDigits 10 (cs.map fun c => c.toNat - '0'.toNat)
        some (if negative then -n else n)
    else none

def readDecimalParts (cs : List Char) : Option (List Nat × Int) :=
  let value := fun (c : Char) => c.toNat - '0'.toNat
  let whole := cs.takeWhile Char.isDigit
  let rest := cs.dropWhile Char.isDigit
  let (part, rest) := match rest with
    | '.' :: r => (r.takeWhile Char.isDigit, r.dropWhile Char.isDigit)
    | r => ([], r)
  if whole.isEmpty && part.isEmpty then none
  else (readExponent rest).map fun e => ((whole ++ part).map value, e - part.length)

def lowered (cs : List Char) : String := String.ofList (cs.map Char.toLower)

def readBinary (s : String) : Option Binary64 := do
  let cs ← dropUnderscores ' ' (trimNumeral (toNumeral s))
  let (negative, cs) := splitSign cs
  match lowered cs with
  | "inf" | "infinity" => some (.infinity negative)
  | "nan" => some .nan
  | _ =>
    let (ds, e) ← readDecimalParts cs
    some (scale negative (ofDigits 10 ds) e)

end CallSnapshot.Numeral
