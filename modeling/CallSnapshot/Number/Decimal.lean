import CallSnapshot.Number.Numeral
import CallSnapshot.Number.Shortest

/-!
Decimal fractions of any length: a signed integer times a power of ten, the infinities, and quiet
and signalling marks for what is no number. Two written forms of one number stay apart, as in
`1.0` and `1.00`, and are equal in value.
-/

namespace CallSnapshot

inductive Decimal where
  | finite (negative : Bool) (digits : Nat) (exponent : Int)
  | infinity (negative : Bool)
  | nan (negative : Bool) (signalling : Bool) (payload : Nat)
  deriving DecidableEq, Repr, Inhabited

namespace Decimal

-- Powers are those of the core library, whatever is imported beside this module.
attribute [local instance (high)] instPowNat

/-- The bounds between which the exponents of leading and last digits lie. -/
def highestExponent : Int := 999999999999999999

def lowestExponent : Int := -1999999999999999997

def digitCount (n : Nat) : Nat := (Nat.repr n).length

def leading (digits : Nat) (exponent : Int) : Int := exponent + digitCount digits - 1

def bounded? (negative : Bool) (digits : Nat) (exponent : Int) : Option Decimal :=
  if leading digits exponent ≤ highestExponent && lowestExponent ≤ exponent then
    some (.finite negative digits exponent)
  else none

def ofInt (n : Int) : Decimal := .finite (n < 0) n.natAbs 0

def ofBinary : Binary64 → Decimal
  | .nan => .nan false false 0
  | .infinity s => .infinity s
  | .finite s m e => if 0 ≤ e then .finite s (m * 2 ^ e.toNat) 0 else .finite s (m * 5 ^ (-e).toNat) e

/-- The digits behind a mark for what is no number. -/
def payload? (cs : List Char) : Option Nat :=
  if cs.all Char.isDigit then some (Numeral.ofDigits 10 (cs.map fun c => c.toNat - '0'.toNat))
  else none

/-- Underscores are dropped wherever they stand; digits of all scripts count. -/
def plain (s : String) : List Char :=
  (Text.toNumeral (Text.trim s)).filter (· != '_')

def parse? (s : String) : Option Decimal :=
  let (negative, cs) := Numeral.splitSign (plain s)
  let name := Numeral.lowered cs
  if name == "inf" || name == "infinity" then some (.infinity negative)
  else
    match name.toList with
    | 'n' :: 'a' :: 'n' :: rest => (payload? rest).map (.nan negative false)
    | 's' :: 'n' :: 'a' :: 'n' :: rest => (payload? rest).map (.nan negative true)
    | _ =>
      match Numeral.readDecimalParts cs with
      | some (ds, e) => bounded? negative (Numeral.ofDigits 10 ds) e
      | none => none

def signText (negative : Bool) : String := if negative then "-" else ""

/-- Positional notation unless the exponent is positive or the number below `10 ^ -6`. -/
def finiteText (digits : Nat) (exponent : Int) : String :=
  let ds := (Nat.repr digits).toList
  let top := leading digits exponent
  if exponent ≤ 0 && -6 ≤ top then
    if exponent == 0 then String.ofList ds
    else
      let k := (-exponent).toNat
      let ds := Binary64.pad (k + 1) ds
      String.ofList (ds.take (ds.length - k) ++ '.' :: ds.drop (ds.length - k))
  else
    let body := match ds with
      | [] => []
      | [d] => [d]
      | d :: rest => d :: '.' :: rest
    String.ofList body ++ "E" ++ (if top < 0 then "-" else "+") ++ Nat.repr top.natAbs

def text : Decimal → String
  | .finite s digits e => signText s ++ finiteText digits e
  | .infinity s => signText s ++ "Infinity"
  | .nan s signalling payload =>
    signText s ++ (if signalling then "sNaN" else "NaN") ++
      (if payload == 0 then "" else Nat.repr payload)

def isSignalling : Decimal → Bool
  | .nan _ s _ => s
  | _ => false

def isNan : Decimal → Bool
  | .nan .. => true
  | _ => false

def dropZeros : (fuel : Nat) → Nat → Int → Nat × Int
  | 0, n, e => (n, e)
  | fuel + 1, n, e => if n % 10 == 0 then dropZeros fuel (n / 10) (e + 1) else (n, e)

/-- Sign, digits without zeros at the end, and exponent: the same for equal numbers. -/
def reduced (negative : Bool) (digits : Nat) (exponent : Int) : Bool × Nat × Int :=
  if digits == 0 then (false, 0, 0)
  else
    let (n, e) := dropZeros (digitCount digits) digits exponent
    (negative, n, e)

def eq : Decimal → Decimal → Bool
  | .finite s m e, .finite t k f => reduced s m e == reduced t k f
  | .infinity s, .infinity t => s == t
  | _, _ => false

def toBinary : Decimal → Binary64
  | .finite s digits e => Numeral.scale s digits e
  | .infinity s => .infinity s
  | .nan .. => .nan

def truncate (negative : Bool) (digits : Nat) (exponent : Int) : Int :=
  let n : Int :=
    if 0 ≤ exponent then digits * 10 ^ exponent.toNat
    else if digitCount digits ≤ (-exponent).toNat then 0
    else digits / 10 ^ (-exponent).toNat
  if negative then -n else n

end Decimal

end CallSnapshot
