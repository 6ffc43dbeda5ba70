/-!
Binary floating point with 53 bits of precision, computed exactly: a finite number is a signed
`mantissa * 2 ^ exponent` with an odd mantissa, or a signed zero. Every operation rounds the exact
result once, to the nearest number and on a tie to the even one.
-/

namespace CallSnapshot

inductive Binary64 where
  | nan
  | infinity (negative : Bool)
  | finite (negative : Bool) (mantissa : Nat) (exponent : Int)
  deriving DecidableEq, Repr, Inhabited

namespace Binary64

-- Powers are those of the core library, whatever is imported beside this module.
attribute [local instance (high)] instPowNat

def precision : Nat := 53

def leastExponent : Int := -1074

def bitLength (n : Nat) : Nat := if n = 0 then 0 else n.log2 + 1

/-- Moves factors of two from the mantissa to the exponent; `fuel` bounds their number. -/
def normalize : Nat → Nat → Int → Nat × Int
  | 0, m, e => (m, e)
  | fuel + 1, m, e => if m = 0 then (0, 0) else if m % 2 = 1 then (m, e) else normalize fuel (m / 2) (e + 1)

def ofParts (negative : Bool) (m : Nat) (e : Int) : Binary64 :=
  let (m, e) := normalize (bitLength m + 1) m e
  .finite negative m e

def zero : Binary64 := .finite false 0 0

def roundHalfEven (n d : Nat) : Nat :=
  let q := n / d
  let twice := 2 * (n % d)
  if twice < d then q else if d < twice then q + 1 else q + q % 2

def power (e : Int) : Nat × Nat :=
  if 0 ≤ e then (2 ^ e.toNat, 1) else (1, 2 ^ (-e).toNat)

/-- The largest `e` with `2 ^ e ≤ n / d`, both positive. -/
def floorLog (n d : Nat) : Int :=
  let k : Int := (n.log2 : Int) - d.log2
  let (a, b) := power k
  if d * a ≤ n * b then k else k - 1

def ofRatio (negative : Bool) (n d : Nat) : Binary64 :=
  if n = 0 || d = 0 then .finite negative 0 0
  else
    let e := max (floorLog n d - (precision - 1)) leastExponent
    let (a, b) := power e
    let m := roundHalfEven (n * b) (d * a)
    if 1024 < (bitLength m : Int) + e then .infinity negative else ofParts negative m e

def ofSigned (n : Int) (d : Nat) : Binary64 := ofRatio (n < 0) n.natAbs d

/-- The number nearest to an integer; none where that is beyond the largest finite number. -/
def ofInt? (n : Int) : Option Binary64 :=
  match ofSigned n 1 with
  | .infinity _ => none
  | x => some x

def ofNat (n : Nat) : Binary64 := ofRatio false n 1

def isNan : Binary64 → Bool
  | .nan => true
  | _ => false

def isInfinite : Binary64 → Bool
  | .infinity _ => true
  | _ => false

def isFinite : Binary64 → Bool
  | .finite .. => true
  | _ => false

def isZero : Binary64 → Bool
  | .finite _ 0 _ => true
  | _ => false

/-- Whether the sign bit is set; a number that is none has it clear. -/
def isNegative : Binary64 → Bool
  | .nan => false
  | .infinity s => s
  | .finite s _ _ => s

def neg : Binary64 → Binary64
  | .nan => .nan
  | .infinity s => .infinity !s
  | .finite s m e => .finite (!s) m e

def abs : Binary64 → Binary64
  | .nan => .nan
  | .infinity _ => .infinity false
  | .finite _ m e => .finite false m e

def toRatio : Binary64 → Int × Nat
  | .finite s m e =>
    let (a, b) := power e
    ((if s then -((m * a : Nat) : Int) else (m * a : Nat)), b)
  | _ => (0, 1)

def signed (negative : Bool) (n : Int) (d : Nat) : Binary64 :=
  if n = 0 then .finite negative 0 0 else ofSigned n d

def add (x y : Binary64) : Binary64 :=
  match x, y with
  | .nan, _ => .nan
  | _, .nan => .nan
  | .infinity s, .infinity t => if s = t then .infinity s else .nan
  | .infinity s, _ => .infinity s
  | _, .infinity t => .infinity t
  | .finite s m _, .finite t k _ =>
    let (a, b) := x.toRatio
    let (c, d) := y.toRatio
    signed (s && t && m == 0 && k == 0) (a * d + c * b) (b * d)

def sub (x y : Binary64) : Binary64 := add x y.neg

def mul (x y : Binary64) : Binary64 :=
  let s := x.isNegative != y.isNegative
  match x, y with
  | .nan, _ => .nan
  | _, .nan => .nan
  | .infinity _, y => if y.isZero then .nan else .infinity s
  | x, .infinity _ => if x.isZero then .nan else .infinity s
  | .finite .., .finite .. =>
    let (a, b) := x.toRatio
    let (c, d) := y.toRatio
    signed s (a * c) (b * d)

def divNat (x : Binary64) (k : Nat) : Binary64 :=
  match x with
  | .finite s .. => let (a, b) := x.toRatio; signed s a (b * k)
  | x => x

def lt (x y : Binary64) : Bool :=
  match x, y with
  | .nan, _ => false
  | _, .nan => false
  | .infinity s, .infinity t => s && !t
  | .infinity s, _ => s
  | _, .infinity t => !t
  | .finite .., .finite .. =>
    let (a, b) := x.toRatio
    let (c, d) := y.toRatio
    a * d < c * b

/-- Numeric equality: the two zeros are equal, and what is not a number equals nothing. -/
def eq (x y : Binary64) : Bool :=
  match x, y with
  | .nan, _ => false
  | _, .nan => false
  | .infinity s, .infinity t => s == t
  | .finite s m e, .finite t k f => m == k && (m == 0 || (s == t && e == f))
  | _, _ => false

def le (x y : Binary64) : Bool := lt x y || eq x y

def isIntegral : Binary64 → Bool
  | .finite _ m e => m == 0 || 0 ≤ e
  | _ => false

def truncate (x : Binary64) : Int :=
  let (a, b) := x.toRatio
  a.tdiv b

def toInt? (x : Binary64) : Option Int :=
  if x.isIntegral then some x.truncate else none

/-- The nearest number of a narrower format: so many bits of precision, multiples of `2 ^ least`,
below `2 ^ top`. -/
def narrow (bits : Nat) (least top : Int) (x : Binary64) : Binary64 :=
  match x with
  | .finite s m e =>
    if m = 0 then x
    else
      let low := max (floorLog (m * (power e).1) (power e).2 - (bits - 1)) least
      let (a, b) := power (e - low)
      let k := roundHalfEven (m * a) b
      if top < (bitLength k : Int) + low then .infinity s else ofParts s k low
  | x => x

def toSingle (x : Binary64) : Binary64 := x.narrow 24 (-149) 128

def toHalf (x : Binary64) : Binary64 := x.narrow 11 (-24) 16

end Binary64

end CallSnapshot
