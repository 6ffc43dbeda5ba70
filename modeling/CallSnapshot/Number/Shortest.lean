import CallSnapshot.Number.Binary64

/-!
The shortest decimal digits that read back as a given number, and its usual text. Of the points of
the coarsest decimal grid that round to the number, the one nearest to it is taken.
-/

namespace CallSnapshot.Binary64

-- Powers are those of the core library, whatever is imported beside this module.
attribute [local instance (high)] instPowNat

def tenPower (p : Int) : Nat × Nat :=
  if 0 ≤ p then (10 ^ p.toNat, 1) else (1, 10 ^ (-p).toNat)

def tenPowerLe (p : Int) (n d : Nat) : Bool :=
  let (a, b) := tenPower p
  a * d ≤ n * b

def raiseWhile (n d : Nat) : Nat → Int → Int
  | 0, p => p
  | fuel + 1, p => if tenPowerLe (p + 1) n d then raiseWhile n d fuel (p + 1) else p

/-- The decimal exponent of the leading digit of `n / d`; the guess is at most two too low. -/
def leadingExponent (n d : Nat) : Int :=
  raiseWhile n d 4 ((floorLog n d * 30103).fdiv 100000 - 1)

/-- The interval of reals that round to a number: twice-halved units around it, and whether the
ends belong to it. -/
structure Neighbourhood where
  value : Nat
  low : Nat
  high : Nat
  denominator : Nat
  closed : Bool

def neighbourhood (m : Nat) (e : Int) : Neighbourhood :=
  let unit := max ((bitLength m : Int) - 1 + e - (precision - 1)) leastExponent
  let whole := m * (power (e - unit)).1
  let lower := if whole = 2 ^ (precision - 1) && leastExponent < unit then 1 else 2
  let (a, b) := power (unit - 2)
  ⟨4 * whole * a, (4 * whole - lower) * a, (4 * whole + 2) * a, b, whole % 2 = 0⟩

/-- Whether `digits * 10 ^ p` rounds to the number. -/
def Neighbourhood.holds (r : Neighbourhood) (digits : Nat) (p : Int) : Bool :=
  let (a, b) := tenPower p
  let x := digits * a * r.denominator
  if r.closed then r.low * b ≤ x && x ≤ r.high * b else r.low * b < x && x < r.high * b

/-- The better of the two grid points beside the number, where one of them rounds to it. -/
def Neighbourhood.onGrid (r : Neighbourhood) (p : Int) : Option Nat :=
  let (a, b) := tenPower p
  let step := a * r.denominator
  let x := r.value * b
  let below := x / step
  let twice := 2 * (x % step)
  match r.holds below p, r.holds (below + 1) p with
  | false, false => none
  | true, false => some below
  | false, true => some (below + 1)
  | true, true =>
    if twice < step then some below
    else if step < twice then some (below + 1)
    else some (below + below % 2)

def Neighbourhood.search (r : Neighbourhood) : Nat → Int → Nat × Int
  | 0, p => ((r.onGrid p).getD 0, p)
  | fuel + 1, p =>
    match r.onGrid p with
    | some d => (d, p)
    | none => r.search fuel (p - 1)

/-- Digits and decimal exponent of a positive number, the digits as one integer. -/
def shortest (m : Nat) (e : Int) : Nat × Int :=
  let r := neighbourhood m e
  r.search 17 (leadingExponent r.value r.denominator)


def pad (width : Nat) (cs : List Char) : List Char :=
  List.replicate (width - cs.length) '0' ++ cs

def exponentText (e : Int) : List Char :=
  'e' :: (if e < 0 then '-' else '+') :: pad 2 (Nat.repr e.natAbs).toList

def dropTrailingZeros (cs : List Char) : List Char := (cs.reverse.dropWhile (· == '0')).reverse

/-- Positional notation for leading digits between `10 ^ -4` and `10 ^ 15`, powers of ten beyond. -/
def layout (pointZero : Bool) (digits : Nat) (p : Int) : List Char :=
  let ds := dropTrailingZeros (Nat.repr digits).toList
  let point : Int := (Nat.repr digits).length + p
  if -4 < point && point ≤ 16 then
    if point ≤ 0 then '0' :: '.' :: List.replicate (-point).toNat '0' ++ ds
    else
      let k := point.toNat
      if ds.length ≤ k then
        ds ++ List.replicate (k - ds.length) '0' ++ (if pointZero then ['.', '0'] else [])
      else ds.take k ++ '.' :: ds.drop k
  else
    match ds with
    | [] => []
    | [d] => d :: exponentText (point - 1)
    | d :: rest => d :: '.' :: rest ++ exponentText (point - 1)

/-- The text of a number; `pointZero` says whether a whole number ends in `.0`. -/
def render (pointZero : Bool) : Binary64 → String
  | .nan => "nan"
  | .infinity s => if s then "-inf" else "inf"
  | .finite s m e =>
    let body :=
      if m = 0 then (if pointZero then ['0', '.', '0'] else ['0'])
      else
        let (digits, p) := shortest m e
        layout pointZero digits p
    String.ofList (if s then '-' :: body else body)

def text (x : Binary64) : String := x.render true

end CallSnapshot.Binary64
