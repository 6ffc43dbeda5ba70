import CallSnapshot.Fault
import CallSnapshot.Value.Display

/-! Sums of values: of numbers, of texts and of sequences of one kind. -/

namespace CallSnapshot

namespace Decimal

-- Powers are those of the core library, whatever is imported beside this module.
attribute [local instance (high)] instPowNat

/-- The digits to which sums are rounded. -/
def sumPrecision : Nat := 28

/-- A number with at most so many digits, a half rounded to the even neighbour. -/
def rounded (negative : Bool) (digits : Nat) (exponent : Int) : Decimal :=
  let excess := digitCount digits - sumPrecision
  if excess = 0 then .finite negative digits exponent
  else
    let kept := Binary64.roundHalfEven digits (10 ^ excess)
    if digitCount kept ≤ sumPrecision then .finite negative kept (exponent + excess)
    else .finite negative (kept / 10) (exponent + excess + 1)

def signedDigits (negative : Bool) (digits : Nat) : Int := if negative then -(digits : Int) else digits

def add (x y : Decimal) : Decimal :=
  match x, y with
  | .nan s q p, _ => .nan s q p
  | _, .nan s q p => .nan s q p
  | .infinity s, .infinity t => if s == t then .infinity s else .nan false false 0
  | .infinity s, _ => .infinity s
  | _, .infinity t => .infinity t
  | .finite s m e, .finite t n f =>
    let least := min e f
    let sum := signedDigits s (m * 10 ^ (e - least).toNat) + signedDigits t (n * 10 ^ (f - least).toNat)
    rounded (if sum = 0 then s && t else decide (sum < 0)) sum.natAbs least

end Decimal

namespace Value

def unsupportedSum (a b : Value) : Fault :=
  ⟨.type, s!"unsupported operand type(s) for +: '{a.typeName}' and '{b.typeName}'"⟩

def notJoined (kind : String) (b : Value) : Fault :=
  ⟨.type, s!"can only concatenate {kind} (not \"{b.typeName}\") to {kind}"⟩

def toBinary (n : Int) : Except Fault Binary64 :=
  match Binary64.ofInt? n with
  | some x => .ok x
  | none => .error ⟨.overflow, "int too large to convert to float"⟩

def addQuantities : Quantity → Quantity → Option (Except Fault Value)
  | .int m, .int n => some (.ok (.int (m + n)))
  | .int m, .binary y => some ((toBinary m).map fun x => .float (x.add y))
  | .binary x, .int n => some ((toBinary n).map fun y => .float (x.add y))
  | .binary x, .binary y => some (.ok (.float (x.add y)))
  | .decimal x, .decimal y => some (.ok (.decimal (x.add y)))
  | .decimal x, .int n => some (.ok (.decimal (x.add (.ofInt n))))
  | .int m, .decimal y => some (.ok (.decimal ((Decimal.ofInt m).add y)))
  | _, _ => none

def addNumbers (a b : Value) : Except Fault Value :=
  match a.quantity?, b.quantity? with
  | some p, some q => (addQuantities p q).getD (.error (unsupportedSum a b))
  | _, _ =>
    match a.complexParts?, b.complexParts?, a.quantity?, b.quantity? with
    | some (r, i), some (s, j), _, _ => .ok (.complex (r.add s) (i.add j))
    | some (r, i), _, _, some (.binary y) => .ok (.complex (r.add y) i)
    | some (r, i), _, _, some (.int n) => do .ok (.complex (r.add (← toBinary n)) i)
    | _, some (s, j), some (.binary x), _ => .ok (.complex (x.add s) j)
    | _, some (s, j), some (.int m), _ => do .ok (.complex ((← toBinary m).add s) j)
    | _, _, _, _ => .error (unsupportedSum a b)

def add (a b : Value) : Except Fault Value :=
  match a.base, b.base with
  | .list xs, .list ys => .ok (.list (xs ++ ys))
  | .list _, _ => .error (notJoined "list" b)
  | .tuple xs, .tuple ys => .ok (.tuple (xs ++ ys))
  | .tuple _, _ => .error (notJoined "tuple" b)
  | .bytes xs, .bytes ys => .ok (.bytes (xs ++ ys))
  | .bytes _, _ => .error ⟨.type, s!"can't concat {b.typeName} to bytes"⟩
  | .duration d, .duration e => .ok (.duration ⟨d.micros + e.micros⟩)
  | _, _ =>
    match a.textOf?, b.textOf? with
    | some s, some t => .ok (.str (s ++ t))
    | some _, none => .error (notJoined "str" b)
    | none, _ => addNumbers a b

end Value

end CallSnapshot
