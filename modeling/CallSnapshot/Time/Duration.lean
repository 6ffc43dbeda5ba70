import CallSnapshot.Number.Shortest

/-! Durations in whole microseconds, up to 999999999 days either way. -/

namespace CallSnapshot

structure Duration where
  micros : Int
  deriving DecidableEq, Repr, Inhabited

inductive DurationError where
  | notANumber
  | infinite
  | tooManyDays (days : Int)
  | beyondWord
  deriving DecidableEq, Repr

namespace Duration

def dayMicros : Int := 86400000000

def days (d : Duration) : Int := d.micros.fdiv dayMicros

/-- Seconds beyond the whole days, between 0 and 86399. -/
def seconds (d : Duration) : Int := (d.micros.fmod dayMicros).fdiv 1000000

def remainder (d : Duration) : Int := d.micros.fmod 1000000

def ofParts (days seconds micros : Int) : Duration :=
  ⟨days * dayMicros + seconds * 1000000 + micros⟩

/-- Durations are kept up to 999999999 days; a day count beyond 31 bits is told apart. -/
def check (d : Duration) : Except DurationError Duration :=
  if d.days < -2147483648 || 2147483647 < d.days then .error .beyondWord
  else if d.days < -999999999 || 999999999 < d.days then .error (.tooManyDays d.days)
  else .ok d

def totalSeconds (d : Duration) : Binary64 := Binary64.ofSigned d.micros 1000000

def nearest (n : Int) (d : Nat) : Int :=
  let m : Int := Binary64.roundHalfEven n.natAbs d
  if n < 0 then -m else m

/-- Whole seconds count exactly; the fraction is first scaled to microseconds as a binary
fraction and then rounded. -/
def ofSeconds (x : Binary64) : Except DurationError Duration :=
  match x with
  | .nan => .error .notANumber
  | .infinity _ => .error .infinite
  | .finite .. =>
    let whole := x.truncate
    let (a, b) := x.toRatio
    let fraction := Binary64.ofSigned (a - whole * b) b
    let (p, q) := (fraction.mul (Binary64.ofNat 1000000)).toRatio
    check ⟨nearest (whole * 1000000 * q + p) q⟩

def ofWholeSeconds (n : Int) : Except DurationError Duration := check ⟨n * 1000000⟩

end Duration

end CallSnapshot
