/-! Dates of the Gregorian calendar between the years 1 and 9999. -/

namespace CallSnapshot

structure Date where
  year : Nat
  month : Nat
  day : Nat
  deriving DecidableEq, Repr, Inhabited

namespace Date

def isLeap (year : Nat) : Bool := year % 4 == 0 && (year % 100 != 0 || year % 400 == 0)

def monthLength (year month : Nat) : Nat :=
  match month with
  | 2 => if isLeap year then 29 else 28
  | 4 | 6 | 9 | 11 => 30
  | _ => 31

def daysBeforeMonth (year : Nat) : Nat → Nat
  | 0 => 0
  | 1 => 0
  | m + 1 => daysBeforeMonth year m + monthLength year m

def daysBeforeYear (year : Nat) : Nat :=
  let y := year - 1
  y * 365 + y / 4 - y / 100 + y / 400

/-- The number of a day, the first of January of year 1 being 1. -/
def ordinal (d : Date) : Nat := daysBeforeYear d.year + daysBeforeMonth d.year d.month + d.day

def monthOf (year : Nat) : (fuel : Nat) → (month rest : Nat) → Nat × Nat
  | 0, month, rest => (month, rest)
  | fuel + 1, month, rest =>
    let n := monthLength year month
    if rest < n then (month, rest) else monthOf year fuel (month + 1) (rest - n)

/-- The date of a day number; the inverse of `ordinal`. -/
def ofOrdinal (n : Nat) : Date :=
  let n := n - 1
  let n400 := n / 146097
  let r := n % 146097
  let n100 := r / 36524
  let r := r % 36524
  let n4 := r / 1461
  let r := r % 1461
  let n1 := r / 365
  let year := 400 * n400 + 100 * n100 + 4 * n4 + n1
  if n1 == 4 || n100 == 4 then ⟨year, 12, 31⟩
  else
    let (month, rest) := monthOf (year + 1) 12 1 (r % 365)
    ⟨year + 1, month, rest + 1⟩

/-- The day of the week, Monday being 0. -/
def weekday (d : Date) : Nat := (d.ordinal + 6) % 7

/-- The day number of the Monday of the first week of a year, the week of its first Thursday. -/
def firstMonday (year : Nat) : Int :=
  let first : Date := ⟨year, 1, 1⟩
  let monday : Int := (first.ordinal : Int) - first.weekday
  if 3 < first.weekday then monday + 7 else monday

def hasLongYear (year : Nat) : Bool :=
  let w := (Date.mk year 1 1).weekday
  w == 3 || (w == 2 && isLeap year)

/-- The day of an ISO year, week and weekday; none where there is no such week or weekday. -/
def ofWeek? (year week day : Nat) : Option Date :=
  if year < 1 || 9999 < year || week == 0 || 53 < week || (week == 53 && !hasLongYear year) ||
      day == 0 || 7 < day then none
  else
    let n := firstMonday year + ((week - 1) * 7 + (day - 1) : Nat)
    some (if n ≤ 0 then ⟨0, 12, 31⟩ else ofOrdinal n.toNat)

end Date

/-- A clock time with an optional offset from universal time, in microseconds. -/
structure ClockTime where
  hour : Nat
  minute : Nat
  second : Nat
  micro : Nat
  offset : Option Int
  deriving DecidableEq, Repr, Inhabited

structure DateTime where
  date : Date
  time : ClockTime
  deriving DecidableEq, Repr, Inhabited

def ClockTime.sinceMidnight (t : ClockTime) : Int :=
  ((t.hour * 60 + t.minute) * 60 + t.second) * 1000000 + t.micro

/-- Microseconds since the first midnight of year 1, by the local clock. -/
def DateTime.sinceStart (m : DateTime) : Int :=
  (m.date.ordinal : Int) * 86400000000 + m.time.sinceMidnight

inductive CalendarError where
  | malformed (text : String)
  | year (y : Nat)
  | month
  | day
  | hour
  | minute
  | second
  | offset (micros : Int)
  deriving DecidableEq, Repr

namespace Date

def check (d : Date) : Except CalendarError Date :=
  if d.year < 1 || 9999 < d.year then .error (.year d.year)
  else if d.month < 1 || 12 < d.month then .error .month
  else if d.day < 1 || monthLength d.year d.month < d.day then .error .day
  else .ok d

end Date

def ClockTime.check (t : ClockTime) : Except CalendarError ClockTime :=
  if 23 < t.hour then .error .hour
  else if 59 < t.minute then .error .minute
  else if 59 < t.second then .error .second
  else .ok t

end CallSnapshot
