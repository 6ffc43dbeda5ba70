import CallSnapshot.Time.Calendar
import CallSnapshot.Time.Duration

/-!
ISO 8601 texts of dates and times: one written form, several accepted ones. Reading takes basic and
extended formats and week dates; of a fraction it keeps six digits.
-/

namespace CallSnapshot.Iso

-- Powers are those of the core library, whatever is imported beside this module.
attribute [local instance (high)] instPowNat

def digits (width n : Nat) : List Char := Binary64.pad width (Nat.repr n).toList

def dateChars (d : Date) : List Char :=
  digits 4 d.year ++ '-' :: digits 2 d.month ++ '-' :: digits 2 d.day

def clockChars (hour minute second micro : Nat) : List Char :=
  digits 2 hour ++ ':' :: digits 2 minute ++ ':' :: digits 2 second ++
    (if micro == 0 then [] else '.' :: digits 6 micro)

/-- Hours and minutes of an offset; seconds and their fraction only where there are any. -/
def offsetChars (offset : Int) : List Char :=
  let n := offset.natAbs
  let seconds := n / 1000000
  let micro := n % 1000000
  (if offset < 0 then '-' else '+') :: digits 2 (seconds / 3600) ++
    ':' :: digits 2 (seconds / 60 % 60) ++
    (if seconds % 60 == 0 && micro == 0 then []
     else ':' :: digits 2 (seconds % 60) ++ (if micro == 0 then [] else '.' :: digits 6 micro))

def timeChars (t : ClockTime) : List Char :=
  clockChars t.hour t.minute t.second t.micro ++ (t.offset.elim [] offsetChars)

def dateText (d : Date) : String := String.ofList (dateChars d)

def timeText (t : ClockTime) : String := String.ofList (timeChars t)

def dateTimeText (m : DateTime) : String :=
  String.ofList (dateChars m.date ++ 'T' :: timeChars m.time)

def takeNumber : (width : Nat) → (value : Nat) → List Char → Option (Nat × List Char)
  | 0, value, cs => some (value, cs)
  | _ + 1, _, [] => none
  | width + 1, value, c :: cs =>
    if c.isDigit then takeNumber width (value * 10 + (c.toNat - '0'.toNat)) cs else none

/-- A calendar or week date at the front of a text of which `length` characters are meant. -/
def readDate (cs : List Char) (length : Nat) : Option Date := do
  let (year, rest) ← takeNumber 4 0 cs
  let separated := rest.head? == some '-'
  let rest := if separated then rest.drop 1 else rest
  match rest with
  | 'W' :: rest =>
    let (week, rest) ← takeNumber 2 0 rest
    if cs.length - rest.length < length then
      let rest ← if !separated then some rest else
        match rest with
        | '-' :: r => some r
        | _ => none
      let (day, _) ← takeNumber 1 0 rest
      Date.ofWeek? year week day
    else Date.ofWeek? year week 1
  | rest =>
    let (month, rest) ← takeNumber 2 0 rest
    let rest ← if !separated then some rest else
      match rest with
      | '-' :: r => some r
      | _ => none
    let (day, _) ← takeNumber 2 0 rest
    some ⟨year, month, day⟩

structure Clock where
  hour : Nat
  minute : Nat
  second : Nat
  micro : Nat
  /-- Something follows that is no part of the clock time. -/
  more : Bool

/-- Up to six digits of a fraction of which `length` characters are meant; further digits are dropped. -/
def readFraction (length : Nat) (cs : List Char) : Option (Nat × Bool) := do
  let width := min length 6
  let (value, rest) ← takeNumber width 0 cs
  some (value * 10 ^ (6 - width), !(rest.dropWhile Char.isDigit).isEmpty)

/-- Reads `left` more fields of two digits; `length` characters belong to the clock time, what
stands behind them is looked at only to tell whether it is there. -/
def readFields (separated : Bool) : (left : Nat) → (first : Bool) → (read : List Nat) → (length : Int) →
    List Char → Option (List Nat × Nat × Bool)
  | 0, _, read, length, cs => do
    let (micro, more) ← readFraction length.toNat cs
    some (read, micro, more)
  | left + 1, first, read, length, cs => do
    let (value, rest) ← takeNumber 2 0 cs
    let read := read ++ [value]
    let next := rest.head?
    let separated := if first then next == some ':' else separated
    let length := length - 3
    if length ≤ 0 then some (read, 0, next.isSome)
    else if separated && next == some ':' then
      readFields separated left false read length (rest.drop 1)
    else if next == some '.' || next == some ',' then
      let (micro, more) ← readFraction length.toNat (rest.drop 1)
      some (read, micro, more)
    else if !separated then readFields separated left false read (length + 1) rest
    else none

def readClock (length : Nat) (cs : List Char) : Option Clock := do
  let (fields, micro, more) ← readFields true 3 true [] length cs
  some ⟨fields.getD 0 0, fields.getD 1 0, fields.getD 2 0, micro, more⟩

def startsOffset (c : Char) : Bool := c == '+' || c == '-' || c == 'Z'

/-- A clock time and its offset in microseconds; whole seconds of zero mean universal time. -/
def readTime (cs : List Char) : Option (Clock × Option Int) := do
  let clock := cs.takeWhile fun c => !startsOffset c
  let zone := cs.dropWhile fun c => !startsOffset c
  let t ← readClock clock.length cs
  match zone with
  | [] => if t.more then none else some (t, none)
  | ['Z'] => some (t, some 0)
  | 'Z' :: _ => none
  | sign :: zone =>
    let o ← readClock zone.length zone
    if o.more then none
    else
      let seconds := (o.hour * 60 + o.minute) * 60 + o.second
      let micros : Int := if seconds == 0 then 0 else seconds * 1000000 + o.micro
      some (t, some (if sign == '-' then -micros else micros))

def checkTime (t : Clock) (offset : Option Int) : Except CalendarError ClockTime :=
  match offset with
  | some o =>
    if o.natAbs < 86400000000 then
      ClockTime.check ⟨t.hour, t.minute, t.second, t.micro, some o⟩
    else .error (.offset o)
  | none => ClockTime.check ⟨t.hour, t.minute, t.second, t.micro, none⟩

def bytes (s : String) : List Char := s.toUTF8.toList.map fun b => Char.ofNat b.toNat

def parseDate (s : String) : Except CalendarError Date :=
  let cs := bytes s
  if cs.length == 7 || cs.length == 8 || cs.length == 10 then
    match readDate cs cs.length with
    | some d => d.check
    | none => .error (.malformed s)
  else .error (.malformed s)

def parseTime (s : String) : Except CalendarError ClockTime :=
  let cs := bytes s
  let cs := match cs with
    | 'T' :: rest => rest
    | cs => cs
  match readTime cs with
  | some (t, offset) => checkTime t offset
  | none => .error (.malformed s)

def digitAt (cs : List Char) (i : Nat) : Bool := (cs[i]?).any Char.isDigit

def separatorIndex (cs : List Char) : Option Nat :=
  let n := cs.length
  if n == 7 then some 7
  else if cs[4]? == some '-' then
    if cs[5]? == some 'W' then
      if 8 < n && cs[8]? == some '-' then
        if n == 9 then none else if 10 < n && digitAt cs 10 then some 8 else some 10
      else some 8
    else some 10
  else if cs[4]? == some 'W' then
    let pos := 7 + ((cs.drop 7).takeWhile Char.isDigit).length
    if pos < 9 then some pos else if pos % 2 == 0 then some 7 else some 8
  else some 8

/-- Bytes of the character that begins with this one. -/
def characterWidth (c : Char) : Nat :=
  if c.toNat < 0x80 then 1
  else if c.toNat / 16 == 14 then 3
  else if c.toNat / 16 == 15 then 4
  else 2

def parseDateTime (s : String) : Except CalendarError DateTime :=
  let cs := bytes s
  if cs.length < 7 then .error (.malformed s)
  else
    match separatorIndex cs with
    | none => .error (.malformed s)
    | some i =>
      match readDate cs i with
      | none => .error (.malformed s)
      | some d =>
        let rest := cs.drop i
        if rest.isEmpty then do
          let d ← d.check
          .ok ⟨d, ⟨0, 0, 0, 0, none⟩⟩
        else
          match readTime (rest.drop (rest.head?.elim 1 characterWidth)) with
          | none => .error (.malformed s)
          | some (t, offset) =>
            match offset with
            | some o =>
              if o.natAbs < 86400000000 then do
                let d ← d.check
                let t ← checkTime t offset
                .ok ⟨d, t⟩
              else .error (.offset o)
            | none => do
              let d ← d.check
              let t ← checkTime t offset
              .ok ⟨d, t⟩

end CallSnapshot.Iso
