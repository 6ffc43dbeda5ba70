/-!
Text as bytes. Decoding stops at the first byte that cannot be read and says which bytes are at
fault and why; encoding is its inverse on text.
-/

namespace CallSnapshot.Text

-- Powers are those of the core library, whatever is imported beside this module.
attribute [local instance (high)] instPowNat

inductive ByteFault where
  | invalidStart
  | invalidContinuation
  | unexpectedEnd
  deriving DecidableEq, Repr

def ByteFault.reason : ByteFault → String
  | .invalidStart => "invalid start byte"
  | .invalidContinuation => "invalid continuation byte"
  | .unexpectedEnd => "unexpected end of data"

/-- The bytes from `start`, `count` of them, that could not be decoded. -/
structure DecodeError where
  fault : ByteFault
  start : Nat
  count : Nat
  first : UInt8
  deriving DecidableEq, Repr

def isContinuation (b : Nat) : Bool := 0x80 ≤ b && b < 0xc0

/-- The bounds of the byte after a lead byte. -/
def secondRange (lead : Nat) : Nat × Nat :=
  if lead == 0xe0 then (0xa0, 0xbf)
  else if lead == 0xed then (0x80, 0x9f)
  else if lead == 0xf0 then (0x90, 0xbf)
  else if lead == 0xf4 then (0x80, 0x8f)
  else (0x80, 0xbf)

/-- How many bytes follow a lead byte; none where no character begins so. -/
def followers? (lead : Nat) : Option Nat :=
  if lead < 0x80 then some 0
  else if 0xc2 ≤ lead && lead < 0xe0 then some 1
  else if 0xe0 ≤ lead && lead < 0xf0 then some 2
  else if 0xf0 ≤ lead && lead < 0xf5 then some 3
  else none

/-- Checks the bytes after a lead byte: their value so far, or the fault and the bytes it covers. -/
def follow (lead : Nat) : (count : Nat) → (seen : Nat) → (value : Nat) → List UInt8 →
    Except (ByteFault × Nat) (Nat × List UInt8)
  | 0, _, value, rest => .ok (value, rest)
  | _ + 1, seen, _, [] => .error (.unexpectedEnd, seen)
  | count + 1, seen, value, b :: rest =>
    let n := b.toNat
    let (low, high) := if seen == 1 then secondRange lead else (0x80, 0xbf)
    if low ≤ n && n ≤ high then follow lead count (seen + 1) (value * 64 + n % 64) rest
    else .error (.invalidContinuation, seen)

/-- `fuel` bounds the characters; the number of bytes is enough. -/
def decodeChars : (fuel : Nat) → (at_ : Nat) → List UInt8 → Except DecodeError (List Char)
  | 0, _, _ => .ok []
  | _, _, [] => .ok []
  | fuel + 1, i, b :: rest =>
    let lead := b.toNat
    match followers? lead with
    | none => .error ⟨.invalidStart, i, 1, b⟩
    | some 0 => (decodeChars fuel (i + 1) rest).map (Char.ofNat lead :: ·)
    | some k =>
      match follow lead k 1 (lead % 2 ^ (6 - k)) rest with
      | .error (fault, count) => .error ⟨fault, i, count, b⟩
      | .ok (value, rest) => (decodeChars fuel (i + k + 1) rest).map (Char.ofNat value :: ·)

def decodeUtf8 (bs : List UInt8) : Except DecodeError String :=
  (decodeChars bs.length 0 bs).map String.ofList

def encodeUtf8 (s : String) : List UInt8 := s.toUTF8.toList

def lowHex (n : Nat) : List Char :=
  let digit := fun k => if k < 10 then Char.ofNat (48 + k) else Char.ofNat (87 + k)
  [digit (n / 16 % 16), digit (n % 16)]

def DecodeError.message (e : DecodeError) : String :=
  let what :=
    if e.count == 1 then s!"byte 0x{String.ofList (lowHex e.first.toNat)} in position {e.start}"
    else s!"bytes in position {e.start}-{e.start + e.count - 1}"
  s!"'utf-8' codec can't decode {what}: {e.fault.reason}"

/-- Line ends in any of their three forms become a line feed. -/
def unifyLineEnds : List Char → List Char
  | '\r' :: '\n' :: cs => '\n' :: unifyLineEnds cs
  | '\r' :: cs => '\n' :: unifyLineEnds cs
  | c :: cs => c :: unifyLineEnds cs
  | [] => []

/-- The lines of a text, each with its line feed except a last one that has none. -/
def splitLines : List Char → List (List Char)
  | [] => []
  | c :: cs =>
    if c == '\n' then [c] :: splitLines cs
    else match splitLines cs with
      | [] => [[c]]
      | l :: ls => (c :: l) :: ls

end CallSnapshot.Text
