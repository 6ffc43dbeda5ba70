import CallSnapshot.Fault

/-!
Bytes as text of 64 letters, three bytes to four letters. Reading skips letters that do not belong
to the alphabet and stops at the padding that completes a group.
-/

namespace CallSnapshot.Base64

def letter (n : Nat) : Char :=
  if n < 26 then Char.ofNat (65 + n)
  else if n < 52 then Char.ofNat (71 + n)
  else if n < 62 then Char.ofNat (n - 4)
  else if n = 62 then '+' else '/'

def value? (c : Char) : Option Nat :=
  if c.isUpper then some (c.toNat - 65)
  else if c.isLower then some (c.toNat - 71)
  else if c.isDigit then some (c.toNat + 4)
  else if c == '+' then some 62
  else if c == '/' then some 63
  else none

def encode : List UInt8 → List Char
  | [] => []
  | [a] => [letter (a.toNat / 4), letter (a.toNat % 4 * 16), '=', '=']
  | [a, b] =>
    [letter (a.toNat / 4), letter (a.toNat % 4 * 16 + b.toNat / 16), letter (b.toNat % 16 * 4), '=']
  | a :: b :: c :: rest =>
    letter (a.toNat / 4) :: letter (a.toNat % 4 * 16 + b.toNat / 16) ::
      letter (b.toNat % 16 * 4 + c.toNat / 64) :: letter (c.toNat % 64) :: encode rest

/-- How far a group of four letters has been read, and the bits left over from it. -/
structure Reading where
  filled : Nat
  leftover : Nat
  pads : Nat
  count : Nat
  deriving DecidableEq, Repr

def incorrectPadding : Fault := ⟨.base64, "Incorrect padding"⟩

def strayLetter (count : Nat) : Fault :=
  ⟨.base64, s!"Invalid base64-encoded string: number of data characters ({count}) " ++
    "cannot be 1 more than a multiple of 4"⟩

def finish (r : Reading) : Except Fault (List UInt8) :=
  if r.filled == 0 then .ok []
  else if r.filled == 1 then .error (strayLetter (r.count / 3 * 4 + 1))
  else .error incorrectPadding

/-- `count` is the number of bytes read so far. -/
def decodeFrom (r : Reading) : List Char → Except Fault (List UInt8)
  | [] => finish r
  | '=' :: rest =>
    if 2 ≤ r.filled && 4 ≤ r.filled + (r.pads + 1) then .ok []
    else decodeFrom { r with pads := if 2 ≤ r.filled then r.pads + 1 else r.pads } rest
  | c :: rest =>
    match value? c with
    | none => decodeFrom r rest
    | some v =>
      match r.filled with
      | 0 => decodeFrom ⟨1, v, 0, r.count⟩ rest
      | 1 => (decodeFrom ⟨2, v % 16, 0, r.count + 1⟩ rest).map (UInt8.ofNat (r.leftover * 4 + v / 16) :: ·)
      | 2 => (decodeFrom ⟨3, v % 4, 0, r.count + 1⟩ rest).map (UInt8.ofNat (r.leftover * 16 + v / 4) :: ·)
      | _ => (decodeFrom ⟨0, 0, 0, r.count + 1⟩ rest).map (UInt8.ofNat (r.leftover * 64 + v) :: ·)

def asciiOnly : Fault := ⟨.value, "string argument should contain only ASCII characters"⟩

def decode (s : String) : Except Fault (List UInt8) :=
  if s.toList.all (·.toNat < 128) then decodeFrom ⟨0, 0, 0, 0⟩ s.toList else .error asciiOnly

end CallSnapshot.Base64
