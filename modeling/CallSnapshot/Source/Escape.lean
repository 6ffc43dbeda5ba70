import CallSnapshot.Source.Token
import CallSnapshot.Text.CharacterName

/-! What the escapes within quoted texts stand for. -/

namespace CallSnapshot.Source.Escape

def simple? : Char → Option (Option Char)
  | '\n' => some none
  | '\\' => some '\\'
  | '\'' => some '\''
  | '"' => some '"'
  | 'a' => some '\x07'
  | 'b' => some '\x08'
  | 'f' => some '\x0c'
  | 'n' => some '\n'
  | 'r' => some '\r'
  | 't' => some '\t'
  | 'v' => some '\x0b'
  | _ => none

def octalDigit? (c : Char) : Option Nat := Numeral.digitIn 8 c

/-- One to three octal digits. -/
def octal (cs : List Char) : Option (Nat × List Char) :=
  let digits := (cs.take 3).takeWhile fun c => (octalDigit? c).isSome
  if digits.isEmpty then none
  else some (Numeral.ofDigits 8 (digits.filterMap octalDigit?), cs.drop digits.length)

def hex (width : Nat) (cs : List Char) : Option (Nat × List Char) :=
  let digits := (cs.take width).filterMap (Numeral.digitIn 16)
  if digits.length == width then some (Numeral.ofDigits 16 digits, cs.drop width) else none

/-- The number of digits behind an `x`, `u` or `U`. -/
def hexWidth? : Char → Option Nat
  | 'x' => some 2
  | 'u' => some 4
  | 'U' => some 8
  | _ => none

def named (cs : List Char) : Option (Char × List Char) :=
  match cs with
  | '\x7b' :: rest =>
    let name := rest.takeWhile (· != '\x7d')
    if name.length < rest.length then do
      let c ← Text.CharacterName.find? (String.ofList name)
      some (c, rest.drop (name.length + 1))
    else none
  | _ => none

/-- The characters of a text; an escape that means nothing stands for itself, a broken one is
refused. -/
def chars : (fuel : Nat) → List Char → Option (List Char)
  | 0, _ => none
  | _, [] => some []
  | fuel + 1, '\\' :: c :: rest =>
    match simple? c with
    | some found => do some (found.toList ++ (← chars fuel rest))
    | none =>
      match octal (c :: rest), hexWidth? c with
      | some (n, rest), _ => do some (Char.ofNat n :: (← chars fuel rest))
      | none, some width => do
        let (n, rest) ← hex width rest
        if n < 0x110000 then some (Char.ofNat n :: (← chars fuel rest)) else none
      | none, none =>
        if c == 'N' then do
          let (found, rest) ← named rest
          some (found :: (← chars fuel rest))
        else do some ('\\' :: c :: (← chars fuel rest))
  | fuel + 1, c :: rest => do some (c :: (← chars fuel rest))

def text (raw : Bool) (cs : List Char) : Option (List Char) :=
  if raw then some cs else chars (cs.length + 1) cs

def byteValues : (fuel : Nat) → List Char → Option (List UInt8)
  | 0, _ => none
  | _, [] => some []
  | fuel + 1, '\\' :: c :: rest =>
    match simple? c with
    | some found => do
      some ((found.map fun d => UInt8.ofNat d.toNat).toList ++ (← byteValues fuel rest))
    | none =>
      match octal (c :: rest) with
      | some (n, rest) => do some (UInt8.ofNat n :: (← byteValues fuel rest))
      | none =>
        if c == 'x' then do
          let (n, rest) ← hex 2 rest
          some (UInt8.ofNat n :: (← byteValues fuel rest))
        else do some (UInt8.ofNat '\\'.toNat :: UInt8.ofNat c.toNat :: (← byteValues fuel rest))
  | fuel + 1, c :: rest => do some (UInt8.ofNat c.toNat :: (← byteValues fuel rest))

def bytes (raw : Bool) (cs : List Char) : Option (List UInt8) :=
  if !cs.all (·.toNat < 128) then none
  else if raw then some (cs.map fun c => UInt8.ofNat c.toNat)
  else byteValues (cs.length + 1) cs

end CallSnapshot.Source.Escape
