import CallSnapshot.Number.Numeral
import CallSnapshot.Text.Quoted

/-! Bytes and numbers as hexadecimal digits. -/

namespace CallSnapshot.Text

def ofHexPairs : List Nat → List UInt8
  | a :: b :: rest => UInt8.ofNat (16 * a + b) :: ofHexPairs rest
  | _ => []

def hexValues (s : String) : List Nat := s.toList.filterMap (Numeral.digitIn 16)

def ofHex (s : String) : List UInt8 := ofHexPairs (hexValues s)

def natOfHex (s : String) : Nat := Numeral.ofDigits 16 (hexValues s)

def toHex (bs : List UInt8) : String := String.ofList (bs.flatMap fun b => hexDigits 2 b.toNat)

end CallSnapshot.Text
