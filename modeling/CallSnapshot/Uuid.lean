import CallSnapshot.Fault
import CallSnapshot.Number.Numeral
import CallSnapshot.Text.Quoted
import CallSnapshot.Text.Replace

/-! Identifiers of 128 bits, written as 32 hexadecimal digits in five groups. -/

namespace CallSnapshot

structure Uuid where
  bits : Nat
  deriving DecidableEq, Repr, Inhabited

namespace Uuid

def text (u : Uuid) : String :=
  let ds := Text.hexDigits 32 u.bits
  String.ofList (Text.joinWith ['-']
    [ds.take 8, (ds.drop 8).take 4, (ds.drop 12).take 4, (ds.drop 16).take 4, ds.drop 20])

def isBrace (c : Char) : Bool := c == '\x7b' || c == '\x7d'

/-- The digits of a text without the marks that may stand around and between them. -/
def bare (s : String) : List Char :=
  let cs := Text.replace "uuid:".toList [] (Text.replace "urn:".toList [] s.toList)
  let cs := ((cs.dropWhile isBrace).reverse.dropWhile isBrace).reverse
  cs.filter (· != '-')

def badlyFormed : Fault := ⟨.value, "badly formed hexadecimal UUID string"⟩

def parse (s : String) : Except Fault Uuid :=
  let cs := bare s
  if cs.length != 32 then .error badlyFormed
  else
    match Numeral.readInt 16 (String.ofList cs) with
    | .ok n => .ok ⟨n.toNat⟩
    | .error _ =>
      .error ⟨.value, s!"invalid literal for int() with base 16: {Text.quoted (String.ofList cs)}"⟩

end Uuid

end CallSnapshot
