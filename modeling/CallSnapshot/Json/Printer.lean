import CallSnapshot.Fault
import CallSnapshot.Json.Basic
import CallSnapshot.Number.Numeral
import CallSnapshot.Text.Quoted

/-!
Three written forms of JSON data: compact with all characters as they are, the form of a line; an
ASCII form with sorted keys, by which data are ordered; and an indented ASCII form for files.
-/

namespace CallSnapshot.Json

/-- How data are laid out: which characters are escaped and what stands between the parts. -/
structure Layout where
  ascii : Bool
  sorted : Bool
  comma : String
  colon : String
  indent : Option Nat

def compact : Layout := ⟨false, false, ",", ":", none⟩

def sortedAscii : Layout := ⟨true, true, ", ", ": ", none⟩

def indented : Layout := ⟨true, false, ",", ": ", some 2⟩

def unitEscape (n : Nat) : List Char := '\\' :: 'u' :: Text.hexDigits 4 n

def escapeChar (ascii : Bool) (c : Char) : List Char :=
  if c == '"' then ['\\', '"']
  else if c == '\\' then ['\\', '\\']
  else if c == '\n' then ['\\', 'n']
  else if c == '\r' then ['\\', 'r']
  else if c == '\t' then ['\\', 't']
  else if c == '\x0c' then ['\\', 'f']
  else if c == '\x08' then ['\\', 'b']
  else
    let n := c.toNat
    if n < 0x20 then unitEscape n
    else if ascii && 0x7f ≤ n then
      if n < 0x10000 then unitEscape n
      else unitEscape (0xd800 + (n - 0x10000) / 0x400) ++ unitEscape (0xdc00 + (n - 0x10000) % 0x400)
    else [c]

def stringChars (ascii : Bool) (s : String) : List Char :=
  '"' :: s.toList.flatMap (escapeChar ascii) ++ ['"']

def printLimitText : String :=
  "Exceeds the limit (4300 digits) for integer string conversion; " ++
    "use sys.set_int_max_str_digits() to increase the limit"

/-- The decimal digits of an integer, of which there may be 4300. -/
def intChars (n : Int) : Except Fault (List Char) :=
  let digits := (Nat.repr n.natAbs).toList
  if Numeral.digitLimit < digits.length then .error ⟨.value, printLimitText⟩
  else .ok (if n < 0 then '-' :: digits else digits)

def floatText (x : Binary64) : String :=
  match x with
  | .nan => "NaN"
  | .infinity s => if s then "-Infinity" else "Infinity"
  | x => x.text

def Layout.line (l : Layout) (depth : Nat) : List Char :=
  l.indent.elim [] fun k => '\n' :: List.replicate (k * depth) ' '

def insertMember {α : Type} (m : String × α) : List (String × α) → List (String × α)
  | [] => [m]
  | n :: ns => if m.1 ≤ n.1 then m :: n :: ns else n :: insertMember m ns

def sortMembers {α : Type} (ms : List (String × α)) : List (String × α) := ms.foldr insertMember []

def Layout.enclose (l : Layout) (depth : Nat) (opening closing : Char) (parts : List (List Char)) :
    List Char :=
  match parts with
  | [] => [opening, closing]
  | p :: ps =>
    let between := l.comma.toList ++ l.line (depth + 1)
    opening :: l.line (depth + 1) ++ p ++ ps.flatMap (between ++ ·) ++ l.line depth ++ [closing]

mutual

def Layout.chars (l : Layout) (depth : Nat) : Json → Except Fault (List Char)
  | .null => .ok "null".toList
  | .bool b => .ok (if b then "true".toList else "false".toList)
  | .int n => intChars n
  | .float x => .ok (floatText x).toList
  | .str s => .ok (stringChars l.ascii s)
  | .arr items => do
    .ok (l.enclose depth '[' ']' (← l.itemChars (depth + 1) items))
  | .obj members => do
    let parts ← l.memberChars (depth + 1) members
    let parts := if l.sorted then sortMembers parts else parts
    let member := fun (p : String × List Char) => stringChars l.ascii p.1 ++ l.colon.toList ++ p.2
    .ok (l.enclose depth '\x7b' '\x7d' (parts.map member))

def Layout.itemChars (l : Layout) (depth : Nat) : List Json → Except Fault (List (List Char))
  | [] => .ok []
  | x :: xs => do .ok ((← l.chars depth x) :: (← l.itemChars depth xs))

def Layout.memberChars (l : Layout) (depth : Nat) :
    List (String × Json) → Except Fault (List (String × List Char))
  | [] => .ok []
  | (k, x) :: xs => do .ok ((k, ← l.chars depth x) :: (← l.memberChars depth xs))

end

def print (l : Layout) (data : Json) : Except Fault String :=
  (l.chars 0 data).map String.ofList

end CallSnapshot.Json
