import CallSnapshot.Number.Shortest

/-! JSON data with exact integers. The members of an object keep the order in which they came. -/

namespace CallSnapshot

inductive Json where
  | null
  | bool (b : Bool)
  | int (n : Int)
  | float (x : Binary64)
  | str (s : String)
  | arr (items : List Json)
  | obj (members : List (String × Json))
  deriving Repr, Inhabited

namespace Json

def isTrue : Json → Bool
  | .null => false
  | .bool b => b
  | .int n => n != 0
  | .float x => !x.isZero
  | .str s => !s.isEmpty
  | .arr items => !items.isEmpty
  | .obj members => !members.isEmpty

def find? (key : String) (members : List (String × Json)) : Option Json :=
  (members.find? (·.1 == key)).map Prod.snd

def get? (key : String) : Json → Option Json
  | .obj members => find? key members
  | _ => none

def put {α β : Type} [BEq α] (key : α) (value : β) : List (α × β) → List (α × β)
  | [] => [(key, value)]
  | (k, v) :: rest => if k == key then (k, value) :: rest else (k, v) :: put key value rest

/-- Members in which a later one of the same key takes the place of the earlier. -/
def merge (members : List (String × Json)) : List (String × Json) :=
  members.foldl (fun ms (k, v) => put k v ms) []

mutual

def size : Json → Nat
  | .arr items => 1 + sizeItems items
  | .obj members => 1 + sizeMembers members
  | _ => 1

def sizeItems : List Json → Nat
  | [] => 0
  | x :: xs => size x + sizeItems xs

def sizeMembers : List (String × Json) → Nat
  | [] => 0
  | (_, x) :: xs => size x + sizeMembers xs

end

end Json

end CallSnapshot
