import CallSnapshot.Text.Replace

/-!
Patterns for names: `*` stands for any text, `?` for one character, and brackets for one character
of a set. A bracket without an end stands for itself.
-/

namespace CallSnapshot

inductive Wildcard where
  | char (c : Char)
  | any
  | many
  /-- A character within one of the ranges, or outside of all. -/
  | set (negated : Bool) (ranges : List (Char × Char))
  deriving DecidableEq, Repr, Inhabited

namespace Wildcard

def single (c : Char) : Char × Char := (c, c)

/-- The pieces of a set between its hyphens; one at the start and one right behind a range are plain
characters. -/
def piecesFrom : (fuel : Nat) → (skip : Nat) → (piece : List Char) → List Char → List (List Char)
  | 0, _, piece, cs => [piece ++ cs]
  | _, _, piece, [] => [piece]
  | fuel + 1, 0, piece, '-' :: cs => piece :: piecesFrom fuel 2 [] cs
  | fuel + 1, skip, piece, c :: cs => piecesFrom fuel (skip - 1) (piece ++ [c]) cs

def pieces (cs : List Char) : List (List Char) :=
  let ps := piecesFrom (cs.length + 1) 1 [] cs
  match ps.reverse with
  | [] :: p :: rest => ((p ++ ['-']) :: rest).reverse
  | _ => ps

/-- Joins two pieces whose hyphen makes a range without characters; from the last piece on. -/
def joinEmpty : List (List Char) → List (List Char)
  | [] => []
  | p :: ps =>
    match joinEmpty ps with
    | [] => [p]
    | q :: qs =>
      match p.getLast?, q.head? with
      | some a, some b => if b < a then (p.dropLast ++ q.drop 1) :: qs else p :: q :: qs
      | _, _ => p :: q :: qs

/-- The ranges of pieces with hyphens between them. -/
def rangesOf : List (List Char) → List (Char × Char)
  | [] => []
  | [p] => p.map single
  | p :: q :: rest =>
    match p.getLast?, q.head? with
    | some a, some b => (p.dropLast.map single) ++ (a, b) :: rangesOf (q.drop 1 :: rest)
    | _, _ => p.map single ++ rangesOf (q :: rest)
termination_by ps => ps.length

def setOf (cs : List Char) : Wildcard :=
  let (negated, cs) := match cs with
    | '!' :: cs => (true, cs)
    | cs => (false, cs)
  .set negated (rangesOf (joinEmpty (pieces cs)))

/-- The characters of a bracket and the rest behind it. -/
def bracket? (cs : List Char) : Option (List Char × List Char) :=
  let (head, cs) := match cs with
    | '!' :: ']' :: cs => (['!', ']'], cs)
    | '!' :: cs => (['!'], cs)
    | ']' :: cs => ([']'], cs)
    | cs => ([], cs)
  match cs.dropWhile (· != ']') with
  | [] => none
  | _ :: rest => some (head ++ cs.takeWhile (· != ']'), rest)

def parseFrom : (fuel : Nat) → List Char → List Wildcard
  | 0, _ => []
  | _, [] => []
  | fuel + 1, '*' :: cs => .many :: parseFrom fuel cs
  | fuel + 1, '?' :: cs => .any :: parseFrom fuel cs
  | fuel + 1, '[' :: cs =>
    match bracket? cs with
    | some (inside, rest) => setOf inside :: parseFrom fuel rest
    | none => .char '[' :: parseFrom fuel cs
  | fuel + 1, c :: cs => .char c :: parseFrom fuel cs

def parse (cs : List Char) : List Wildcard := parseFrom (cs.length + 1) cs

def admits (w : Wildcard) (c : Char) : Bool :=
  match w with
  | .char d => c == d
  | .any => true
  | .many => false
  | .set negated ranges => negated != ranges.any fun (a, b) => a ≤ c && c ≤ b

def someEnd (rest : List Char → Bool) : List Char → Bool
  | [] => rest []
  | c :: cs => rest (c :: cs) || someEnd rest cs

def matchesFrom : List Wildcard → List Char → Bool
  | [], cs => cs.isEmpty
  | .many :: ws, cs => someEnd (matchesFrom ws) cs
  | _ :: _, [] => false
  | w :: ws, c :: cs => w.admits c && matchesFrom ws cs

def matchesName (pattern : List Char) (name : String) : Bool := matchesFrom (parse pattern) name.toList

def isPattern (cs : List Char) : Bool := cs.any fun c => c == '*' || c == '?' || c == '['

end Wildcard

end CallSnapshot
