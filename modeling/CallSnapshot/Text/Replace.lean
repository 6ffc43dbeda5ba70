/-! Cutting texts at a mark and replacing one text by another. -/

namespace CallSnapshot.Text

/-- The rest of a text that begins with `head`. -/
def dropStart? : (head : List Char) → List Char → Option (List Char)
  | [], cs => some cs
  | h :: hs, c :: cs => if h == c then dropStart? hs cs else none
  | _ :: _, [] => none

def startsWith (head cs : List Char) : Bool := (dropStart? head cs).isSome

/-- The pieces of a text between the characters `mark`; the empty text is one empty piece. -/
def splitAt (mark : Char) : List Char → List (List Char)
  | [] => [[]]
  | c :: cs =>
    if c == mark then [] :: splitAt mark cs
    else match splitAt mark cs with
      | [] => [[c]]
      | p :: ps => (c :: p) :: ps

def joinWith (mark : List Char) : List (List Char) → List Char
  | [] => []
  | [p] => p
  | p :: ps => p ++ mark ++ joinWith mark ps

theorem splitAt_ne_nil (mark : Char) (cs : List Char) : splitAt mark cs ≠ [] := by
  cases cs with
  | nil => simp [splitAt]
  | cons c cs =>
    simp only [splitAt]
    split
    · simp
    · split <;> simp

theorem joinWith_splitAt (mark : Char) (cs : List Char) : joinWith [mark] (splitAt mark cs) = cs := by
  induction cs with
  | nil => rfl
  | cons c cs ih =>
    obtain ⟨p, ps, hs⟩ := List.exists_cons_of_ne_nil (splitAt_ne_nil mark cs)
    rw [hs] at ih
    by_cases h : c = mark
    · simp [splitAt, h, hs, joinWith, ih]
    · cases ps <;> simp_all [splitAt, joinWith]

/-- What stands before the first `mark` and what behind it. -/
def cutAt? (mark : Char) : List Char → Option (List Char × List Char)
  | [] => none
  | c :: cs => if c == mark then some ([], cs) else (cutAt? mark cs).map fun (a, b) => (c :: a, b)

def occursIn (part : List Char) : List Char → Bool
  | [] => part.isEmpty
  | c :: cs => part.isPrefixOf (c :: cs) || occursIn part cs

/-- Every occurrence of a text, from the left, replaced by another; `fuel` bounds the characters. -/
def replaceFrom (old new : List Char) : (fuel : Nat) → List Char → List Char
  | 0, cs => cs
  | _, [] => []
  | fuel + 1, c :: cs =>
    match dropStart? old (c :: cs) with
    | some rest => new ++ replaceFrom old new fuel rest
    | none => c :: replaceFrom old new fuel cs

def replace (old new : List Char) (cs : List Char) : List Char :=
  if old.isEmpty then cs else replaceFrom old new cs.length cs

end CallSnapshot.Text
