import CallSnapshot.Number.Binary64

/-! Modules as trees of statements and expressions. -/

namespace CallSnapshot.Source

inductive Literal where
  | none
  | bool (b : Bool)
  | ellipsis
  | int (n : Nat)
  | float (x : Binary64)
  | imaginary (x : Binary64)
  /-- A text; `marked` where its first part stands behind a `u`. -/
  | text (s : String) (marked : Bool)
  | bytes (bs : List UInt8)
  deriving Repr, Inhabited

inductive UnaryOp where
  | invert
  | not
  | plus
  | minus
  deriving DecidableEq, Repr

inductive BinaryOp where
  | add
  | subtract
  | multiply
  | matrixMultiply
  | divide
  | remainder
  | floorDivide
  | power
  | shiftLeft
  | shiftRight
  | bitOr
  | bitXor
  | bitAnd
  deriving DecidableEq, Repr

inductive BooleanOp where
  | and
  | or
  deriving DecidableEq, Repr

inductive CompareOp where
  | equal
  | unequal
  | less
  | lessEqual
  | greater
  | greaterEqual
  | same
  | notSame
  | within
  | notWithin
  deriving DecidableEq, Repr

/-- The kinds of comprehensions that give single items. -/
inductive Gathering where
  | list
  | set
  | generator
  deriving DecidableEq, Repr

mutual

inductive Expr where
  | literal (value : Literal)
  | name (id : String)
  | formatted (pieces : List Piece)
  | unary (op : UnaryOp) (operand : Expr)
  | binary (op : BinaryOp) (left right : Expr)
  | boolean (op : BooleanOp) (operands : List Expr)
  | compare (first : Expr) (rest : List Comparison)
  | conditional (test yes no : Expr)
  | lambda (params : Params) (body : Expr)
  | named (target value : Expr)
  | call (function : Expr) (arguments : List Expr) (keywords : List Keyword)
  | attribute (value : Expr) (name : String)
  | subscript (value index : Expr)
  | slice (lower upper step : Option Expr)
  | starred (value : Expr)
  | list (items : List Expr)
  | tuple (items : List Expr)
  | set (items : List Expr)
  | dict (entries : List Entry)
  | gathered (kind : Gathering) (item : Expr) (clauses : List Clause)
  | gatheredDict (key value : Expr) (clauses : List Clause)
  | await (value : Expr)
  | yield (value : Option Expr)
  | yieldFrom (value : Expr)

/-- A part of a formatted text: a text, or a value with its conversion and its format. -/
inductive Piece where
  | text (s : String)
  | value (value : Expr) (conversion : Option Char) (format : Option (List Piece))

inductive Comparison where
  | mk (op : CompareOp) (operand : Expr)

/-- An argument by name, or a mapping of such arguments where there is no name. -/
inductive Keyword where
  | mk (name : Option String) (value : Expr)

/-- An entry of a dictionary, or a dictionary to unpack where there is no key. -/
inductive Entry where
  | mk (key : Option Expr) (value : Expr)

inductive Clause where
  | mk (isAsync : Bool) (target source : Expr) (conditions : List Expr)

inductive Param where
  | mk (name : String) (type : Option Expr) (default : Option Expr)

/-- Parameters: by position only, by position or name, all further ones by position, by name only,
and all further ones by name. -/
inductive Params where
  | mk (leading ordinary : List Param) (rest : Option Param) (named : List Param)
      (extra : Option Param)

end

instance : Inhabited Expr := ⟨.literal .none⟩

def Params.empty : Params := .mk [] [] none [] none

inductive Pattern where
  | value (value : Expr)
  | constant (value : Literal)
  | sequence (items : List Pattern)
  | mapping (entries : List (Expr × Pattern)) (rest : Option String)
  | shape (cls : Expr) (items : List Pattern) (named : List (String × Pattern))
  /-- All further items, under a name or dropped. -/
  | star (name : Option String)
  /-- Anything, under a name or dropped. -/
  | capture (name : Option String)
  | alias (pattern : Pattern) (name : String)
  | choice (patterns : List Pattern)

/-- A name to import, and the name to bind. -/
structure Alias where
  name : String
  bound : Option String
  deriving DecidableEq, Repr

mutual

inductive Statement where
  | function (isAsync : Bool) (decorators : List Expr) (name : String) (params : Params)
      (returns : Option Expr) (body : List Statement)
  | cls (decorators : List Expr) (name : String) (bases : List Expr) (keywords : List Keyword)
      (body : List Statement)
  | give (value : Option Expr)
  | delete (targets : List Expr)
  | assign (targets : List Expr) (value : Expr)
  | augment (target : Expr) (op : BinaryOp) (value : Expr)
  /-- A target with its type; `plain` where it is a name without brackets. -/
  | declare (target : Expr) (plain : Bool) (type : Expr) (value : Option Expr)
  | each (isAsync : Bool) (target source : Expr) (body otherwise : List Statement)
  | loop (test : Expr) (body otherwise : List Statement)
  | branch (test : Expr) (body otherwise : List Statement)
  | within (isAsync : Bool) (items : List (Expr × Option Expr)) (body : List Statement)
  | select (subject : Expr) (cases : List Case)
  | fail (fault cause : Option Expr)
  | guard (isGroup : Bool) (body : List Statement) (handlers : List Handler)
      (otherwise final : List Statement)
  | assert (test : Expr) (message : Option Expr)
  | load (names : List Alias)
  | loadFrom (module : Option String) (names : List Alias) (level : Nat)
  | global (names : List String)
  | nonlocal (names : List String)
  | expression (value : Expr)
  | pass
  | leave
  | next

inductive Case where
  | mk (pattern : Pattern) (condition : Option Expr) (body : List Statement)

inductive Handler where
  | mk (type : Option Expr) (name : Option String) (body : List Statement)

end

instance : Inhabited Statement := ⟨.pass⟩

abbrev Module := List Statement

end CallSnapshot.Source
