import CallSnapshot.Codec.Decode

/-! One difference between two values: where it lies and what it does. -/

namespace CallSnapshot

inductive ChangeKind where
  | create
  | remove
  | change
  deriving DecidableEq, Repr, Inhabited

def ChangeKind.title : ChangeKind → String
  | .create => "CREATE"
  | .remove => "REMOVE"
  | .change => "CHANGE"

def ChangeKind.ofTitle : String → ChangeKind
  | "CREATE" => .create
  | "REMOVE" => .remove
  | _ => .change

theorem ChangeKind.ofTitle_title (k : ChangeKind) : ofTitle k.title = k := by
  cases k <;> rfl

structure Change where
  path : List Value
  kind : ChangeKind
  value : Value := .null
  old : Value := .null
  deriving Repr, Inhabited

namespace Change

def toValue (c : Change) : Value :=
  .dict ([(.str "path", .list c.path), (.str "type", .str c.kind.title)] ++
    (if c.kind == .remove then [] else [(.str "value", c.value)]) ++
    (if c.kind == .create then [] else [(.str "old_value", c.old)]))

def location (c : Change) : String :=
  let text := ".".intercalate (c.path.map Value.plainText)
  if text.isEmpty then "<root>" else text

/-- One line about the change; integers with too many digits cannot be written. -/
def text (c : Change) : Except Fault String :=
  let shown := match c.kind with
    | .create => [c.value]
    | .remove => [c.old]
    | .change => [c.old, c.value]
  if Value.tooLongIn c.path || Value.tooLongIn shown then .error ⟨.value, Json.printLimitText⟩
  else
    let values := " -> ".intercalate (shown.map Value.display)
    .ok s!"{c.kind.title} {c.location}: {values}"

end Change

end CallSnapshot
