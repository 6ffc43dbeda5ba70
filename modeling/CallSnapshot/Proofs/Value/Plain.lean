import CallSnapshot.Proofs.Number.Magnitude

/-! The values of the plain domain: numbers, texts, times and names, and containers of these. -/

namespace CallSnapshot

namespace Date

def Valid (d : Date) : Prop :=
  1 ≤ d.year ∧ d.year ≤ 9999 ∧ 1 ≤ d.month ∧ d.month ≤ 12 ∧ 1 ≤ d.day ∧
    d.day ≤ monthLength d.year d.month

lemma check_eq_ok {d : Date} (h : d.Valid) : d.check = .ok d := by
  obtain ⟨h₁, h₂, h₃, h₄, h₅, h₆⟩ := h
  unfold check
  rw [if_neg (by simp; omega), if_neg (by simp; omega), if_neg (by simp; omega)]

end Date

/-- The bound of offsets from universal time: a day. -/
def offsetLimit : ℕ := 86400000000

namespace ClockTime

def Valid (t : ClockTime) : Prop :=
  t.hour < 24 ∧ t.minute < 60 ∧ t.second < 60 ∧ t.micro < 1000000 ∧
    ∀ o ∈ t.offset, o.natAbs < offsetLimit

lemma check_eq_ok {t : ClockTime} (h : t.Valid) : t.check = .ok t := by
  obtain ⟨h₁, h₂, h₃, -⟩ := h
  unfold check
  rw [if_neg (by omega), if_neg (by omega), if_neg (by omega)]

end ClockTime

namespace DateTime

def Valid (m : DateTime) : Prop := m.date.Valid ∧ m.time.Valid

end DateTime

namespace Uuid

def Valid (u : Uuid) : Prop := u.bits < 2 ^ 128

end Uuid

namespace Path

def IsName (n : String) : Prop := n ≠ "" ∧ n ≠ "." ∧ '/' ∉ n.toList

def Valid (p : Path) : Prop := ∀ n ∈ p.names, IsName n

end Path

namespace Decimal

def Valid : Decimal → Prop
  | .finite s m e => bounded? s m e = some (.finite s m e)
  | _ => True

end Decimal

namespace Value

/-- A plain value without parts. -/
inductive Atom : Value → Prop
  | null : Atom .null
  | bool (b : Bool) : Atom (.bool b)
  | int (n : ℤ) : Atom (.int n)
  | float {x : Binary64} (h : x.Valid) : Atom (.float x)
  | str (s : String) : Atom (.str s)
  | bytes (bs : List UInt8) : Atom (.bytes bs)
  | date {d : Date} (h : d.Valid) : Atom (.date d)
  | time {t : ClockTime} (h : t.Valid) : Atom (.time t)
  | datetime {m : DateTime} (h : m.Valid) : Atom (.datetime m)
  | decimal {d : Decimal} (h : d.Valid) : Atom (.decimal d)
  | complex {re im : Binary64} (hr : re.Valid) (hi : im.Valid) : Atom (.complex re im)
  | uuid {u : Uuid} (h : u.Valid) : Atom (.uuid u)
  | path {p : Path} (h : p.Valid) : Atom (.path p)

def IsNumber : Value → Prop
  | .float x => x.isNan = false
  | .decimal d => d.isNan = false
  | .complex re im => re.isNan = false ∧ im.isNan = false
  | _ => True

def Distinct (xs : List Value) : Prop := xs.Pairwise fun x y => x.eq y = false

/-- What sets and keys are told apart by: values without parts, durations, and tuples and sets of these. -/
inductive Hashed : Value → Prop
  | atom {v : Value} (h : Atom v) : Hashed v
  | duration (d : Duration) : Hashed (.duration d)
  | tuple {xs : List Value} (h : ∀ x ∈ xs, Hashed x) : Hashed (.tuple xs)
  | frozenset {xs : List Value} (h : ∀ x ∈ xs, Hashed x) (hd : Distinct xs) : Hashed (.frozenset xs)

/-- What may stand in a set or for a key: nothing that changes, nothing that differs from itself. -/
inductive Element : Value → Prop
  | atom {v : Value} (h : Atom v) (hn : v.IsNumber) : Element v
  | tuple {xs : List Value} (h : ∀ x ∈ xs, Element x) : Element (.tuple xs)
  | frozenset {xs : List Value} (h : ∀ x ∈ xs, Element x) (hd : Distinct xs) :
      Element (.frozenset xs)

inductive Plain : Value → Prop
  | atom {v : Value} (h : Atom v) : Plain v
  | list {xs : List Value} (h : ∀ x ∈ xs, Plain x) : Plain (.list xs)
  | tuple {xs : List Value} (h : ∀ x ∈ xs, Plain x) : Plain (.tuple xs)
  | set {xs : List Value} (h : ∀ x ∈ xs, Element x) (hd : Distinct xs) : Plain (.set xs)
  | frozenset {xs : List Value} (h : ∀ x ∈ xs, Element x) (hd : Distinct xs) :
      Plain (.frozenset xs)
  | dict {es : List (Value × Value)} (hk : ∀ e ∈ es, Element e.1) (hd : Distinct (es.map Prod.fst))
      (hv : ∀ e ∈ es, Plain e.2) : Plain (.dict es)

lemma Element.hashed {v : Value} (h : Element v) : Hashed v := by
  induction h with
  | atom h _ => exact .atom h
  | tuple _ ih => exact .tuple ih
  | frozenset _ hd ih => exact .frozenset ih hd

lemma Element.plain {v : Value} (h : Element v) : Plain v := by
  induction h with
  | atom h _ => exact .atom h
  | tuple _ ih => exact .tuple ih
  | frozenset h hd _ => exact .frozenset h hd

end Value

end CallSnapshot
