import CallSnapshot.Proofs.Time.Duration
import CallSnapshot.Proofs.Value.Equivalence
import CallSnapshot.Proofs.Value.Plain

/-! What lies in a value, at any depth. -/

namespace CallSnapshot.Value

def parts : Value → List Value
  | .list xs => xs
  | .tuple xs => xs
  | .set xs => xs
  | .frozenset xs => xs
  | .dict es => es.map Prod.fst ++ es.map Prod.snd
  | _ => []

inductive Within : Value → Value → Prop
  | self (v : Value) : Within v v
  | part {x p v : Value} (hp : p ∈ v.parts) (hx : Within x p) : Within x v

lemma Within.trans {x y v : Value} (h : Within x y) (hy : Within y v) : Within x v := by
  induction hy with
  | self => exact h
  | part hp _ ih => exact .part hp ih

def Everywhere (P : Value → Prop) (v : Value) : Prop := ∀ x, Within x v → P x

lemma everywhere_iff {P : Value → Prop} {v : Value} :
    Everywhere P v ↔ P v ∧ ∀ p ∈ v.parts, Everywhere P p := by
  constructor
  · exact fun h => ⟨h v (.self v), fun p hp x hx => h x (.part hp hx)⟩
  · rintro ⟨hv, hp⟩ x hx
    cases hx with
    | self => exact hv
    | part hm hx => exact hp _ hm x hx

lemma Atom.parts_eq_nil {v : Value} (h : Atom v) : v.parts = [] := by
  cases h <;> rfl

lemma everywhere_of_parts_eq_nil {P : Value → Prop} {v : Value} (h : v.parts = []) : Everywhere P v ↔ P v := by
  simp [everywhere_iff (v := v), h]

lemma everywhere_atom {P : Value → Prop} {v : Value} (h : Atom v) : Everywhere P v ↔ P v :=
  everywhere_of_parts_eq_nil h.parts_eq_nil

/-- Induction over plain values that goes through the elements of sets and the keys as well. -/
@[elab_as_elim]
lemma Plain.induct {motive : (v : Value) → Plain v → Prop}
    (atom : ∀ v (h : Atom v), motive v (.atom h))
    (list : ∀ xs (h : ∀ x ∈ xs, Plain x), (∀ x hx, motive x (h x hx)) → motive (.list xs) (.list h))
    (tuple : ∀ xs (h : ∀ x ∈ xs, Plain x), (∀ x hx, motive x (h x hx)) →
      motive (.tuple xs) (.tuple h))
    (set : ∀ xs (h : ∀ x ∈ xs, Element x) (hd : Distinct xs),
      (∀ x hx, motive x (h x hx).plain) → motive (.set xs) (.set h hd))
    (frozenset : ∀ xs (h : ∀ x ∈ xs, Element x) (hd : Distinct xs),
      (∀ x hx, motive x (h x hx).plain) → motive (.frozenset xs) (.frozenset h hd))
    (dict : ∀ es (hk : ∀ e ∈ es, Element e.1) (hd : Distinct (es.map Prod.fst))
      (hv : ∀ e ∈ es, Plain e.2), (∀ e he, motive e.1 (hk e he).plain) →
      (∀ e he, motive e.2 (hv e he)) → motive (.dict es) (.dict hk hd hv))
    {v : Value} (h : Plain v) : motive v h := by
  have element : ∀ x (hx : Element x), motive x hx.plain := by
    intro x hx
    induction hx with
    | atom h _ => exact atom _ h
    | tuple h ih => exact tuple _ (fun x hx => (h x hx).plain) ih
    | frozenset h hd ih => exact frozenset _ h hd ih
  induction h with
  | atom h => exact atom _ h
  | list h ih => exact list _ h ih
  | tuple h ih => exact tuple _ h ih
  | set h hd => exact set _ h hd fun x hx => element x (h x hx)
  | frozenset h hd => exact frozenset _ h hd fun x hx => element x (h x hx)
  | dict hk hd hv ih => exact dict _ hk hd hv (fun e he => element e.1 (hk e he)) ih

end CallSnapshot.Value

/-!
Values of the basic kinds at every depth: no instances, members of enumerations, functions,
iterators and arrays, and nothing in a set or for a key that can change.
-/

namespace CallSnapshot

namespace Value

inductive Basic : Value → Prop
  | atom {v : Value} (h : Atom v) : Basic v
  | duration {d : Duration} (h : d.Settled) : Basic (.duration d)
  | list {xs : List Value} (h : ∀ x ∈ xs, Basic x) : Basic (.list xs)
  | tuple {xs : List Value} (h : ∀ x ∈ xs, Basic x) : Basic (.tuple xs)
  | set {xs : List Value} (h : ∀ x ∈ xs, Basic x) (hh : ∀ x ∈ xs, x.hashFault? = none) (hd : Distinct xs) :
      Basic (.set xs)
  | frozenset {xs : List Value} (h : ∀ x ∈ xs, Basic x) (hh : ∀ x ∈ xs, x.hashFault? = none)
      (hd : Distinct xs) : Basic (.frozenset xs)
  | dict {es : List (Value × Value)} (hk : ∀ e ∈ es, Basic e.1) (hh : ∀ e ∈ es, e.1.hashFault? = none)
      (hd : Distinct (es.map Prod.fst)) (hv : ∀ e ∈ es, Basic e.2) : Basic (.dict es)

lemma hashFaultIn?_eq_none {xs : List Value} :
    hashFaultIn? xs = none ↔ ∀ x ∈ xs, x.hashFault? = none := by
  induction xs with
  | nil => simp [hashFaultIn?]
  | cons x xs ih => simp [hashFaultIn?, Option.or_eq_none_iff, ih]

lemma Element.hashFault?_eq_none {v : Value} (h : Element v) : v.hashFault? = none := by
  induction h with
  | atom h hn =>
    cases h with
    | @decimal d h => cases d <;> simp_all [hashFault?, Decimal.isSignalling, IsNumber, Decimal.isNan]
    | _ => rfl
  | tuple _ ih => simpa [hashFault?] using hashFaultIn?_eq_none.mpr ih
  | frozenset _ _ _ => rfl

lemma Plain.basic {v : Value} (h : Plain v) : Basic v := by
  induction h using Plain.induct with
  | atom v h => exact .atom h
  | list xs _ ih => exact .list ih
  | tuple xs _ ih => exact .tuple ih
  | set xs h hd ih => exact .set ih (fun x hx => (h x hx).hashFault?_eq_none) hd
  | frozenset xs h hd ih => exact .frozenset ih (fun x hx => (h x hx).hashFault?_eq_none) hd
  | dict es hk hd _ ihk ihv => exact .dict ihk (fun e he => (hk e he).hashFault?_eq_none) hd ihv

lemma Basic.hashed {v : Value} (h : Basic v) (hh : v.hashFault? = none) : Hashed v := by
  induction h with
  | atom h => exact .atom h
  | @duration d _ => exact .duration d
  | list => cases hh
  | set => cases hh
  | dict => cases hh
  | tuple _ ih =>
    rw [hashFault?, hashFaultIn?_eq_none] at hh
    exact .tuple fun x hx => ih x hx (hh x hx)
  | frozenset _ hx hd ih => exact .frozenset (fun x hm => ih x hm (hx x hm)) hd

lemma Basic.textOf?_eq_some {v : Value} (h : Basic v) {s : String} : v.textOf? = some s ↔ v = .str s := by
  cases h with
  | atom h => cases h <;> simp [textOf?]
  | _ => simp [textOf?]

end Value

end CallSnapshot
