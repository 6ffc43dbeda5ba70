import CallSnapshot.Proofs.Diff.Clash
import CallSnapshot.Proofs.Diff.Positions

/-!
The changes between two values name the places where the values disagree, each of them once, and say
of each what lies there.
-/

namespace CallSnapshot.Diff

open Value (Distinct)

/-- The places where two values disagree, come to through containers of one kind on both sides. -/
inductive Disagree (t : Tolerance) : Value → Value → List Value → Prop
  | kinds {a b : Value} (h : container? a ≠ container? b) : Disagree t a b []
  | leaves {a b : Value} (ha : container? a = none) (hb : container? b = none)
      (h : valuesEqual t a b = .ok false) : Disagree t a b []
  | lost {a b k v : Value} {c : Container} (ha : container? a = some c) (hb : container? b = some c)
      (hv : Holds a k v) (hw : child? k b = none) : Disagree t a b [k]
  | gained {a b k w : Value} {c : Container} (ha : container? a = some c) (hb : container? b = some c)
      (hv : child? k a = none) (hw : Holds b k w) : Disagree t a b [k]
  | inner {a b k v w : Value} {c : Container} {p : List Value} (ha : container? a = some c)
      (hb : container? b = some c) (hv : Holds a k v) (hw : child? k b = some w) (h : Disagree t v w p) :
      Disagree t a b (k :: p)

/-- Two values of one structure, with leaves that count as equal. -/
inductive Matches (t : Tolerance) : Value → Value → Prop
  | leaf {a b : Value} (ha : container? a = none) (hb : container? b = none)
      (h : valuesEqual t a b = .ok true) : Matches t a b
  | container {a b : Value} {c : Container} (ha : container? a = some c) (hb : container? b = some c)
      (hv : ∀ k v, Holds a k v → (child? k b).isSome) (hw : ∀ k w, Holds b k w → (child? k a).isSome)
      (h : ∀ k v w, Holds a k v → child? k b = some w → Matches t v w) : Matches t a b

lemma matches_self {t : Tolerance} {P : Value → Prop} (parts : ∀ {a k v}, P a → Holds a k v → P v)
    (leaf : ∀ {a}, P a → container? a = none → valuesEqual t a a = .ok true) {a : Value} (hk : Keyed a) (h : P a) :
    Matches t a a := by
  induction hk using Keyed.induct with
  | step a hk ih =>
    cases hc : container? a with
    | none => exact .leaf hc hc (leaf h hc)
    | some c =>
      have found : ∀ k v, Holds a k v → child? k a = some v := fun k v hv => hk.child?_of_holds hv
      refine .container hc hc (fun k v hv => by simp [found k v hv]) (fun k v hv => by simp [found k v hv]) ?_
      intro k v w hv hw
      obtain rfl := Option.some.inj ((found k v hv).symm.trans hw)
      exact ih k v hv (parts h hv)

def Truthful (t : Tolerance) (a b : Value) (c : Change) : Prop :=
  match c.kind with
  | .create => part? c.path a = none ∧ part? c.path b = some c.value
  | .remove => part? c.path a = some c.old ∧ part? c.path b = none
  | .change => part? c.path a = some c.old ∧ part? c.path b = some c.value ∧
      (container? c.old = none ∨ container? c.old ≠ container? c.value) ∧
      valuesEqual t c.old c.value = .ok false

variable {t : Tolerance} {a b k : Value} {cs : List Change}

lemma valuesEqual_of_kinds (h : container? a ≠ container? b) : valuesEqual t a b = .ok false := by
  have hbool : (isBool a && isBool b) = false := by
    rw [Bool.eq_false_iff]
    intro both
    obtain ⟨ha, hb⟩ := Bool.and_eq_true_iff.mp both
    refine h ?_
    cases a with
    | bool => cases b with
      | bool => rfl
      | _ => cases hb
    | _ => cases ha
  unfold valuesEqual
  split
  · rw [hbool, Bool.false_and]
  · split
    · rename_i hm hn
      exact absurd ((container?_of_number? hm).trans (container?_of_number? hn).symm) h
    · rw [beq_false_of_ne h, Bool.false_and]

/-- Changes that tell of two values all that is to tell, and nothing else. -/
structure Exact (t : Tolerance) (a b : Value) (cs : List Change) : Prop where
  truthful : ∀ c ∈ cs, Truthful t a b c
  apart : cs.Pairwise fun c d => Apart c.path d.path
  complete : ∀ p, Disagree t a b p ↔ ∃ c ∈ cs, c.path = p
  empty : cs = [] ↔ Matches t a b

lemma exact_leaf (hc : container? a = none ∨ container? a ≠ container? b)
    (h : changesAt t [] a b = .ok cs) : Exact t a b cs := by
  have apart : ∀ {c}, container? a = some c → container? b = some c → False := by
    intro c ha hb
    rcases hc with hc | hc
    · cases hc.symm.trans ha
    · exact hc (ha.trans hb.symm)
  rw [changesAt_leaf [] hc, leaf] at h
  obtain ⟨same, hsame, h⟩ := bind_eq_ok.mp h
  cases same with
  | false =>
    obtain rfl : [⟨[], .change, b, a⟩] = cs := by simpa using h
    refine ⟨by simpa [Truthful, part?] using ⟨hc, hsame⟩, List.pairwise_singleton .., fun p => ?_, ?_⟩
    · have here : Disagree t a b [] := by
        by_cases hk : container? a = container? b
        · have ha : container? a = none := hc.resolve_right fun h => h hk
          exact .leaves ha (hk ▸ ha) hsame
        · exact .kinds hk
      constructor
      · intro hp
        cases hp with
        | kinds => exact ⟨_, List.mem_singleton_self _, rfl⟩
        | leaves => exact ⟨_, List.mem_singleton_self _, rfl⟩
        | lost ha hb => exact (apart ha hb).elim
        | gained ha hb => exact (apart ha hb).elim
        | inner ha hb => exact (apart ha hb).elim
      · rintro ⟨c, hc, rfl⟩
        rw [List.mem_singleton.mp hc]
        exact here
    · refine iff_of_false (List.cons_ne_nil _ _) fun hm => ?_
      cases hm with
      | leaf _ _ h => cases hsame.symm.trans h
      | container ha hb => exact apart ha hb
  | true =>
    obtain rfl : [] = cs := by simpa using h
    have hk : container? a = container? b := by
      by_contra hk
      cases hsame.symm.trans (valuesEqual_of_kinds hk)
    have ha : container? a = none := hc.resolve_right fun h => h hk
    refine ⟨by simp, .nil, fun p => iff_of_false (fun hp => ?_) (by simp), iff_of_true rfl (.leaf ha (hk ▸ ha) hsame)⟩
    cases hp with
    | kinds h => exact h hk
    | leaves _ _ h => cases hsame.symm.trans h
    | lost ha hb => exact apart ha hb
    | gained ha hb => exact apart ha hb
    | inner ha hb => exact apart ha hb

section Container

variable {here : List Change} {c : Container}

lemma Block.starts (h : Block t a b k here) : ∀ c ∈ here, ∃ p, c.path = k :: p := by
  intro c hc
  cases h with
  | common =>
    obtain ⟨d, -, rfl⟩ := List.mem_map.mp hc
    exact ⟨d.path, rfl⟩
  | lost => exact ⟨[], by rw [List.mem_singleton.mp hc]⟩
  | gained => exact ⟨[], by rw [List.mem_singleton.mp hc]⟩

lemma Block.of_matches (h : Block t a b k here) (hac : container? a = some c) (hm : Matches t a b) :
    ∃ v w, Holds a k v ∧ child? k b = some w ∧ Matches t v w := by
  cases hm with
  | leaf ha => cases ha.symm.trans hac
  | container _ _ hv hw hin =>
    cases h with
    | common hv' hw' => exact ⟨_, _, hv', hw', hin _ _ _ hv' hw'⟩
    | lost hv' hw' => simpa [hw'] using hv _ _ hv'
    | gained hv' hw' => simpa [hv'] using hw _ _ hw'

variable (ih : ∀ k v w ds, Holds a k v → child? k b = some w → changesAt t [] v w = .ok ds → Exact t v w ds)
include ih

lemma Block.truthful (ha : Keyed a) (hb : Keyed b) (h : Block t a b k here) : ∀ c ∈ here, Truthful t a b c := by
  intro c hc
  cases h with
  | @common v w ds hv hw h =>
    obtain ⟨d, hd, rfl⟩ := List.mem_map.mp hc
    have hva : ∀ p, part? (k :: p) a = part? p v := fun p => by rw [part?, ha.child?_of_holds hv, Option.bind_some]
    have hwb : ∀ p, part? (k :: p) b = part? p w := fun p => by rw [part?, hw, Option.bind_some]
    have htrue := (ih k v w ds hv hw h).truthful d hd
    simp only [Truthful, Change.below, List.singleton_append, hva, hwb]
    exact htrue
  | lost hv hw =>
    obtain rfl := List.mem_singleton.mp hc
    simp [Truthful, part?, ha.child?_of_holds hv, hw]
  | gained hv hw =>
    obtain rfl := List.mem_singleton.mp hc
    simp [Truthful, part?, hv, hb.child?_of_holds hw]

lemma Block.apart (h : Block t a b k here) : here.Pairwise fun c d => Apart c.path d.path := by
  cases h with
  | common hv hw h => exact List.pairwise_map.mpr ((ih _ _ _ _ hv hw h).apart.imp fun h => h.cons _)
  | lost => exact List.pairwise_singleton ..
  | gained => exact List.pairwise_singleton ..

lemma Block.complete (ha : Keyed a) (hac : container? a = some c) (hbc : container? b = some c)
    (h : Block t a b k here) (p : List Value) : Disagree t a b (k :: p) ↔ ∃ c ∈ here, c.path = k :: p := by
  cases h with
  | @common v w ds hv hw h =>
    have inner := (ih k v w ds hv hw h).complete p
    have outer : (∃ c ∈ ds.map (Change.below [k]), c.path = k :: p) ↔ ∃ d ∈ ds, d.path = p := by
      simp [Change.below]
    rw [outer, ← inner]
    constructor
    · intro hp
      cases hp with
      | lost _ _ _ hnone => cases hnone.symm.trans hw
      | gained _ _ hnone => cases hnone.symm.trans (ha.child?_of_holds hv)
      | inner _ _ hv' hw' hp =>
        obtain rfl := ha.holds_unique hv' hv
        obtain rfl := Option.some.inj (hw'.symm.trans hw)
        exact hp
    · exact .inner hac hbc hv hw
  | lost hv hw =>
    constructor
    · intro hp
      cases hp with
      | lost => exact ⟨_, List.mem_singleton_self _, rfl⟩
      | gained => exact ⟨_, List.mem_singleton_self _, rfl⟩
      | inner _ _ _ hw' => cases hw.symm.trans hw'
    · rintro ⟨c, hc, hp⟩
      obtain rfl := List.mem_singleton.mp hc
      cases hp
      exact .lost hac hbc hv hw
  | gained hv hw =>
    constructor
    · intro hp
      cases hp with
      | lost => exact ⟨_, List.mem_singleton_self _, rfl⟩
      | gained => exact ⟨_, List.mem_singleton_self _, rfl⟩
      | inner _ _ hv' => cases hv.symm.trans (ha.child?_of_holds hv')
    · rintro ⟨c, hc, hp⟩
      obtain rfl := List.mem_singleton.mp hc
      cases hp
      exact .gained hac hbc hv hw

lemma Block.empty_iff (ha : Keyed a) (h : Block t a b k here) :
    here = [] ↔ ∃ v w, Holds a k v ∧ child? k b = some w ∧ Matches t v w := by
  cases h with
  | @common v w ds hv hw h =>
    rw [List.map_eq_nil_iff, (ih k v w ds hv hw h).empty]
    refine ⟨fun hm => ⟨v, w, hv, hw, hm⟩, ?_⟩
    rintro ⟨v', w', hv', hw', hm⟩
    obtain rfl := ha.holds_unique hv hv'
    obtain rfl := Option.some.inj (hw.symm.trans hw')
    exact hm
  | lost _ hw =>
    refine iff_of_false nofun ?_
    rintro ⟨v', w', -, hw', -⟩
    cases hw.symm.trans hw'
  | gained hv _ =>
    refine iff_of_false nofun ?_
    rintro ⟨v', w', hv', -, -⟩
    cases hv.symm.trans (ha.child?_of_holds hv')

omit ih

section Keys

variable {keys : List Value} (hac : container? a = some c) (hbc : container? b = some c)
  (hakeys : ∀ k v, Holds a k v → k ∈ keys) (hbkeys : ∀ k w, Holds b k w → child? k a = none → k ∈ keys)

include hac hbc hakeys hbkeys

lemma Disagree.starts {p : List Value} (h : Disagree t a b p) : ∃ k ∈ keys, ∃ q, p = k :: q := by
  cases h with
  | kinds h => exact absurd (hac.trans hbc.symm) h
  | leaves ha => cases ha.symm.trans hac
  | lost _ _ hv _ => exact ⟨_, hakeys _ _ hv, _, rfl⟩
  | gained _ _ hv hw => exact ⟨_, hbkeys _ _ hw hv, _, rfl⟩
  | inner _ _ hv _ _ => exact ⟨_, hakeys _ _ hv, _, rfl⟩

lemma matches_of_keys (ha : Keyed a) (inside : ∀ k ∈ keys, ∃ v w, Holds a k v ∧ child? k b = some w ∧ Matches t v w) :
    Matches t a b := by
  refine .container hac hbc (fun k v hv => ?_) (fun k w hw => ?_) fun k v w hv hw => ?_
  · obtain ⟨v, w, -, hw, -⟩ := inside k (hakeys k v hv)
    rw [hw, Option.isSome_some]
  · by_contra hnokey
    rw [Option.not_isSome_iff_eq_none] at hnokey
    obtain ⟨v, w, hv, -, -⟩ := inside k (hbkeys k w hw hnokey)
    cases hnokey.symm.trans (ha.child?_of_holds hv)
  · obtain ⟨v', w', hv', hw', hm⟩ := inside k (hakeys k v hv)
    obtain rfl := ha.holds_unique hv hv'
    obtain rfl := Option.some.inj (hw.symm.trans hw')
    exact hm

end Keys

include ih

lemma exact_container (ha : Keyed a) (hb : Keyed b) (hac : container? a = some c) (hbc : container? b = some c)
    (h : changesAt t [] a b = .ok cs) : Exact t a b cs := by
  obtain ⟨keys, blocks, hblocks, hdiff, hakeys, hbkeys⟩ := changesAt_blocks ha hb hac hbc h
  have block : ∀ k ∈ keys, ∃ here, (k, here) ∈ blocks := by
    intro k hk
    rw [← hblocks.keys] at hk
    obtain ⟨⟨k, here⟩, hp, rfl⟩ := List.mem_map.mp hk
    exact ⟨here, hp⟩
  have mem : ∀ {c}, c ∈ cs ↔ ∃ p ∈ blocks, c ∈ p.2 := by
    intro c
    rw [hblocks.all, List.mem_flatMap]
  constructor
  · intro c hc
    obtain ⟨p, hp, hc⟩ := mem.mp hc
    exact (hblocks.each p hp).truthful ih ha hb c hc
  · rw [hblocks.all, List.pairwise_flatMap]
    refine ⟨fun p hp => (hblocks.each p hp).apart ih, ?_⟩
    rw [← hblocks.keys, List.pairwise_map] at hdiff
    refine hdiff.imp_of_mem fun hp hq hne c hc d hd => ?_
    obtain ⟨p', hp'⟩ := (hblocks.each _ hp).starts c hc
    obtain ⟨q', hq'⟩ := (hblocks.each _ hq).starts d hd
    rw [hp', hq']
    exact hne.apart p' q'
  · intro p
    constructor
    · intro hp
      obtain ⟨k, hk, q, rfl⟩ := hp.starts hac hbc hakeys hbkeys
      obtain ⟨here, hhere⟩ := block k hk
      obtain ⟨c, hc, hpath⟩ := ((hblocks.each _ hhere).complete ih ha hac hbc q).mp hp
      exact ⟨c, mem.mpr ⟨_, hhere, hc⟩, hpath⟩
    · rintro ⟨c, hc, rfl⟩
      obtain ⟨q, hq, hc⟩ := mem.mp hc
      obtain ⟨p, hp⟩ := (hblocks.each q hq).starts c hc
      rw [hp]
      exact ((hblocks.each q hq).complete ih ha hac hbc p).mpr ⟨c, hc, hp⟩
  · rw [hblocks.all, List.flatMap_eq_nil_iff]
    constructor
    · intro hnone
      refine matches_of_keys hac hbc hakeys hbkeys ha fun k hk => ?_
      obtain ⟨here, hhere⟩ := block k hk
      exact ((hblocks.each _ hhere).empty_iff ih ha).mp (hnone _ hhere)
    · intro hm p hp
      exact ((hblocks.each p hp).empty_iff ih ha).mpr ((hblocks.each p hp).of_matches hac hm)

end Container

lemma exact_changesAt (ha : Keyed a) (hb : Keyed b) (h : changesAt t [] a b = .ok cs) : Exact t a b cs := by
  induction ha using Keyed.induct generalizing b cs with
  | step a ha ih =>
    by_cases hc : container? a = none ∨ container? a ≠ container? b
    · exact exact_leaf hc h
    · push Not at hc
      obtain ⟨c, hac⟩ := Option.ne_none_iff_exists'.mp hc.1
      exact exact_container (fun k v w ds hv hw h => ih k v hv (hb.of_child? hw) h) ha hb hac (hc.2 ▸ hac) h

lemma Matches.not_clash (ha : Keyed a) (hb : Keyed b) (h : Matches t a b) : ¬ Clash t a b := by
  intro hc
  induction hc with
  | numbers hm hn hclash =>
    cases h with
    | leaf _ _ hsame => exact (leaf_ok_iff (p := [])).mp ⟨[], by rw [Diff.leaf, hsame]; rfl⟩ _ hm _ hn hclash
    | container ha' => cases (container?_of_number? hm).symm.trans ha'
  | entry hac hbc hv hw _ ih =>
    cases h with
    | leaf hn => cases hn.symm.trans hac
    | container _ _ _ _ hin =>
      obtain ⟨es, rfl⟩ := ha.mapping hac
      obtain ⟨fs, rfl⟩ := hb.mapping hbc
      exact ih (ha.child (.dict hv)) (hb.of_child? hw) (hin _ _ _ (.dict hv) hw)
  | @item a b x y c i hne hac hbc hx hy _ ih =>
    cases h with
    | leaf hn => cases hn.symm.trans hac
    | container _ _ _ _ hin =>
      obtain ⟨seq, xs, hs, rfl⟩ := ha.sequence hac hne
      obtain ⟨seq', ys, hs', rfl⟩ := hb.sequence hbc hne
      rw [hs.items] at hx
      rw [hs'.items] at hy
      have held : Holds (seq xs) (.int i) x := hs.holds_iff.mpr ⟨i, rfl, hx⟩
      have found : child? (.int i) (seq' ys) = some y := (hs'.child?_int i).trans hy
      exact ih (ha.child held) (hb.of_child? found) (hin _ _ _ held found)

lemma changes_eq_nil_iff (ha : Keyed a) (hb : Keyed b) : changes t a b = .ok [] ↔ Matches t a b := by
  constructor
  · exact fun h => (exact_changesAt ha hb h).empty.mp rfl
  · intro hm
    obtain ⟨cs, hcs⟩ := (changesAt_ok_iff t [] a b).mpr (hm.not_clash ha hb)
    obtain rfl := (exact_changesAt ha hb hcs).empty.mpr hm
    exact hcs

/-- The changes between two values are true, lie apart from each other and are all there are; there are none
exactly where the values match. -/
theorem changes_exact (ha : Keyed a) (hb : Keyed b) (h : changes t a b = .ok cs) :
    (∀ c ∈ cs, Truthful t a b c) ∧ (cs.Pairwise fun c d => Apart c.path d.path) ∧
      (∀ p, Disagree t a b p ↔ ∃ c ∈ cs, c.path = p) ∧ (cs = [] ↔ Matches t a b) := by
  obtain ⟨truthful, apart, complete, empty⟩ := exact_changesAt ha hb h
  exact ⟨truthful, apart, complete, empty⟩

def before : Value := .dict [(.int 1, .list [.int 1, .null]), (.str "x", .tuple [])]

def after : Value := .dict [(.bool true, .list [.str "1"]), (.str "y", .list [])]

def between : List Change :=
  [⟨[.int 1, .int 0], .change, .str "1", .int 1⟩, ⟨[.int 1, .int 1], .remove, .null, .null⟩,
    ⟨[.str "x"], .remove, .null, .tuple []⟩, ⟨[.str "y"], .create, .list [], .null⟩]

theorem changes_exact_between :
    (∀ c ∈ between, Truthful exact before after c) ∧ (between.Pairwise fun c d => Apart c.path d.path) ∧
      (∀ p, Disagree exact before after p ↔ ∃ c ∈ between, c.path = p) ∧
      (between = [] ↔ Matches exact before after) := by
  have atom : ∀ {v}, Value.Atom v → v.IsNumber → Key v := fun h hn => .of_element (.atom h hn)
  refine changes_exact (.dict ?_ ?_ ?_) (.dict ?_ ?_ ?_) ?_
  · simpa using ⟨atom (.int 1) trivial, atom (.str "x") trivial⟩
  · simp [Distinct, Value.eq, Value.quantityEq, Value.complexParts?, Value.quantity?]
  · have items : ∀ x ∈ [Value.int 1, .null], Keyed x := by simpa using ⟨.leaf rfl, .leaf rfl⟩
    simpa using ⟨.list items, .tuple (by simp)⟩
  · simpa using ⟨atom (.bool true) trivial, atom (.str "y") trivial⟩
  · simp [Distinct, Value.eq, Value.quantityEq, Value.complexParts?, Value.quantity?]
  · have items : ∀ x ∈ [Value.str "1"], Keyed x := by simpa using .leaf rfl
    simpa using ⟨.list items, .list (by simp)⟩
  · cbv

end CallSnapshot.Diff
