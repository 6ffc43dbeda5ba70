import CallSnapshot.Source.Instrument
import Mathlib

/-!
Instrumenting a module a second time. The second pass works out the exports anew, from a module with
new names and new bindings; the point is that it finds no export that the first pass did not have.
-/

namespace CallSnapshot.Source

/-! Shadows are private, and none of them is the list of exports. -/

lemma isOwnName_shadow (name : String) : isOwnName (shadowLead ++ name) = true := by
  have h : (shadowLead ++ name).startsWith shadowLead = true := by
    rw [String.startsWith_string_iff, String.toList_append]
    exact List.prefix_append _ _
  rw [isOwnName, h, Bool.true_or]

lemma startsWith_underscore {n : String} {cs : List Char} (h : n.toList = '_' :: cs) :
    n.startsWith "_" = true := by
  rw [String.startsWith_string_iff, h]
  exact ⟨cs, rfl⟩

lemma shadow_private (name : String) : (shadowLead ++ name).startsWith "_" = true :=
  startsWith_underscore String.toList_append

lemma shadow_ne_allName (name : String) : shadowLead ++ name ≠ allName := by
  intro h
  have hsecond := congrArg (fun s => s.toList[1]?) h
  rw [String.toList_append] at hsecond
  cases hsecond

def Statement.Defines (name : String) (s : Statement) : Prop :=
  ∃ isAsync decorators params returns body, s = .function isAsync decorators name params returns body

section Parts

variable {exported : List String} {s : Statement} {name : String} {rename : String → Statement}

lemma listing?_lambda {value : Expr} (h : isLambda value = true) : listedTexts value = [] := by
  cases value <;> first | rfl | cases h

lemma function?_spec (h : s.function? = some (name, rename)) : s = rename name ∧ ∀ id,
    (rename id).function? = some (id, rename) ∧ (rename id).binds = [id] ∧
      ((rename id).listing? = none ∨ id = allName ∧ (rename id).listing? = some (.set [])) := by
  unfold Statement.function? at h
  split at h
  case h_1 =>
    cases h
    exact ⟨rfl, fun id => ⟨rfl, rfl, .inl rfl⟩⟩
  case h_2 =>
    split at h
    case isFalse => cases h
    case isTrue hl =>
      cases h
      refine ⟨rfl, fun id => ⟨by simp [Statement.function?, hl], rfl, ?_⟩⟩
      by_cases hid : id = allName <;> simp [Statement.listing?, isAllName, hid, listing?_lambda hl]
  case h_3 =>
    split at h
    case isFalse => cases h
    case isTrue hl =>
      cases h
      refine ⟨rfl, fun id => ⟨by simp [Statement.function?, hl], rfl, ?_⟩⟩
      by_cases hid : id = allName <;> simp [Statement.listing?, isAllName, hid, listing?_lambda hl]
  case h_4 => cases h

lemma listing?_of_not_defines (h : s.function? = some (allName, rename)) (hs : ¬ s.Defines allName) :
    s.listing? = some (.set []) := by
  unfold Statement.function? at h
  split at h
  case h_1 isAsync decorators _ params returns body =>
    cases h
    exact (hs ⟨isAsync, decorators, params, returns, body, rfl⟩).elim
  case h_2 | h_3 =>
    split at h
    case isFalse => cases h
    case isTrue hl =>
      cases h
      simp [Statement.listing?, isAllName, listing?_lambda hl]
  case h_4 => cases h

/-- A statement stays as it is, or it defines an exported function and is kept under another name,
with its recorder behind it. -/
inductive Wraps (exported : List String) (s : Statement) : List Statement → List String → Prop
  | same (h : ∀ name rename, s.function? = some (name, rename) → name ∈ exported →
      isOwnName name = true) : Wraps exported s [s] []
  | recorded {name : String} {rename : String → Statement}
      (hs : s.function? = some (name, rename)) (hname : name ∈ exported) :
      Wraps exported s [rename (shadowLead ++ name), wrapper name (shadowLead ++ name)] [name]

lemma wraps_wrap (exported : List String) (s : Statement) :
    Wraps exported s (s.wrap exported).1 (s.wrap exported).2 := by
  unfold Statement.wrap
  cases hs : s.function? with
  | none => exact .same fun _ _ h => by rw [hs] at h; cases h
  | some p =>
    obtain ⟨name, rename⟩ := p
    by_cases hname : (exported.contains name && !isOwnName name) = true
    · simp only [hname, if_true]
      exact .recorded hs (by simpa using (Bool.and_eq_true_iff.mp hname).1)
    · simp only [hname]
      refine .same fun name' _ h hexp => ?_
      rw [hs] at h
      cases h
      simpa [hexp] using hname

lemma wrap_of_own (h : ∀ name rename, s.function? = some (name, rename) → name ∈ exported →
    isOwnName name = true) : s.wrap exported = ([s], []) := by
  unfold Statement.wrap
  cases hs : s.function? with
  | none => rfl
  | some p =>
    obtain ⟨name, rename⟩ := p
    by_cases hname : name ∈ exported
    · simp [hname, h name rename hs hname]
    · simp [hname]

end Parts

lemma Wraps.wrap_again {exported exported' : List String} {s p : Statement} {ps : List Statement}
    {names : List String} (h : Wraps exported s ps names) (hsub : exported' ⊆ exported) (hp : p ∈ ps) :
    p.wrap exported' = ([p], []) := by
  apply wrap_of_own
  cases h with
  | same h =>
    obtain rfl := List.mem_singleton.mp hp
    exact fun name rename hf hname => h name rename hf (hsub hname)
  | @recorded name rename hs hname =>
    intro name' rename' hf _
    rcases List.mem_pair.mp hp with rfl | rfl
    · rw [((function?_spec hs).2 _).1] at hf
      cases hf
      exact isOwnName_shadow name
    · cases hf

/-! The list of exports of an instrumented module. -/

/-- The list of exports on the way through two modules: the new one has no name that the old one lacks,
and it is there when the old one is. -/
def Shrinks (new old : Option (List String)) : Prop :=
  new.getD [] ⊆ old.getD [] ∧ (old.isSome = true → new.isSome = true)

def listedFrom (names : Option (List String)) (m : Module) : Option (List String) :=
  (m.filterMap Statement.listing?).foldl (fun names l => some (l.apply names)) names

lemma listedFrom_append (names : Option (List String)) (m₁ m₂ : Module) :
    listedFrom names (m₁ ++ m₂) = listedFrom (listedFrom names m₁) m₂ := by
  rw [listedFrom, List.filterMap_append, List.foldl_append]
  rfl

lemma listedFrom_cons (names : Option (List String)) (s : Statement) (m : Module) :
    listedFrom names (s :: m) = listedFrom (listedFrom names [s]) m := listedFrom_append names [s] m

lemma listedFrom_unlisted (names : Option (List String)) {s : Statement} (h : s.listing? = none) :
    listedFrom names [s] = names := by
  simp [listedFrom, h]

lemma listedFrom_listed (names : Option (List String)) {s : Statement} {l : Listing}
    (h : s.listing? = some l) : listedFrom names [s] = some (l.apply names) := by
  simp [listedFrom, h]

lemma Shrinks.listedFrom {new old : Option (List String)} (h : Shrinks new old) (s : Statement) :
    Shrinks (listedFrom new [s]) (listedFrom old [s]) := by
  cases hs : s.listing? with
  | none =>
    rw [listedFrom_unlisted _ hs, listedFrom_unlisted _ hs]
    exact h
  | some l =>
    rw [listedFrom_listed _ hs, listedFrom_listed _ hs]
    refine ⟨?_, fun _ => rfl⟩
    cases l with
    | set names => exact fun _ hn => hn
    | extend names =>
      intro n hn
      rcases List.mem_append.mp hn with hn | hn
      · exact List.mem_append_left _ (h.1 hn)
      · exact List.mem_append_right _ hn

lemma listing?_wrapper (name shadow : String) :
    (wrapper name shadow).listing? = if name = allName then some (.set []) else none := by
  by_cases hn : name = allName <;> simp [wrapper, Statement.listing?, isAllName, listedTexts, hn]

lemma listedFrom_recorded (names : Option (List String)) {s : Statement} {name : String}
    {rename : String → Statement} (hs : s.function? = some (name, rename)) :
    listedFrom names [rename (shadowLead ++ name), wrapper name (shadowLead ++ name)] =
      if name = allName then some [] else names := by
  have hshadow : (rename (shadowLead ++ name)).listing? = none :=
    ((function?_spec hs).2 _).2.2.resolve_right fun h => shadow_ne_allName name h.1
  rw [listedFrom_cons, listedFrom_unlisted names hshadow]
  split
  case isTrue hn => rw [listedFrom_listed names (by rw [listing?_wrapper, if_pos hn])]; rfl
  case isFalse hn => rw [listedFrom_unlisted names (by rw [listing?_wrapper, if_neg hn])]

lemma listedFrom_function (names : Option (List String)) {s : Statement} {name : String}
    {rename : String → Statement} (hs : s.function? = some (name, rename)) (hn : name ≠ allName) :
    listedFrom names [s] = names := by
  obtain ⟨hrename, hspec⟩ := function?_spec hs
  rw [hrename]
  exact listedFrom_unlisted names ((hspec name).2.2.resolve_right fun h => hn h.1)

section Pass

variable {exported : List String} {s : Statement} {ps : List Statement} {names : List String}

lemma Wraps.shrinks {new old : Option (List String)} (h : Wraps exported s ps names)
    (hshrinks : Shrinks new old) : Shrinks (listedFrom new ps) (listedFrom old [s]) := by
  cases h with
  | same => exact hshrinks.listedFrom s
  | @recorded name rename hs hname =>
    rw [listedFrom_recorded new hs]
    split
    case isTrue => exact ⟨fun _ hn => (List.not_mem_nil hn).elim, fun _ => rfl⟩
    case isFalse hn =>
      rw [listedFrom_function old hs hn]
      exact hshrinks

/-- A recorder leaves the list as its function does, for a lambda that is bound to the list empties it too. -/
lemma Wraps.listed {listed : Option (List String)} (h : Wraps exported s ps names)
    (hall : allName ∈ exported → ¬ s.Defines allName) : listedFrom listed ps = listedFrom listed [s] := by
  cases h with
  | same => rfl
  | @recorded name rename hs hname =>
    rw [listedFrom_recorded listed hs]
    by_cases hn : name = allName
    · subst hn
      rw [if_pos rfl, listedFrom_listed listed (listing?_of_not_defines hs (hall hname))]
      rfl
    · rw [if_neg hn, listedFrom_function listed hs hn]

lemma Wraps.binds {n : String} (h : Wraps exported s ps names) (hn : n ∈ ps.flatMap Statement.binds) :
    n ∈ s.binds ∨ ∃ name ∈ names, n = shadowLead ++ name := by
  cases h with
  | same => exact .inl (by simpa using hn)
  | @recorded name rename hs hname =>
    obtain ⟨hrename, hspec⟩ := function?_spec hs
    obtain ⟨p, hp, hnp⟩ := List.mem_flatMap.mp hn
    rcases List.mem_pair.mp hp with rfl | rfl
    · rw [(hspec _).2.1, List.mem_singleton] at hnp
      exact .inr ⟨name, List.mem_singleton_self name, hnp⟩
    · rw [hrename, (hspec name).2.1]
      exact .inl hnp

end Pass

/-! A whole module. -/

namespace Module

/-- The statements of a module with the recorders of its functions. -/
def withRecorders (exported : List String) (m : Module) : Module :=
  (m.map (Statement.wrap exported)).flatMap Prod.fst

lemma withRecorders_cons (exported : List String) (s : Statement) (m : Module) :
    withRecorders exported (s :: m) = (s.wrap exported).1 ++ withRecorders exported m := rfl

/-- The names of the functions whose calls are recorded. -/
def recordedNames (exported : List String) (m : Module) : List String :=
  (m.map (Statement.wrap exported)).flatMap Prod.snd

lemma recordedNames_cons (exported : List String) (s : Statement) (m : Module) :
    recordedNames exported (s :: m) = (s.wrap exported).2 ++ recordedNames exported m := rfl

lemma shrinks_withRecorders (exported : List String) (m : Module) {new old : Option (List String)}
    (h : Shrinks new old) :
    Shrinks (listedFrom new (withRecorders exported m)) (listedFrom old m) := by
  induction m generalizing new old with
  | nil => exact h
  | cons s m ih =>
    rw [withRecorders_cons, listedFrom_append, listedFrom_cons]
    exact ih ((wraps_wrap exported s).shrinks h)

lemma listed_withRecorders {exported : List String} {m : Module}
    (hall : allName ∈ exported → ∀ s ∈ m, ¬ s.Defines allName) (names : Option (List String)) :
    listedFrom names (withRecorders exported m) = listedFrom names m := by
  induction m generalizing names with
  | nil => rfl
  | cons s m ih =>
    simp only [List.forall_mem_cons] at hall
    rw [withRecorders_cons, listedFrom_append, listedFrom_cons names s m,
      (wraps_wrap exported s).listed fun h => (hall h).1, ih fun h => (hall h).2]

lemma binds_withRecorders {exported : List String} {m : Module} {n : String}
    (h : n ∈ (withRecorders exported m).flatMap Statement.binds) :
    n ∈ m.flatMap Statement.binds ∨ ∃ name ∈ recordedNames exported m, n = shadowLead ++ name := by
  induction m with
  | nil => exact .inl h
  | cons s m ih =>
    rw [withRecorders_cons, List.flatMap_append, List.mem_append] at h
    rw [List.flatMap_cons, List.mem_append, recordedNames_cons]
    rcases h with h | h
    · rcases (wraps_wrap exported s).binds h with h | ⟨name, hname, hn⟩
      · exact .inl (.inl h)
      · exact .inr ⟨name, List.mem_append_left _ hname, hn⟩
    · rcases ih h with h | ⟨name, hname, hn⟩
      · exact .inl (.inr h)
      · exact .inr ⟨name, List.mem_append_right _ hname, hn⟩

lemma instrument_cases (m : Module) : m.instrument = (m, []) ∨ ∃ front back,
    withRecorders m.exported m = front ++ back ∧
      (m.instrument.1 = front ++ back ∨ m.instrument.1 = front ++ recorderImport :: back) := by
  let body := withRecorders m.exported m
  by_cases hw : ((m.map (Statement.wrap m.exported)).flatMap Prod.snd).isEmpty = true
  · left
    simp [instrument, hw]
  · right
    refine ⟨body.take (leadLength body), body.drop (leadLength body), (List.take_append_drop _ _).symm, ?_⟩
    by_cases hr : hasRecorder body = true
    · left
      rw [List.take_append_drop, instrument]
      simp only [hw]
      exact if_pos hr
    · right
      rw [instrument]
      simp only [hw]
      exact if_neg hr

lemma listed_import (names : Option (List String)) (front back : Module) :
    listedFrom names (front ++ recorderImport :: back) = listedFrom names (front ++ back) := by
  rw [listedFrom_append, listedFrom_append, listedFrom_cons, listedFrom_unlisted _ rfl]

lemma mem_firsts {n : String} {names : List String} : n ∈ firsts names ↔ n ∈ names := by
  suffices h : ∀ seen, n ∈ names.foldl (fun seen n => if seen.contains n then seen else seen ++ [n]) seen ↔
      n ∈ seen ∨ n ∈ names from (h []).trans (by simp)
  induction names with
  | nil => simp
  | cons m names ih =>
    intro seen
    rw [List.foldl_cons, ih]
    by_cases hm : seen.contains m = true
    · rw [if_pos hm, List.mem_cons]
      have hmem : m ∈ seen := by simpa using hm
      refine ⟨fun h => h.imp_right .inr, ?_⟩
      rintro (h | rfl | h)
      exacts [.inl h, .inl hmem, .inr h]
    · rw [if_neg hm, List.mem_append, List.mem_singleton, List.mem_cons, or_assoc]

/-- A module that lists no more and binds no more in public exports no more. -/
lemma exported_subset {m m' : Module} (hshrinks : Shrinks m'.listed m.listed)
    (hnone : m.listed = none → m'.listed = none)
    (hbinds : ∀ n ∈ m'.flatMap Statement.binds, n ∈ m.flatMap Statement.binds ∨ n.startsWith "_" = true) :
    m'.exported ⊆ m.exported := by
  intro n hn
  cases hm : m.listed with
  | none =>
    simp only [exported, hnone hm, List.mem_filter, topLevel, mem_firsts] at hn
    simp only [exported, hm, List.mem_filter, topLevel, mem_firsts]
    obtain ⟨hn, hpublic⟩ := hn
    exact ⟨(hbinds n hn).resolve_right fun h => by simp [h] at hpublic, hpublic⟩
  | some names =>
    obtain ⟨names', hm'⟩ := Option.isSome_iff_exists.mp (hshrinks.2 (by rw [hm]; rfl))
    rw [hm, hm'] at hshrinks
    simp only [exported, hm', mem_firsts] at hn
    simp only [exported, hm, mem_firsts]
    exact hshrinks.1 hn

lemma not_exported_of_private {m : Module} {n : String} (h : m.listed = none) (hn : n.startsWith "_" = true) :
    n ∉ m.exported := by
  simp [exported, h, hn]

lemma exported_withRecorders (m : Module) : (withRecorders m.exported m).exported ⊆ m.exported := by
  apply exported_subset
  · exact shrinks_withRecorders m.exported m ⟨fun _ h => h, fun h => h⟩
  · intro h
    have hall : allName ∉ m.exported := not_exported_of_private h (startsWith_underscore rfl)
    exact (listed_withRecorders (fun hmem => absurd hmem hall) none).trans h
  · intro n hn
    refine (binds_withRecorders hn).imp_right ?_
    rintro ⟨name, -, rfl⟩
    exact shadow_private name

lemma exported_import (front back : Module) :
    Module.exported (front ++ recorderImport :: back) ⊆ Module.exported (front ++ back) := by
  have hlisted : Module.listed (front ++ recorderImport :: back) = Module.listed (front ++ back) :=
    listed_import none front back
  apply exported_subset
  · rw [hlisted]
    exact ⟨fun _ h => h, fun h => h⟩
  · exact fun h => hlisted.trans h
  · intro n hn
    rw [List.flatMap_append, List.flatMap_cons, List.mem_append, List.mem_append] at hn
    rw [List.flatMap_append, List.mem_append]
    rcases hn with hn | hn | hn
    · exact .inl (.inl hn)
    · have hn : n = recorderName := List.mem_singleton.mp hn
      exact .inr (startsWith_underscore (congrArg String.toList hn))
    · exact .inl (.inr hn)

lemma instrument_of_own {m : Module} (h : ∀ s ∈ m, s.wrap m.exported = ([s], [])) :
    m.instrument = (m, []) := by
  have hnames : (m.map (Statement.wrap m.exported)).flatMap Prod.snd = [] := by
    rw [List.flatMap_map, List.flatMap_eq_nil_iff]
    exact fun s hs => by rw [h s hs]
  simp only [instrument, hnames, List.isEmpty_nil, if_true]

lemma wrap_withRecorders {m : Module} {exported' : List String} (h : exported' ⊆ m.exported)
    {p : Statement} (hp : p ∈ withRecorders m.exported m) : p.wrap exported' = ([p], []) := by
  rw [withRecorders, List.flatMap_map, List.mem_flatMap] at hp
  obtain ⟨s, -, hp⟩ := hp
  exact (wraps_wrap m.exported s).wrap_again h hp

/-- Whatever a module exports and however it says so: once it has been instrumented, there is nothing in
it to instrument. -/
theorem instrument_idempotent (m : Module) : m.instrument.1.instrument = (m.instrument.1, []) := by
  rcases instrument_cases m with hnone | ⟨front, back, hbody, hplain | himport⟩
  · rw [hnone]
    exact hnone
  · rw [hplain, ← hbody]
    exact instrument_of_own fun s hs => wrap_withRecorders (exported_withRecorders m) hs
  · rw [himport]
    have hexp : Module.exported (front ++ recorderImport :: back) ⊆ m.exported :=
      fun n hn => exported_withRecorders m (hbody ▸ exported_import front back hn)
    refine instrument_of_own fun s hs => ?_
    rcases List.mem_append.mp hs with hs | hs
    · exact wrap_withRecorders hexp (hbody ▸ List.mem_append_left _ hs)
    rcases List.mem_cons.mp hs with rfl | hs
    · exact wrap_of_own fun _ _ h => by cases h
    · exact wrap_withRecorders hexp (hbody ▸ List.mem_append_right _ hs)

end Module

end CallSnapshot.Source
