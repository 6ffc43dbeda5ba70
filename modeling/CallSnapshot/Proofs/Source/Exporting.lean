import CallSnapshot.Proofs.Source.Instrument

/-!
What an instrumented module exports. The exports are worked out from statements of which some have other
names and some are new; they come out as they were, in the same order. New names begin with an underscore,
so only a list of exports can make one of them public.
-/

namespace CallSnapshot.Source

def isPublic (name : String) : Bool := !name.startsWith "_"

lemma firsts_filter (p : String → Bool) (names : List String) :
    (firsts names).filter p = firsts (names.filter p) := by
  suffices h : ∀ seen : List String,
      (names.foldl (fun seen n => if seen.contains n then seen else seen ++ [n]) seen).filter p =
        (names.filter p).foldl (fun seen n => if seen.contains n then seen else seen ++ [n]) (seen.filter p) from
    h []
  induction names with
  | nil => exact fun _ => rfl
  | cons n names ih =>
    intro seen
    rw [List.foldl_cons, ih]
    by_cases hp : p n = true
    · rw [List.filter_cons_of_pos hp, List.foldl_cons]
      by_cases hn : n ∈ seen
      · simp [hn, hp]
      · simp [hn, hp]
    · rw [List.filter_cons_of_neg hp]
      by_cases hn : n ∈ seen
      · simp [hn]
      · simp [hn, hp]

section Pass

variable {exported : List String} {s : Statement} {ps : List Statement} {names : List String}

lemma Wraps.public (h : Wraps exported s ps names) :
    (ps.flatMap Statement.binds).filter isPublic = s.binds.filter isPublic := by
  cases h with
  | same => rw [List.flatMap_singleton]
  | @recorded name rename hs hname =>
    obtain ⟨hrename, hspec⟩ := function?_spec hs
    have hshadow : isPublic (shadowLead ++ name) = false := by rw [isPublic, shadow_private]; rfl
    have hbinds : ([rename (shadowLead ++ name), wrapper name (shadowLead ++ name)]).flatMap Statement.binds =
        [shadowLead ++ name, name] := by
      rw [List.flatMap_cons, List.flatMap_singleton, (hspec _).2.1]
      rfl
    rw [hbinds, hrename, (hspec name).2.1, List.filter_cons_of_neg (by simp [hshadow])]

lemma Wraps.recorded_mem (h : Wraps exported s ps names) : ∀ name ∈ names, name ∈ exported := by
  cases h with
  | same => simp
  | recorded hs hname => simpa using hname

end Pass

namespace Module

/-- The names that instrumenting gives: that of the recorder and those of the kept functions. -/
def introduced (m : Module) : List String := recorderName :: m.instrument.2.map (shadowLead ++ ·)

lemma public_withRecorders (exported : List String) (m : Module) :
    ((withRecorders exported m).flatMap Statement.binds).filter isPublic =
      (m.flatMap Statement.binds).filter isPublic := by
  induction m with
  | nil => rfl
  | cons s m ih =>
    rw [withRecorders_cons, List.flatMap_append, List.filter_append, ih, (wraps_wrap exported s).public,
      List.flatMap_cons, List.filter_append]

lemma recordedNames_exported {exported : List String} {m : Module} : ∀ name ∈ recordedNames exported m,
    name ∈ exported := by
  intro name h
  obtain ⟨p, hp, hname⟩ := List.mem_flatMap.mp h
  obtain ⟨s, -, rfl⟩ := List.mem_map.mp hp
  exact (wraps_wrap exported s).recorded_mem name hname

lemma instrument_names (m : Module) : m.instrument.2 = recordedNames m.exported m := by
  unfold instrument recordedNames
  by_cases hw : ((m.map (Statement.wrap m.exported)).flatMap Prod.snd).isEmpty = true
  · simp only [hw, if_true]
    exact (List.isEmpty_iff.mp hw).symm
  · simp only [hw]
    rfl

lemma public_instrument (m : Module) : (m.instrument.1.flatMap Statement.binds).filter isPublic =
    (m.flatMap Statement.binds).filter isPublic := by
  have hbody := public_withRecorders m.exported m
  rcases instrument_cases m with hnone | ⟨front, back, hsplit, hplain | himport⟩
  · rw [hnone]
  · rw [hplain, ← hsplit, hbody]
  · have hrecorder : isPublic recorderName = false := by
      rw [isPublic, startsWith_underscore (n := recorderName) rfl]
      rfl
    rw [himport, ← hbody, hsplit, List.flatMap_append, List.flatMap_append, List.filter_append,
      List.filter_append, List.flatMap_cons]
    congr 1
    change ([recorderName] ++ _).filter isPublic = _
    rw [List.singleton_append, List.filter_cons_of_neg (by simp [hrecorder])]

lemma binds_instrument {m : Module} {n : String} (h : n ∈ m.instrument.1.flatMap Statement.binds) :
    n ∈ m.flatMap Statement.binds ∨ n ∈ m.introduced := by
  have hbody : n ∈ (withRecorders m.exported m).flatMap Statement.binds →
      n ∈ m.flatMap Statement.binds ∨ n ∈ m.introduced := by
    intro hn
    refine (binds_withRecorders hn).imp_right ?_
    rintro ⟨name, hname, rfl⟩
    rw [introduced, instrument_names]
    exact List.mem_cons_of_mem _ (List.mem_map_of_mem hname)
  rcases instrument_cases m with hnone | ⟨front, back, hsplit, hplain | himport⟩
  · rw [hnone] at h
    exact .inl h
  · exact hbody (hsplit ▸ hplain ▸ h)
  · rw [himport, List.flatMap_append, List.flatMap_cons, List.mem_append, List.mem_append] at h
    rw [hsplit, List.flatMap_append, List.mem_append] at hbody
    rcases h with h | h | h
    · exact hbody (.inl h)
    · obtain rfl : n = recorderName := List.mem_singleton.mp h
      exact .inr List.mem_cons_self
    · exact hbody (.inr h)

lemma exported_congr {m m' : Module} (hlisted : m'.listed = m.listed)
    (hpublic : (m'.flatMap Statement.binds).filter isPublic = (m.flatMap Statement.binds).filter isPublic) :
    m'.exported = m.exported := by
  unfold exported
  rw [hlisted]
  cases m.listed with
  | some names => rfl
  | none =>
    change (firsts _).filter isPublic = (firsts _).filter isPublic
    rw [firsts_filter, firsts_filter, hpublic]

lemma listed_of_private {m : Module} {n : String} (hn : n.startsWith "_" = true) (h : n ∈ m.exported) :
    ∃ names, m.listed = some names ∧ n ∈ names := by
  cases hl : m.listed with
  | none => exact absurd h (not_exported_of_private hl hn)
  | some names =>
    refine ⟨names, rfl, ?_⟩
    simpa only [exported, hl, mem_firsts] using h

lemma introduced_private {m : Module} {n : String} (h : n ∈ m.introduced) : n.startsWith "_" = true := by
  rcases List.mem_cons.mp h with rfl | h
  · exact startsWith_underscore rfl
  · obtain ⟨name, -, rfl⟩ := List.mem_map.mp h
    exact shadow_private name

section Instrumented

variable {m : Module} (h : ∀ s ∈ m, ¬ s.Defines allName)

include h

lemma listed_instrument : m.instrument.1.listed = m.listed := by
  have hbody : Module.listed (withRecorders m.exported m) = m.listed := listed_withRecorders (fun _ => h) none
  rcases instrument_cases m with hnone | ⟨front, back, hsplit, hplain | himport⟩
  · rw [hnone]
  · rw [hplain, ← hsplit, hbody]
  · rw [himport, ← hbody, hsplit]
    exact listed_import none front back

/-- Unless a module defines a function by the name of the list of exports, instrumenting it leaves its
exports as they are, in their order. Only exports are recorded; and of the names that come in anew none
is exported that the module does not list itself. -/
theorem exported_instrument : m.instrument.1.exported = m.exported ∧
    (∀ name ∈ m.instrument.2, name ∈ m.exported) ∧
    (∀ n ∈ m.instrument.1.flatMap Statement.binds, n ∈ m.flatMap Statement.binds ∨ n ∈ m.introduced) ∧
    ∀ n ∈ m.introduced, n ∈ m.instrument.1.exported → ∃ names, m.listed = some names ∧ n ∈ names := by
  have hexported : m.instrument.1.exported = m.exported :=
    exported_congr (listed_instrument h) (public_instrument m)
  refine ⟨hexported, ?_, fun n => binds_instrument, fun n hn hexp => ?_⟩
  · rw [instrument_names]
    exact recordedNames_exported
  · exact listed_of_private (introduced_private hn) (hexported ▸ hexp)

end Instrumented

/-- A module that lists a shadow beside its function, and leaves another function out. -/
def shadowed : Module :=
  [.assign [.name "__all__"] (.list [.literal (.text "f" false), .literal (.text "_snap_f" false)]),
    .function false [] "f" .empty none [.pass], .function true [] "g" .empty none [.pass]]

theorem exported_instrument_shadowed : (∀ s ∈ shadowed, ¬ s.Defines allName) ∧ shadowed.instrument.2 = ["f"] ∧
    shadowed.instrument.1.exported = ["f", "_snap_f"] ∧ "_snap_f" ∈ shadowed.introduced ∧
    ∃ names, shadowed.listed = some names ∧ "_snap_f" ∈ names := by
  have hfree : ∀ s ∈ shadowed, ¬ s.Defines allName := by
    rintro s hs ⟨isAsync, decorators, params, returns, body, rfl⟩
    simp [shadowed, allName] at hs
  have hnames : shadowed.instrument.2 = ["f"] := by decide
  have hintroduced : "_snap_f" ∈ shadowed.introduced := by
    rw [introduced, hnames]
    decide
  obtain ⟨hexported, -, -, hlisted⟩ := exported_instrument hfree
  have hsame : shadowed.instrument.1.exported = ["f", "_snap_f"] := hexported.trans rfl
  exact ⟨hfree, hnames, hsame, hintroduced, hlisted _ hintroduced (by rw [hsame]; decide)⟩

end Module

end CallSnapshot.Source
