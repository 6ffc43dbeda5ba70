import CallSnapshot.Proofs.Source.Exporting

/-!
What instrumenting leaves of a module. Each statement of the new module stands where it stood, or has
another name, or is new; without the new ones, and with the old names, the module is as it was.
-/

namespace CallSnapshot.Source

/-- A function of one name, and the same function under another. -/
inductive Statement.Renames (old new : String) : Statement → Statement → Prop
  | function (isAsync : Bool) (decorators : List Expr) (params : Params) (returns : Option Expr)
      (body : List Statement) : Renames old new (.function isAsync decorators old params returns body)
        (.function isAsync decorators new params returns body)
  | assigned (params : Params) (body : Expr) :
      Renames old new (.assign [.name old] (.lambda params body)) (.assign [.name new] (.lambda params body))
  | declared (plain : Bool) (type : Expr) (params : Params) (body : Expr) :
      Renames old new (.declare (.name old) plain type (some (.lambda params body)))
        (.declare (.name new) plain type (some (.lambda params body)))

/-- A statement that defines a function of this name, which is exported and not itself a shadow. -/
def Statement.Wrappable (exported : List String) (name : String) (s : Statement) : Prop :=
  s.Renames name name s ∧ name ∈ exported ∧ isOwnName name = false

def Statement.unshadowed (s : Statement) : Statement :=
  match s.function? with
  | some (shadow, rename) => rename (String.ofList (shadow.toList.drop shadowLead.toList.length))
  | none => s

section Functions

variable {exported : List String} {s t : Statement} {name id : String} {rename : String → Statement}

lemma renames_function? (h : s.function? = some (name, rename)) (id : String) :
    s.Renames name id (rename id) := by
  unfold Statement.function? at h
  split at h
  case h_1 =>
    cases h
    exact .function ..
  case h_2 _ value =>
    cases value <;> cases h
    exact .assigned ..
  case h_3 _ plain type value =>
    cases value <;> cases h
    exact .declared ..
  case h_4 => cases h

lemma Statement.Renames.function? (h : s.Renames name id t) :
    ∃ rename, s.function? = some (name, rename) ∧ rename id = t := by
  cases h <;> exact ⟨_, rfl, rfl⟩

lemma Statement.Renames.unshadowed (h : s.Renames name (shadowLead ++ name) t) : t.unshadowed = s := by
  have hname : String.ofList ((shadowLead ++ name).toList.drop shadowLead.toList.length) = name := by
    rw [String.toList_append, List.drop_left, String.ofList_toList]
  cases h <;> simp only [Statement.unshadowed, Statement.function?, isLambda, if_true, hname]

lemma wrap_cases (exported : List String) (s : Statement) :
    ((∀ name, ¬ s.Wrappable exported name) ∧ s.wrap exported = ([s], [])) ∨
      ∃ name t, s.Wrappable exported name ∧ s.Renames name (shadowLead ++ name) t ∧
        s.wrap exported = ([t, wrapper name (shadowLead ++ name)], [name]) := by
  cases hs : s.function? with
  | none =>
    refine .inl ⟨fun name h => ?_, by rw [Statement.wrap, hs]⟩
    obtain ⟨rename, hname, -⟩ := h.1.function?
    rw [hs] at hname
    cases hname
  | some p =>
    obtain ⟨name, rename⟩ := p
    by_cases hname : name ∈ exported ∧ isOwnName name = false
    · refine .inr ⟨name, rename (shadowLead ++ name), ⟨?_, hname⟩, renames_function? hs _, ?_⟩
      · have hself := renames_function? hs name
        rwa [← (function?_spec hs).1] at hself
      · simp [Statement.wrap, hs, hname]
    · refine .inl ⟨fun name' h => ?_, wrap_of_own fun name' rename' hs' hexp => ?_⟩
      · obtain ⟨rename', hs', -⟩ := h.1.function?
        rw [hs] at hs'
        cases hs'
        exact hname h.2
      · rw [hs] at hs'
        cases hs'
        simpa [hexp] using hname

end Functions

/-- A statement of an instrumented module: it was there, it was there under another name, or it is
new. -/
inductive Edit where
  | kept (s : Statement)
  | renamed (s : Statement)
  | inserted (s : Statement)

def Edit.after : Edit → Statement
  | .kept s => s
  | .renamed s => s
  | .inserted s => s

def Edit.before : Edit → Option Statement
  | .kept s => some s
  | .renamed s => some s.unshadowed
  | .inserted _ => none

/-- The edits of a list of statements, one after the other, and the names of the functions that are
wrapped. -/
inductive Edits (exported : List String) : Module → List Edit → List String → Prop
  | nil : Edits exported [] [] []
  | kept {s : Statement} {m : Module} {edits : List Edit} {names : List String}
      (hs : ∀ name, ¬ s.Wrappable exported name) (h : Edits exported m edits names) :
      Edits exported (s :: m) (.kept s :: edits) names
  | wrapped {s t : Statement} {name : String} {m : Module} {edits : List Edit} {names : List String}
      (hs : s.Wrappable exported name) (ht : s.Renames name (shadowLead ++ name) t)
      (h : Edits exported m edits names) : Edits exported (s :: m)
        (.renamed t :: .inserted (wrapper name (shadowLead ++ name)) :: edits) (name :: names)

namespace Edits

variable {exported : List String} {m : Module} {edits : List Edit} {names : List String}

lemma before (h : Edits exported m edits names) : edits.filterMap Edit.before = m := by
  induction h with
  | nil => rfl
  | kept hs h ih => exact congrArg (_ :: ·) ih
  | wrapped hs ht h ih => exact congrArg₂ List.cons ht.unshadowed ih

lemma after_of_unwrapped (h : Edits exported m edits []) : edits.map Edit.after = m := by
  generalize hnames : ([] : List String) = names at h
  induction h with
  | nil => rfl
  | kept hs h ih => rw [List.map_cons, ih hnames]; rfl
  | wrapped => cases hnames

end Edits

/-- Statements that have to stay ahead of all others, and the others: the documentation, if there is one,
and behind it all the imports of what is to come. -/
inductive Leads : Module → Module → Prop
  | documented {d : Statement} {futures rest : Module} (hd : Module.isDocumentation d = true)
      (hfutures : ∀ s ∈ futures, Module.isFuture s = true)
      (hrest : ∀ s ∈ rest.head?, Module.isFuture s = false) : Leads (d :: futures) rest
  | plain {futures rest : Module} (hd : ∀ s ∈ (futures ++ rest).head?, Module.isDocumentation s = false)
      (hfutures : ∀ s ∈ futures, Module.isFuture s = true)
      (hrest : ∀ s ∈ rest.head?, Module.isFuture s = false) : Leads futures rest

namespace Module

lemma exists_futures (m : Module) : ∃ futures rest, m = futures ++ rest ∧
    (∀ s ∈ futures, isFuture s = true) ∧ ∀ s ∈ rest.head?, isFuture s = false := by
  refine ⟨m.takeWhile isFuture, m.dropWhile isFuture, List.takeWhile_append_dropWhile.symm,
    fun s hs => List.mem_takeWhile_imp hs, fun s hs => ?_⟩
  have hhead := List.head?_dropWhile_not isFuture m
  rw [Option.mem_def.mp hs] at hhead
  simpa using hhead

lemma exists_leads (m : Module) : ∃ lead rest, m = lead ++ rest ∧ Leads lead rest := by
  by_cases hd : ∃ d m', m = d :: m' ∧ isDocumentation d = true
  · obtain ⟨d, m', rfl, hd⟩ := hd
    obtain ⟨futures, rest, rfl, hfutures, hrest⟩ := exists_futures m'
    exact ⟨d :: futures, rest, rfl, .documented hd hfutures hrest⟩
  · obtain ⟨futures, rest, rfl, hfutures, hrest⟩ := exists_futures m
    refine ⟨futures, rest, rfl, .plain (fun s hs => ?_) hfutures hrest⟩
    obtain ⟨m', hm⟩ := List.head?_eq_some_iff.mp hs
    exact Bool.eq_false_iff.mpr fun hs => hd ⟨s, m', hm, hs⟩

lemma takeWhile_futures {futures rest : Module} (hfutures : ∀ s ∈ futures, isFuture s = true)
    (hrest : ∀ s ∈ rest.head?, isFuture s = false) : (futures ++ rest).takeWhile isFuture = futures := by
  have hnone : rest.takeWhile isFuture = [] := by
    cases rest with
    | nil => rfl
    | cons s rest => rw [List.takeWhile_cons_of_neg (by simpa using hrest s rfl)]
  rw [List.takeWhile_append_of_pos hfutures, hnone, List.append_nil]

lemma leadLength_append {lead rest : Module} (h : Leads lead rest) :
    leadLength (lead ++ rest) = lead.length := by
  cases h with
  | documented hd hfutures hrest =>
    simp [leadLength, hd, takeWhile_futures hfutures hrest, Nat.add_comm]
  | plain hd hfutures hrest =>
    have hplain : ((lead ++ rest).head?.map isDocumentation).getD false = false := by
      cases hm : (lead ++ rest).head? with
      | none => rfl
      | some s => exact hd s hm
    simp only [leadLength, hplain, takeWhile_futures hfutures hrest, Bool.false_eq_true, if_false,
      Nat.zero_add]

lemma function?_of_documentation {s : Statement} (h : isDocumentation s = true) : s.function? = none := by
  unfold isDocumentation at h
  split at h
  · rfl
  · cases h

lemma function?_of_future {s : Statement} (h : isFuture s = true) : s.function? = none := by
  unfold isFuture at h
  split at h
  · rfl
  · cases h

lemma function?_of_leads {lead rest : Module} (h : Leads lead rest) : ∀ s ∈ lead, s.function? = none := by
  cases h with
  | documented hd hfutures hrest =>
    exact List.forall_mem_cons.mpr
      ⟨function?_of_documentation hd, fun s hs => function?_of_future (hfutures s hs)⟩
  | plain hd hfutures hrest => exact fun s hs => function?_of_future (hfutures s hs)

section Recorders

variable {exported : List String} {m lead rest : Module}

lemma unwrappable_of_leads (h : Leads lead rest) : ∀ s ∈ lead, ∀ name, ¬ s.Wrappable exported name := by
  intro s hs name hname
  obtain ⟨rename, hs', -⟩ := hname.1.function?
  rw [function?_of_leads h s hs] at hs'
  cases hs'

lemma wrap_of_leads (h : Leads lead rest) : ∀ s ∈ lead, s.wrap exported = ([s], []) := by
  intro s hs
  refine wrap_of_own fun name rename hs' => ?_
  rw [function?_of_leads h s hs] at hs'
  cases hs'

lemma withRecorders_append (m₁ m₂ : Module) :
    withRecorders exported (m₁ ++ m₂) = withRecorders exported m₁ ++ withRecorders exported m₂ := by
  rw [withRecorders, List.map_append, List.flatMap_append]
  rfl

lemma recordedNames_append (m₁ m₂ : Module) :
    recordedNames exported (m₁ ++ m₂) = recordedNames exported m₁ ++ recordedNames exported m₂ := by
  rw [recordedNames, List.map_append, List.flatMap_append]
  rfl

lemma withRecorders_lead (h : Leads lead rest) :
    withRecorders exported (lead ++ rest) = lead ++ withRecorders exported rest := by
  have hlead : withRecorders exported lead = lead.flatMap fun s => [s] := by
    rw [withRecorders, List.flatMap_map]
    exact List.flatMap_congr fun s hs => congrArg Prod.fst (wrap_of_leads h s hs)
  rw [withRecorders_append, hlead, List.flatMap_singleton']

lemma recordedNames_lead (h : Leads lead rest) :
    recordedNames exported (lead ++ rest) = recordedNames exported rest := by
  have hlead : recordedNames exported lead = [] := by
    rw [recordedNames, List.flatMap_map, List.flatMap_eq_nil_iff]
    exact fun s hs => congrArg Prod.snd (wrap_of_leads h s hs)
  rw [recordedNames_append, hlead, List.nil_append]

lemma head_withRecorders {p : Statement → Bool} (hp : ∀ s, p s = true → s.function? = none)
    (h : ∀ s ∈ m.head?, p s = false) : ∀ s ∈ (withRecorders exported m).head?, p s = false := by
  cases m with
  | nil => exact h
  | cons s m =>
    rw [withRecorders_cons]
    rcases wrap_cases exported s with ⟨-, hs⟩ | ⟨name, t, -, ht, hs⟩
    · rw [hs]
      exact h
    · rw [hs]
      intro t' ht'
      obtain rfl : t = t' := Option.some_inj.mp ht'
      refine Bool.eq_false_iff.mpr fun hpt => ?_
      have hnone := hp t hpt
      cases ht <;> cases hnone

lemma leads_withRecorders (h : Leads lead rest) : Leads lead (withRecorders exported rest) := by
  cases h with
  | documented hd hfutures hrest =>
    exact .documented hd hfutures (head_withRecorders (fun s => function?_of_future) hrest)
  | plain hd hfutures hrest =>
    refine .plain ?_ hfutures (head_withRecorders (fun s => function?_of_future) hrest)
    rw [← withRecorders_lead (.plain hd hfutures hrest)]
    exact head_withRecorders (fun s => function?_of_documentation) hd

lemma exists_edits (exported : List String) (m : Module) : ∃ edits,
    Edits exported m edits (recordedNames exported m) ∧ edits.map Edit.after = withRecorders exported m := by
  induction m with
  | nil => exact ⟨[], .nil, rfl⟩
  | cons s m ih =>
    obtain ⟨edits, hedits, hafter⟩ := ih
    rw [recordedNames_cons, withRecorders_cons, ← hafter]
    rcases wrap_cases exported s with ⟨hkept, hs⟩ | ⟨name, t, hname, ht, hs⟩
    · rw [hs]
      exact ⟨_, .kept hkept hedits, rfl⟩
    · rw [hs]
      exact ⟨_, .wrapped hname ht hedits, rfl⟩

/-! The name of the recorder. -/

lemma hasRecorder_iff : m.hasRecorder = true ↔ recorderName ∈ m.flatMap Statement.binds := by
  simp [hasRecorder]

lemma shadow_mem_binds {name : String} (h : name ∈ recordedNames exported m) :
    shadowLead ++ name ∈ (withRecorders exported m).flatMap Statement.binds := by
  induction m with
  | nil => cases h
  | cons s m ih =>
    rw [withRecorders_cons, List.flatMap_append]
    rw [recordedNames_cons] at h
    rcases List.mem_append.mp h with h | h
    · refine List.mem_append_left _ ?_
      rcases wrap_cases exported s with ⟨-, hs⟩ | ⟨name', t, -, ht, hs⟩
      · rw [hs] at h
        cases h
      · rw [hs] at h ⊢
        obtain rfl := List.mem_singleton.mp h
        cases ht <;> exact List.mem_cons_self
    · exact List.mem_append_right _ (ih h)

/-- A kept function has the name of the recorder exactly if it was called `record`. -/
lemma recorder_shadow_iff {name : String} : recorderName = shadowLead ++ name ↔ name = "record" := by
  refine ⟨fun h => ?_, fun h => by rw [h]; rfl⟩
  have hcs : shadowLead.toList ++ "record".toList = shadowLead.toList ++ name.toList := by
    rw [← String.toList_append, ← String.toList_append, ← h]
    rfl
  exact (String.toList_injective (List.append_cancel_left hcs)).symm

lemma hasRecorder_withRecorders (hfree : recorderName ∉ m.flatMap Statement.binds) :
    (withRecorders exported m).hasRecorder = true ↔ "record" ∈ recordedNames exported m := by
  rw [hasRecorder_iff]
  constructor
  · intro h
    obtain ⟨name, hname, hrecorder⟩ := (binds_withRecorders h).resolve_left hfree
    exact recorder_shadow_iff.mp hrecorder ▸ hname
  · exact fun h => shadow_mem_binds h

end Recorders

/-- The import of the recorder comes in where a function is wrapped, unless the shadow of one passes for the
recorder itself. -/
def importEdits (names : List String) : List Edit :=
  if names = [] ∨ "record" ∈ names then [] else [.inserted recorderImport]

lemma instrument_unrecorded {m : Module} (h : recordedNames m.exported m = []) : m.instrument = (m, []) := by
  rw [instrument]
  exact if_pos (List.isEmpty_iff.mpr h)

lemma instrument_recorded {m : Module} (h : recordedNames m.exported m ≠ []) : m.instrument =
    (if hasRecorder (withRecorders m.exported m) then withRecorders m.exported m
      else (withRecorders m.exported m).take (leadLength (withRecorders m.exported m)) ++
        recorderImport :: (withRecorders m.exported m).drop (leadLength (withRecorders m.exported m)),
      recordedNames m.exported m) := by
  rw [instrument]
  exact if_neg fun hempty => h (List.isEmpty_iff.mp hempty)

/-- The new module: what stays ahead, the import, and the other statements with their recorders. -/
lemma instrument_eq {m lead rest : Module} (hfree : recorderName ∉ m.flatMap Statement.binds)
    (hsplit : m = lead ++ rest) (hleads : Leads lead rest) : m.instrument.1 =
      lead ++ (importEdits m.instrument.2).map Edit.after ++ withRecorders m.exported rest := by
  have hbody : withRecorders m.exported m = lead ++ withRecorders m.exported rest := by
    rw [← withRecorders_lead hleads, ← hsplit]
  by_cases hnil : recordedNames m.exported m = []
  · obtain ⟨edits, hedits, hafter⟩ := exists_edits m.exported m
    rw [hnil] at hedits
    have hsame : m = lead ++ withRecorders m.exported rest :=
      (hedits.after_of_unwrapped.symm.trans hafter).trans hbody
    rw [instrument_unrecorded hnil]
    simpa [importEdits] using hsame
  · rw [instrument_recorded hnil]
    by_cases hrecord : "record" ∈ recordedNames m.exported m
    · rw [if_pos ((hasRecorder_withRecorders hfree).mpr hrecord), hbody]
      simp [importEdits, hrecord]
    · rw [if_neg fun h => hrecord ((hasRecorder_withRecorders hfree).mp h), hbody,
        leadLength_append (leads_withRecorders hleads), List.take_left, List.drop_left]
      simp [importEdits, hnil, hrecord, Edit.after]

/-- Instrumenting a module that does not bind the name of the recorder: what has to stay ahead stays
there, behind it comes the import, and then each statement in its place, kept as it is unless it defines an
exported function. Such a function goes under its shadow, with its recorder right behind it. Without what
has come in, and with the old names, the module is as it was. The import is missing where a function
called `record` is wrapped, for its shadow has the name of the recorder. -/
theorem instrument_conserves {m : Module} (hfree : recorderName ∉ m.flatMap Statement.binds) :
    ∃ lead rest edits whole, m = lead ++ rest ∧ Leads lead rest ∧
      (∀ s ∈ lead, ∀ name, ¬ s.Wrappable m.exported name) ∧ Edits m.exported rest edits m.instrument.2 ∧
      whole = lead.map Edit.kept ++ importEdits m.instrument.2 ++ edits ∧
      whole.map Edit.after = m.instrument.1 ∧ whole.filterMap Edit.before = m ∧
      (m.instrument.2 = [] → m.instrument.1 = m) := by
  obtain ⟨lead, rest, hsplit, hleads⟩ := exists_leads m
  obtain ⟨edits, hedits, hafter⟩ := exists_edits m.exported rest
  have hnames : m.instrument.2 = recordedNames m.exported rest := by
    rw [instrument_names, ← recordedNames_lead hleads, ← hsplit]
  have hlead : (lead.map Edit.kept).map Edit.after = lead := by
    rw [List.map_map]
    exact List.map_id lead
  have hbefore : (lead.map Edit.kept).filterMap Edit.before = lead := by
    rw [List.filterMap_map]
    exact List.filterMap_some
  have himport : (importEdits m.instrument.2).filterMap Edit.before = [] := by
    unfold importEdits
    split <;> rfl
  refine ⟨lead, rest, edits, _, hsplit, hleads, unwrappable_of_leads hleads, hnames ▸ hedits, rfl, ?_, ?_,
    fun hnil => ?_⟩
  · rw [List.map_append, List.map_append, hlead, hafter, instrument_eq hfree hsplit hleads]
  · rw [List.filterMap_append, List.filterMap_append, hbefore, himport, hedits.before, List.append_nil,
      ← hsplit]
  · rw [instrument_names] at hnil
    rw [instrument_unrecorded hnil]

/-- A documented module with a function that is defined twice, a lambda, and a function that is not
listed. -/
def preluded : Module :=
  [.expression (.literal (.text "Rates." false)),
    .loadFrom (some "__future__") [⟨"annotations", some "later"⟩] 0,
    .assign [.name "__all__"] (.tuple [.literal (.text "half" false), .literal (.text "rate" false)]),
    .function false [] "rate" .empty none [.pass], .assign [.name "half"] (.lambda .empty (.name "rate")),
    .function true [] "wait" .empty none [.pass], .function false [] "rate" .empty none [.pass]]

theorem instrument_conserves_preluded : recorderName ∉ preluded.flatMap Statement.binds ∧
    preluded.instrument.2 = ["rate", "half", "rate"] ∧ ∃ lead rest edits whole, preluded = lead ++ rest ∧
      Leads lead rest ∧ Edits preluded.exported rest edits ["rate", "half", "rate"] ∧
      whole = lead.map Edit.kept ++ [.inserted recorderImport] ++ edits ∧
      whole.map Edit.after = preluded.instrument.1 ∧ whole.filterMap Edit.before = preluded := by
  have hfree : recorderName ∉ preluded.flatMap Statement.binds := by decide
  have hnames : preluded.instrument.2 = ["rate", "half", "rate"] := by decide
  obtain ⟨lead, rest, edits, whole, hsplit, hleads, -, hedits, hwhole, hafter, hbefore, -⟩ :=
    instrument_conserves hfree
  rw [hnames] at hedits hwhole
  exact ⟨hfree, hnames, lead, rest, edits, whole, hsplit, hleads, hedits, hwhole, hafter, hbefore⟩

/-- The shadow of `record` passes for the recorder, and nothing imports the recorder. -/
example : instrument [.function false [] "record" .empty none [.pass]] =
    ([.function false [] "_snap_record" .empty none [.pass],
      .assign [.name "record"]
        (.call (.name "_snap_record") [.name "_snap_record", .literal (.text "record" false)] [])],
      ["record"]) := by cbv

end Module

end CallSnapshot.Source
