import CallSnapshot.Proofs.Capture.Recording
import CallSnapshot.Proofs.Json.Reading
import CallSnapshot.Proofs.Replay.Reporting
import CallSnapshot.Proofs.Value.Equivalence

/-!
Calls grouped by the names of their functions. Names are keys: on those that can be keys being one key is
an equivalence, and the groups are the classes of the calls, in the order of their first calls.
-/

namespace CallSnapshot.Log

/-- A name by which calls can be grouped, as it is read from a text. -/
structure IsKey (name : Json) : Prop where
  hashable : (Codec.ofJson name).hashFault? = none
  faithful : name.Faithful

lemma IsKey.atom {name : Json} (h : IsKey name) : (Codec.ofJson name).Atom := by
  obtain ⟨hhash, hfaithful⟩ := h
  cases name with
  | null => exact .null
  | bool b => exact .bool b
  | int n => exact .int n
  | float x => exact .float hfaithful
  | str s => exact .str s
  | arr items => cases hhash
  | obj members => cases hhash

lemma IsKey.key?_eq_none_iff {name : Json} (h : IsKey name) :
    (Codec.ofJson name).key? = none ↔ name = .float .nan := by
  obtain ⟨hhash, -⟩ := h
  cases name with
  | float x => cases x <;> simp [Codec.ofJson, Value.key?, Binary64.magnitude?]
  | arr items => cases hhash
  | obj members => cases hhash
  | _ => simp [Codec.ofJson, Value.key?]

lemma sameName_iff {a b : Json} (ha : IsKey a) (hb : IsKey b) :
    sameName a b = true ↔ (Codec.ofJson a).key? = (Codec.ofJson b).key? := by
  unfold sameName
  split
  · exact iff_of_true rfl rfl
  · rename_i hnan
    rw [Value.eq_iff_key ha.atom hb.atom]
    constructor
    · rintro ⟨k, hk, hk'⟩
      rw [hk, hk']
    · intro h
      cases hk : (Codec.ofJson a).key? with
      | some k => exact ⟨k, rfl, h ▸ hk⟩
      | none => exact (hnan (ha.key?_eq_none_iff.mp hk) (hb.key?_eq_none_iff.mp (h ▸ hk))).elim

def groupOf (events : List Event) (name : Json) : Group := ⟨name, events.filter fun e => sameName name e.name⟩

lemma eraseDupsBy_concat {α : Type} (r : α → α → Bool) (xs : List α) (x : α) :
    (xs ++ [x]).eraseDupsBy r = if (xs.eraseDupsBy r).any (r x) then xs.eraseDupsBy r else xs.eraseDupsBy r ++ [x] := by
  suffices hloop : ∀ done, List.eraseDupsBy.loop r (xs ++ [x]) done =
      if (List.eraseDupsBy.loop r xs done).any (r x) then List.eraseDupsBy.loop r xs done
      else List.eraseDupsBy.loop r xs done ++ [x] from hloop []
  induction xs with
  | nil =>
    intro done
    simp only [List.nil_append, List.eraseDupsBy.loop, List.any_reverse]
    cases done.any (r x) <;> simp
  | cons y xs ih =>
    intro done
    simp only [List.cons_append, List.eraseDupsBy.loop]
    by_cases hy : done.any (r y) = true
    · simp only [hy, ih]
    · rw [Bool.not_eq_true] at hy
      simp only [hy, ih]

section Keys

variable {events : List Event} {e : Event} {names : List Json}

lemma groupOf_append (events : List Event) (e : Event) (name : Json) : groupOf (events ++ [e]) name =
    ⟨name, (groupOf events name).events ++ if sameName name e.name then [e] else []⟩ := by
  rw [groupOf, groupOf, List.filter_append, List.filter_singleton]
  cases sameName name e.name <;> rfl

lemma sameName_comm {a b : Json} (ha : IsKey a) (hb : IsKey b) : sameName a b = sameName b a := by
  rw [Bool.eq_iff_iff, sameName_iff ha hb, sameName_iff hb ha, eq_comm]

lemma addToGroups_groupOf (he : IsKey e.name) (hkeys : ∀ n ∈ names, IsKey n)
    (hdistinct : names.Pairwise fun m n => sameName m n = false) :
    addToGroups e (names.map (groupOf events)) = names.map (groupOf (events ++ [e])) ++
      if names.any (sameName e.name) then [] else [⟨e.name, [e]⟩] := by
  induction names with
  | nil => rfl
  | cons n names ih =>
    obtain ⟨hn, hkeys⟩ := List.forall_mem_cons.mp hkeys
    obtain ⟨hfirst, hdistinct⟩ := List.pairwise_cons.mp hdistinct
    rw [List.map_cons, List.map_cons, addToGroups, groupOf_append, List.any_cons, sameName_comm he hn]
    change (if sameName n e.name then _ else _) = _
    by_cases hsame : sameName n e.name = true
    · -- no other name is that of the call
      have hrest : names.map (groupOf (events ++ [e])) = names.map (groupOf events) := by
        refine List.map_congr_left fun m hm => ?_
        have hother : ¬ sameName m e.name = true := by
          intro hm'
          have hkey := (sameName_iff hn he).mp hsame
          rw [← (sameName_iff (hkeys m hm) he).mp hm', ← sameName_iff hn (hkeys m hm), hfirst m hm] at hkey
          cases hkey
        rw [groupOf_append, if_neg hother, List.append_nil]
        rfl
      rw [if_pos hsame, if_pos hsame, hsame, Bool.true_or, if_pos rfl, hrest, List.append_nil]
      rfl
    · rw [if_neg hsame, if_neg hsame, List.append_nil, Bool.eq_false_iff.mpr hsame, Bool.false_or,
        ih hkeys hdistinct]
      rfl

def namesOf (events : List Event) : List Json := (events.map Event.name).eraseDupsBy sameName

lemma namesOf_concat (events : List Event) (e : Event) : namesOf (events ++ [e]) =
    if (namesOf events).any (sameName e.name) then namesOf events else namesOf events ++ [e.name] := by
  rw [namesOf, List.map_append, List.map_singleton, eraseDupsBy_concat, namesOf]

lemma mem_of_mem_namesOf {n : Json} (h : n ∈ namesOf events) : ∃ e ∈ events, e.name = n := by
  induction events using List.reverseRecOn with
  | nil => cases h
  | append_singleton events e ih =>
    have hold : n ∈ namesOf events → ∃ e' ∈ events ++ [e], e'.name = n := fun h => by
      obtain ⟨e', he', hn⟩ := ih h
      exact ⟨e', List.mem_append_left _ he', hn⟩
    rw [namesOf_concat] at h
    split at h
    · exact hold h
    · rcases List.mem_append.mp h with h | h
      · exact hold h
      · exact ⟨e, by simp, (List.mem_singleton.mp h).symm⟩

lemma namesOf_distinct (h : ∀ e ∈ events, IsKey e.name) :
    (namesOf events).Pairwise (fun m n => sameName m n = false) ∧
      ∀ e ∈ events, (namesOf events).any (sameName e.name) = true := by
  induction events using List.reverseRecOn with
  | nil => exact ⟨.nil, nofun⟩
  | append_singleton events e ih =>
    obtain ⟨hdistinct, hevery⟩ := ih fun e' he' => h e' (List.mem_append_left _ he')
    have he := h e (by simp)
    rw [namesOf_concat]
    split
    · rename_i hold
      refine ⟨hdistinct, fun e' he' => ?_⟩
      rcases List.mem_append.mp he' with he' | he'
      · exact hevery e' he'
      · rwa [List.mem_singleton.mp he']
    · rename_i hnew
      constructor
      · refine List.pairwise_append.mpr ⟨hdistinct, List.pairwise_singleton _ _, fun m hm n hn => ?_⟩
        obtain rfl := List.mem_singleton.mp hn
        obtain ⟨e', he', rfl⟩ := mem_of_mem_namesOf hm
        rw [sameName_comm (h e' (List.mem_append_left _ he')) he]
        exact Bool.eq_false_iff.mpr fun hsame => hnew (List.any_eq_true.mpr ⟨_, hm, hsame⟩)
      · intro e' he'
        rw [List.any_append]
        rcases List.mem_append.mp he' with he' | he'
        · rw [hevery e' he', Bool.true_or]
        · have hself : sameName e.name e.name = true := (sameName_iff he he).mpr rfl
          rw [List.mem_singleton.mp he', List.any_cons, hself, Bool.true_or, Bool.or_true]

lemma groupOf_new (h : ∀ e ∈ events, IsKey e.name) (he : IsKey e.name)
    (hnew : ¬ (namesOf events).any (sameName e.name) = true) : groupOf (events ++ [e]) e.name = ⟨e.name, [e]⟩ := by
  have hnone : (groupOf events e.name).events = [] := by
    refine List.filter_eq_nil_iff.mpr fun e' he' hsame => hnew ?_
    obtain ⟨n, hn, hsame'⟩ := List.any_eq_true.mp ((namesOf_distinct h).2 e' he')
    obtain ⟨e'', he'', rfl⟩ := mem_of_mem_namesOf hn
    refine List.any_eq_true.mpr ⟨_, hn, (sameName_iff he (h e'' he'')).mpr ?_⟩
    exact ((sameName_iff he (h e' he')).mp hsame).trans ((sameName_iff (h e' he') (h e'' he'')).mp hsame')
  rw [groupOf_append, hnone, if_pos ((sameName_iff he he).mpr rfl), List.nil_append]

/-- The groups of calls: one for each name, with the calls of that name in their order. -/
theorem group_eq (h : ∀ e ∈ events, IsKey e.name) :
    group events = .ok ((namesOf events).map (groupOf events)) := by
  have hfold : events.foldl (fun gs e => addToGroups e gs) [] = (namesOf events).map (groupOf events) := by
    induction events using List.reverseRecOn with
    | nil => rfl
    | append_singleton events e ih =>
      have hevents : ∀ e' ∈ events, IsKey e'.name := fun e' he' => h e' (List.mem_append_left _ he')
      have he := h e (by simp)
      have hkeys : ∀ n ∈ namesOf events, IsKey n := fun n hn => by
        obtain ⟨e', he', rfl⟩ := mem_of_mem_namesOf hn
        exact hevents e' he'
      rw [List.foldl_append, ih hevents, List.foldl_cons, List.foldl_nil,
        addToGroups_groupOf he hkeys (namesOf_distinct hevents).1, namesOf_concat]
      split
      · exact List.append_nil _
      · rename_i hnew
        rw [List.map_append, List.map_singleton, groupOf_new hevents he hnew]
  rw [group, forM_eq_ok.mpr fun e he => groupable_eq_ok.mpr (h e he).hashable, ← hfold]
  rfl

end Keys

end CallSnapshot.Log

/-!
What a report accounts for. Each call is in the report of the function of its name, and what is counted of
the replays of a function, of the functions of a run and in the summary of it is what there is of them.
-/

namespace CallSnapshot

/-- What is said of the calls of one name, where `found` is the function of that name, if there is one. -/
structure FunctionReport.Accounts (found : Option Entrance) (name : Json) (events : List Event)
    (x : FunctionReport) : Prop where
  name : x.name = name
  total : x.total = events.length
  replays : x.replays.map Replay.event = if found.isSome then events else []
  failed : x.failed = x.replays.countP fun r => r.error.isSome || !r.changes.isEmpty
  status : x.status = if found.isNone then .notFound else if 0 < x.failed then .failed else .passed
  source : x.source = found.map Entrance.source

namespace Report

/-- A summary counts what there is in the report. -/
structure Counts (report : Report) (data : Json) : Prop where
  functions : data.get? "functions" = some (natData report.results.length)
  replays : data.get? "replays" = some (natData (report.results.map FunctionReport.total).sum)
  statuses : ∃ counts : List (String × ℕ),
    data.get? "statuses" = some (.obj (counts.map fun c => (c.1, natData c.2))) ∧
      counts.map Prod.fst = Status.all.map Status.title ∧ (counts.map Prod.snd).sum = report.results.length
  /-- What a function drifted in is told of each of its failed replays. -/
  drift : ∃ parts, data.get? "results" = some (.arr parts) ∧
    List.Forall₂ (fun x part => ∃ drift, Json.get? "drift" part = some (.arr drift) ∧ drift.length = x.failed)
      report.results parts

/-- A report accounts for calls that were replayed against the functions of a registry. -/
structure Accounts (r : Registry) (events : List Event) (report : Report) : Prop where
  results : List.Forall₂ (fun name x => x.Accounts ((Workspace.textName? name).bind r.lookup?) name
    (events.filter fun e => Log.sameName name e.name))
      ((events.map Event.name).eraseDupsBy Log.sameName) report.results
  total : (report.results.map FunctionReport.total).sum = events.length
  passed : report.passed = true ↔ ∀ x ∈ report.results, x.status ≠ .failed ∧ x.status ≠ .notFound
  summary : ∀ time data, report.summary time = .ok data → report.Counts data

lemma sum_counts (report : Report) : (Status.all.map report.count).sum = report.results.length := by
  obtain ⟨results, error⟩ := report
  induction results with
  | nil => rfl
  | cons x results ih =>
    have hcons : ∀ s, count ⟨x :: results, error⟩ s =
        (if x.status = s then 1 else 0) + count ⟨results, error⟩ s := by
      intro s
      by_cases hs : x.status = s <;> simp [count, hs, Nat.add_comm]
    simp only [Status.all, List.map_cons, List.map_nil, List.sum_cons, List.sum_nil, hcons, List.length_cons] at ih ⊢
    cases x.status <;> simp <;> omega

lemma not_passed (x : Replay) : (!x.passed) = (x.error.isSome || !x.changes.isEmpty) := by
  rw [Replay.passed, Bool.not_and, Option.not_isNone]

lemma functionData_drift {x : FunctionReport} {data : Json}
    (hfailed : x.failed = x.replays.countP fun r => r.error.isSome || !r.changes.isEmpty)
    (h : functionData x = .ok data) :
    ∃ drift, Json.get? "drift" data = some (.arr drift) ∧ drift.length = x.failed := by
  obtain ⟨drift, hdrift, h⟩ := bind_eq_ok.mp h
  cases h
  refine ⟨drift, rfl, ?_⟩
  rw [← (Codec.mapM_eq_ok.mp hdrift).length_eq, ← List.countP_eq_length_filter, hfailed]
  simp only [not_passed]

lemma counts_of_summary {report : Report} {time : String} {data : Json}
    (hfailed : ∀ x ∈ report.results, x.failed = x.replays.countP fun r => r.error.isSome || !r.changes.isEmpty)
    (h : report.summary time = .ok data) : report.Counts data := by
  obtain ⟨parts, hparts, h⟩ := bind_eq_ok.mp h
  cases h
  refine ⟨rfl, rfl, ⟨Status.all.map fun s => (s.title, report.count s), rfl, rfl, sum_counts report⟩, parts, rfl, ?_⟩
  have hall := (List.forall₂_and_left _ _).mpr ⟨hfailed, Codec.mapM_eq_ok.mp hparts⟩
  exact hall.imp fun x part h => functionData_drift h.1 h.2

end Report

namespace Replaying

variable {σ : Type} [Noted σ] {t : Diff.Tolerance} {f : Routine σ}

lemma verifyFunction_accounts {name : Json} {events : List (Heap × Event)} {report : FunctionReport} {s s' : σ}
    (hsome : events ≠ []) (h : (verifyFunction t name f events).run.run s = (.ok report, s')) (found : Entrance) :
    { report with source := some found.source }.Accounts (some found) name (events.map Prod.snd) := by
  have hreplays := verifyFunction_event h
  unfold verifyFunction at h
  dsimp only at h
  rw [if_neg (by simpa using hsome)] at h
  obtain ⟨xs, u, -, h⟩ := run_bind_eq_ok.mp h
  have hcount : (xs.filter fun r => !r.passed).length =
      xs.countP fun r => r.error.isSome || !r.changes.isEmpty := by
    rw [← List.countP_eq_length_filter]
    simp only [Report.not_passed]
  split at h <;> rename_i hzero <;> cases h
  · exact ⟨rfl, (List.length_map _).symm, hreplays, hcount, by simp [hzero], rfl⟩
  · exact ⟨rfl, (List.length_map _).symm, hreplays, hcount, by simp [Nat.pos_iff_ne_zero, hzero], rfl⟩

end Replaying

namespace Workspace

open Replaying

variable {w : Workspace} {t : Diff.Tolerance} {p : Program} {r : Registry}

lemma verifyGroup_accounts {g : Log.Group} {x : FunctionReport} {run run' : Run} {s s' : Scene}
    (hsome : g.events ≠ []) (h : ((w.verifyGroup p r t g).run run).run.run s = (.ok (x, run'), s')) :
    x.Accounts ((textName? g.name).bind r.lookup?) g.name g.events := by
  unfold verifyGroup at h
  dsimp only at h
  split at h
  · rename_i hnone
    obtain ⟨-, mid, u, -, h⟩ := run_stateful_bind.mp h
    cases h
    rw [hnone]
    exact ⟨rfl, rfl, rfl, rfl, rfl, rfl⟩
  · rename_i found hfound
    obtain ⟨-, mid, u, -, h⟩ := run_stateful_bind.mp h
    obtain ⟨report, mid', u', hreport, h⟩ := run_stateful_bind.mp h
    cases h
    obtain ⟨-, v, -, hreport⟩ := run_bind_eq_ok.mp hreport
    obtain ⟨o, v', ho, hreport⟩ := run_bind_eq_ok.mp hreport
    cases hreport
    have hwork := verifyFunction_accounts (by simpa using hsome)
      (Prod.ext (Acting.settle_eq_ok ho).1 rfl) found
    rw [hfound]
    simpa [Function.comp_def] using hwork

lemma verifyGroups_accounts {gs : List Log.Group} {xs : List FunctionReport} {run run' : Run} {s s' : Scene}
    (hsome : ∀ g ∈ gs, g.events ≠ [])
    (h : ((gs.mapM (w.verifyGroup p r t)).run run).run.run s = (.ok (xs, run'), s')) :
    List.Forall₂ (fun g x => x.Accounts ((textName? g.name).bind r.lookup?) g.name g.events) gs xs := by
  induction gs generalizing xs run s with
  | nil =>
    cases h
    exact .nil
  | cons g gs ih =>
    rw [List.mapM_cons] at h
    obtain ⟨x, mid, u, hx, h⟩ := run_stateful_bind.mp h
    obtain ⟨xs, mid', u', hxs, h⟩ := run_stateful_bind.mp h
    cases h
    exact .cons (verifyGroup_accounts (hsome g List.mem_cons_self) hx)
      (ih (fun g hm => hsome g (List.mem_cons_of_mem _ hm)) hxs)

end Workspace

namespace Log

lemma faithful_recordOn? {line : List Char} {r : Record} (h : recordOn? line = some r) : r.name.Faithful := by
  unfold recordOn? at h
  split at h
  · cases h
  · obtain ⟨data, hdata, hrecord⟩ := Option.bind_eq_some_iff.mp h
    have hfaithful : data.Faithful := by
      cases hp : Json.parse (String.ofList (Text.trimChars line)) with
      | error e => rw [hp] at hdata; cases hdata
      | ok data' => rw [hp] at hdata; cases hdata; exact Json.parse_faithful hp
    unfold Record.ofData? at hrecord
    split at hrecord
    · split at hrecord
      · cases hrecord
        rw [Record.name]
        cases hname : Json.find? "fn_name" _ with
        | none => trivial
        | some v =>
          obtain ⟨m, hm, rfl⟩ := Json.find?_mem hname
          exact (Json.faithful_obj.mp hfaithful).2 m hm
      · cases hrecord
    · cases hrecord

lemma faithful_recordsOf {content : List UInt8} {records : List Record}
    (h : (recordsOf content).start.1 = .ok records) : ∀ r ∈ records, r.name.Faithful := by
  unfold recordsOf at h
  rcases hlines : linesOf content with ⟨lines, fault⟩
  rw [hlines] at h
  dsimp only at h
  cases fault with
  | some e =>
    dsimp only at h
    rw [(steady_readLines 1 lines).start_bind fun _ => Noting.steady_fail _ _, start_readLines] at h
    cases h
  | none =>
    dsimp only at h
    rw [(steady_readLines 1 lines).start_bind fun _ => Noting.steady_pure _, start_readLines] at h
    cases h
    intro r hr
    obtain ⟨line, -, hline⟩ := List.mem_filterMap.mp hr
    exact faithful_recordOn? hline

lemma faithful_records {log : Log} {records : List Record} {s s' : Scene}
    (h : (log.records true).run.run s = (.ok records, s')) : ∀ r ∈ records, r.name.Faithful := by
  unfold Log.records at h
  obtain ⟨fs, u, -, h₁⟩ := run_bind_eq_ok.mp h
  simp only [if_true, Bool.true_and] at h₁
  split at h₁
  · exact absurd h₁ throw_bind_ne_ok
  · obtain ⟨content, v, -, h₂⟩ := run_bind_eq_ok.mp h₁
    obtain ⟨rs, v', hrs, h₃⟩ := run_bind_eq_ok.mp h₂
    obtain ⟨hread, -⟩ := Acting.ofNoting_eq_ok hrs
    split at h₃
    · exact absurd h₃ throw_bind_ne_ok
    · cases h₃
      exact faithful_recordsOf hread

end Log

namespace Workspace

open Acting Replaying

variable {w : Workspace} {t : Diff.Tolerance} {p : Program} {r : Registry} {events : List Event}

/-- Calls replayed against the functions of a registry. -/
def review (w : Workspace) (p : Program) (r : Registry) (t : Diff.Tolerance) (events : List Event) :
    Acting Report := do
  let groups ← Acting.settle (Log.group events)
  Acting.info s!"Verifying {groups.length} functions against {events.length} snapshots..."
  let (results, _) ← (groups.mapM (w.verifyGroup p r t)).run {}
  return ⟨results, none⟩

lemma replayAll_eq_review (w : Workspace) (host : Host) (t : Diff.Tolerance) (records : List Record)
    (files : List Path) : w.replayAll host t records files = (do
      let names ← Acting.settle (wantedNames records)
      let start := Program.start host (← Acting.files) w.project
      let (p, r) ← Registry.build start files (names.filterMap textName?)
      let events ← Acting.ofNoting (Log.decodeRecords (some p.library) records)
      w.review p r t events) := rfl

lemma review_accounts {report : Report} {s s' : Scene} (hnames : ∀ e ∈ events, e.name.Faithful)
    (h : (w.review p r t events).run.run s = (.ok report, s')) : report.Accounts r events := by
  obtain ⟨groups, u, hgroups, h⟩ := run_bind_eq_ok.mp h
  obtain ⟨-, u₁, -, h⟩ := run_bind_eq_ok.mp h
  obtain ⟨⟨results, run⟩, u₂, hresults, h⟩ := run_bind_eq_ok.mp h
  cases h
  obtain ⟨hgroup, -⟩ := settle_eq_ok hgroups
  have hkeys : ∀ e ∈ events, Log.IsKey e.name := by
    obtain ⟨_, hall, -⟩ := bind_eq_ok.mp hgroup
    exact fun e he => ⟨Log.groupable_eq_ok.mp (Log.forM_eq_ok.mp hall e he), hnames e he⟩
  obtain ⟨hperm, -⟩ := Log.group_ok hgroup
  obtain rfl := Except.ok.inj (hgroup.symm.trans (Log.group_eq hkeys))
  have hsome : ∀ g ∈ (Log.namesOf events).map (Log.groupOf events), g.events ≠ [] := by
    intro g hg
    obtain ⟨n, hn, rfl⟩ := List.mem_map.mp hg
    obtain ⟨e, he, rfl⟩ := Log.mem_of_mem_namesOf hn
    have hself := (Log.sameName_iff (hkeys e he) (hkeys e he)).mpr rfl
    exact List.ne_nil_of_mem (List.mem_filter.mpr ⟨he, hself⟩)
  have hall := verifyGroups_accounts hsome hresults
  have hevery : ∀ x ∈ results, ∃ found name events, x.Accounts found name events := by
    intro x hx
    obtain ⟨i, hi, rfl⟩ := List.mem_iff_getElem.mp hx
    exact ⟨_, _, _, hall.get (hall.length_eq ▸ hi) hi⟩
  refine ⟨?_, ?_, ?_, fun time data => Report.counts_of_summary fun x hx => ?_⟩
  · rwa [List.forall₂_map_left_iff] at hall
  · have htotals : ((Log.namesOf events).map (Log.groupOf events)).map (fun g => g.events.length) =
        results.map FunctionReport.total := by
      rw [← List.forall₂_eq_eq_eq, List.forall₂_map_left_iff, List.forall₂_map_right_iff]
      exact hall.imp fun g x h => h.total.symm
    rw [← htotals, ← List.length_flatMap, hperm.length_eq]
  · rw [Report.passed, Option.isNone_none, Bool.true_and, List.all_eq_true]
    refine forall₂_congr fun x hx => ?_
    obtain ⟨found, name, events, h⟩ := hevery x hx
    rw [FunctionReport.passed]
    cases x.status <;> simp
  · obtain ⟨found, name, events, h⟩ := hevery x hx
    exact h.failed

/-- The report on calls that are replayed accounts for them, whatever the functions are; the report on a project
accounts for those calls of the log that could be decoded. Where there is no log, or no file to search, the report
says so instead. -/
theorem verification_accounts (w : Workspace) (t : Diff.Tolerance) :
    (∀ (p : Program) (r : Registry) (events : List Event) (report : Report) (s s' : Scene),
      (∀ e ∈ events, e.name.Faithful) → (w.review p r t events).run.run s = (.ok report, s') →
        report.Accounts r events) ∧
    ∀ (host : Host) (log : Log) (pattern : Option String) (report : Report) (s s' : Scene),
      (w.verify host log t pattern).run.run s = (.ok report, s') →
        (∃ f, report = ⟨[], some f⟩ ∧ (f.kind = .noSnapshots ∨ f.kind = .noFiles)) ∨
          ∃ records names p r u v, ((log.records true).run.run s).1 = .ok records ∧ wantedNames records = .ok names ∧
            (Registry.build (Program.start host s.files w.project) (s.files.sourceFiles w.project pattern)
              (names.filterMap textName?)).run.run u = (.ok (p, r), v) ∧
            report.Accounts r (records.filterMap (Log.decoded? (some p.library))) := by
  refine ⟨fun p r events report s s' hnames h => review_accounts hnames h, fun host log pattern report s s' h => ?_⟩
  unfold verify at h
  obtain ⟨o, u, ho, h₁⟩ := run_bind_eq_ok.mp h
  obtain ⟨rfl, rfl⟩ : ((w.material log pattern).run.run s).1 = o ∧
      ((w.material log pattern).run.run s).2 = u := by
    cases ho
    exact ⟨rfl, rfl⟩
  rcases hm : (w.material log pattern).run.run s with ⟨f | ⟨records, found⟩, u⟩
  · rw [hm] at h₁
    dsimp only at h₁
    split at h₁
    · exact absurd h₁ throw_bind_ne_ok
    · rename_i hkind
      obtain ⟨-, v₁, -, h₂⟩ := run_bind_eq_ok.mp h₁
      cases h₂
      refine .inl ⟨f, rfl, ?_⟩
      by_contra hneither
      obtain ⟨hsnapshots, hfiles⟩ := not_or.mp hneither
      exact hkind (by simp [hsnapshots, hfiles])
  · rw [hm] at h₁
    dsimp only at h₁
    obtain ⟨hrecords, -, -, rfl, hfiles⟩ := material_eq_ok hm
    rw [replayAll_eq_review] at h₁
    obtain ⟨names, v₁, hnames, h₂⟩ := run_bind_eq_ok.mp h₁
    obtain ⟨hwanted, rfl⟩ := settle_eq_ok hnames
    obtain ⟨fs, v₂, hfs, h₃⟩ := run_bind_eq_ok.mp h₂
    obtain ⟨rfl, rfl⟩ := files_eq_ok hfs
    obtain ⟨⟨p, r⟩, v₃, hbuild, h₄⟩ := run_bind_eq_ok.mp h₃
    obtain ⟨events, v₄, hevents, h₅⟩ := run_bind_eq_ok.mp h₄
    obtain ⟨hdecoded, -⟩ := ofNoting_eq_ok hevents
    rw [Log.start_decodeRecords] at hdecoded
    cases hdecoded
    rw [hfiles] at hbuild
    refine .inr ⟨records, names, p, r, v₂, v₃, hrecords, hwanted, hbuild, review_accounts (fun e he => ?_) h₅⟩
    obtain ⟨record, hrecord, hdecoded⟩ := List.mem_filterMap.mp he
    rw [Log.decoded?_name hdecoded]
    exact Log.faithful_records (Prod.ext hrecords rfl) record hrecord

/-- Calls of a function that is found, before and after one of a function that is not. -/
def mixedCalls : List Event :=
  [⟨.str "f", [.int 1], [], .int 1, .str ""⟩, ⟨.str "g", [], [], .int 0, .str ""⟩,
    ⟨.str "f", [.int 2], [], .int 3, .str ""⟩]

lemma group_mixedCalls : Log.group mixedCalls =
    .ok [⟨.str "f", [mixedCalls[0], mixedCalls[2]]⟩, ⟨.str "g", [mixedCalls[1]]⟩] := by
  have hff : Log.sameName (.str "f") (.str "f") = true := by simp [Log.sameName, Codec.ofJson, Value.eq, Value.textOf?]
  have hfg : Log.sameName (.str "f") (.str "g") = false := by simp [Log.sameName, Codec.ofJson, Value.eq, Value.textOf?]
  have hgroupable : mixedCalls.forM (fun e => Log.groupable e.name) = .ok () := rfl
  rw [Log.group, hgroupable, ok_bind]
  simp [mixedCalls, Log.addToGroups, hff, hfg]

theorem verification_accounts_of_mixed :
    (∃ p r report s', (tinyWorkspace.review p r Diff.exact mixedCalls).run.run callScene = (.ok report, s') ∧
      report.results.map (fun x => (x.status, x.total, x.failed)) = [(.failed, 2, 1), (.notFound, 1, 0)] ∧
      report.Accounts r mixedCalls) ∧
    ∃ report s', (tinyWorkspace.verify tinyHost tinyLog Diff.exact none).run.run callScene = (.ok report, s') ∧
      ∃ events r, report.Accounts r events ∧ events.length = 1 := by
  constructor
  · have hbuild : (((Registry.build (Program.start tinyHost callScene.files tinyWorkspace.project)
        [⟨.single, ["p", "m.py"]⟩] ["f", "g"]).run.run callScene).1.toOption.bind fun x =>
          ((tinyWorkspace.review x.1 x.2 Diff.exact mixedCalls).run.run callScene).1.toOption.map fun report =>
            report.results.map fun x => (x.status, x.total, x.failed)) =
              some [(.failed, 2, 1), (.notFound, 1, 0)] := by
      unfold review
      rw [group_mixedCalls]
      decide +kernel
    obtain ⟨⟨p, r⟩, -, hreview⟩ := Option.bind_eq_some_iff.mp hbuild
    obtain ⟨report, s', hrun, hresults⟩ := exists_ended hreview
    have hnames : ∀ e ∈ mixedCalls, e.name.Faithful := by simp [mixedCalls, Json.Faithful]
    exact ⟨p, r, report, s', hrun, hresults,
      (verification_accounts tinyWorkspace Diff.exact).1 p r mixedCalls report _ s' hnames hrun⟩
  · have hrun : (((tinyWorkspace.verify tinyHost tinyLog Diff.exact none).run.run callScene).1.toOption.map
        fun report => (report.error.isNone, report.results.map FunctionReport.total)) = some (true, [1]) := by
      decide +kernel
    obtain ⟨report, s', hverify, hreport⟩ := exists_ended hrun
    obtain ⟨herror, htotals⟩ := Prod.mk.inj hreport
    refine ⟨report, s', hverify, ?_⟩
    rcases (verification_accounts tinyWorkspace Diff.exact).2 _ _ _ _ _ _ hverify with
      ⟨f, rfl, -⟩ | ⟨records, names, p, r, u, v, -, -, -, haccounts⟩
    · cases herror
    · refine ⟨_, r, haccounts, ?_⟩
      rw [← haccounts.total, htotals]
      rfl

end Workspace

end CallSnapshot
