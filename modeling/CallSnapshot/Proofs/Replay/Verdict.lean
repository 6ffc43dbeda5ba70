import CallSnapshot.Proofs.Acting
import CallSnapshot.Proofs.Log.Reading
import CallSnapshot.Codec.Standard
import CallSnapshot.Replay.Replay

/-!
What a verification that passes has done: every call that could be read from the log was replayed
against a function, and came out as it was recorded.
-/

namespace CallSnapshot

namespace Replaying

variable {σ : Type} [Noted σ] {t : Diff.Tolerance} {f : Routine σ}

def Replays (t : Diff.Tolerance) (f : Routine σ) (heap : Heap) (e : Event) (x : Replay) : Prop :=
  ∃ s s', (replay t f heap e).run.run s = (.ok x, s')

lemma Replays.event {heap : Heap} {e : Event} {x : Replay} (h : Replays t f heap e x) : x.event = e := by
  obtain ⟨s, s', h⟩ := h
  unfold replay at h
  obtain ⟨r, u, -, h⟩ := run_bind_eq_ok.mp h
  cases r with
  | error fault =>
    dsimp only at h
    split at h
    · cases congrArg Prod.fst h
    · cases h
      rfl
  | ok v =>
    obtain ⟨cs, u', -, h⟩ := run_bind_eq_ok.mp h
    cases h
    rfl

lemma forall₂_event {heap : Heap} {events : List Event} {xs : List Replay}
    (h : List.Forall₂ (fun e x => Replays t f heap e x) events xs) : events = xs.map Replay.event := by
  induction h with
  | nil => rfl
  | cons hx _ ih => rw [List.map_cons, hx.event, ← ih]

lemma exists_replay {heap : Heap} {events : List Event} {xs : List Replay} {e : Event}
    (h : List.Forall₂ (fun e x => Replays t f heap e x) events xs) (he : e ∈ events) :
    ∃ x ∈ xs, Replays t f heap e x := by
  induction h with
  | nil => cases he
  | cons hx _ ih =>
    rcases List.mem_cons.mp he with rfl | he
    · exact ⟨_, List.mem_cons_self, hx⟩
    · obtain ⟨x, hm, hx⟩ := ih he
      exact ⟨x, List.mem_cons_of_mem _ hm, hx⟩

lemma replayAll_ok {name : String} {events : List (Heap × Event)} {xs : List Replay} {s s' : σ}
    (h : (replayAll t name f events).run.run s = (.ok xs, s')) :
    List.Forall₂ (fun e x => Replays t f e.1 e.2 x) events xs := by
  induction events generalizing xs s with
  | nil =>
    cases h
    exact .nil
  | cons e events ih =>
    obtain ⟨x, u, hx, h⟩ := run_bind_eq_ok.mp h
    obtain ⟨-, v, -, h⟩ := run_bind_eq_ok.mp h
    obtain ⟨ys, v', hys, h⟩ := run_bind_eq_ok.mp h
    cases h
    exact .cons ⟨s, u, hx⟩ (ih hys)

lemma verifyFunction_passed {name : Json} {events : List (Heap × Event)} {report : FunctionReport} {s s' : σ}
    (h : (verifyFunction t name f events).run.run s = (.ok report, s')) (hp : report.passed = true) :
    List.Forall₂ (fun e x => Replays t f e.1 e.2 x) events report.replays ∧
      ∀ x ∈ report.replays, x.passed = true := by
  unfold verifyFunction at h
  dsimp only at h
  split at h
  · rename_i hnone
    obtain ⟨-, u, -, h⟩ := run_bind_eq_ok.mp h
    cases h
    rw [List.isEmpty_iff.mp hnone]
    exact ⟨.nil, nofun⟩
  · obtain ⟨xs, u, hxs, h⟩ := run_bind_eq_ok.mp h
    split at h
    · rename_i hzero
      obtain ⟨-, v, -, h⟩ := run_bind_eq_ok.mp h
      cases h
      refine ⟨replayAll_ok hxs, fun x hx => ?_⟩
      by_contra hfailed
      have hmem : x ∈ xs.filter fun r => !r.passed := List.mem_filter.mpr ⟨hx, by simpa using hfailed⟩
      rw [List.length_eq_zero_iff.mp hzero] at hmem
      cases hmem
    · cases h
      cases hp

end Replaying

namespace Log

lemma sameName_text {s : String} {name : Json} (h : sameName (.str s) name = true) : name = .str s := by
  cases name <;> simp_all [sameName, Codec.ofJson, Value.eq, Value.textOf?]

def Group.Named (g : Group) : Prop := ∀ e ∈ g.events, e.name = g.name ∨ sameName g.name e.name = true

lemma addToGroups_perm (e : Event) (gs : List Group) :
    ((addToGroups e gs).flatMap Group.events).Perm (gs.flatMap Group.events ++ [e]) := by
  induction gs with
  | nil => exact .refl _
  | cons g gs ih =>
    unfold addToGroups
    split
    · simp only [List.flatMap_cons, List.append_assoc]
      exact .append_left _ List.perm_append_comm
    · simp only [List.flatMap_cons, List.append_assoc]
      exact .append_left _ ih

lemma addToGroups_named {e : Event} {gs : List Group} (h : ∀ g ∈ gs, g.Named) :
    ∀ g ∈ addToGroups e gs, g.Named := by
  induction gs with
  | nil =>
    intro g hg e' he'
    obtain rfl := List.mem_singleton.mp hg
    exact .inl (congrArg Event.name (List.mem_singleton.mp he'))
  | cons a gs ih =>
    have ha := h a List.mem_cons_self
    have hgs := fun g hg => h g (List.mem_cons_of_mem a hg)
    unfold addToGroups
    split
    · rename_i hsame
      intro g hg
      rcases List.mem_cons.mp hg with rfl | hg
      · intro e' he'
        rcases List.mem_append.mp he' with he' | he'
        · exact ha e' he'
        · obtain rfl := List.mem_singleton.mp he'
          exact .inr hsame
      · exact hgs g hg
    · intro g hg
      rcases List.mem_cons.mp hg with rfl | hg
      · exact ha
      · exact ih hgs g hg

lemma group_ok {events : List Event} {gs : List Group} (h : group events = .ok gs) :
    (gs.flatMap Group.events).Perm events ∧ ∀ g ∈ gs, g.Named := by
  obtain ⟨-, -, h⟩ := bind_eq_ok.mp h
  cases h
  have hfold : ∀ (es : List Event) gs, ((es.foldl (fun gs e => addToGroups e gs) gs).flatMap Group.events).Perm
      (gs.flatMap Group.events ++ es) ∧
      ((∀ g ∈ gs, g.Named) → ∀ g ∈ es.foldl (fun gs e => addToGroups e gs) gs, g.Named) := by
    intro es
    induction es with
    | nil => exact fun gs => ⟨by simp, id⟩
    | cons e es ih =>
      intro gs
      obtain ⟨hperm, hnamed⟩ := ih (addToGroups e gs)
      refine ⟨hperm.trans ?_, fun h => hnamed (addToGroups_named h)⟩
      rw [List.append_cons]
      exact (addToGroups_perm e gs).append_right es
  obtain ⟨hperm, hnamed⟩ := hfold events []
  exact ⟨hperm, hnamed nofun⟩

lemma records_required {log : Log} {records : List Record} {s s' : Scene}
    (h : (log.records true).run.run s = (.ok records, s')) : records ≠ [] ∧ s'.files = s.files := by
  unfold Log.records at h
  obtain ⟨fs, u, hfs, h₁⟩ := run_bind_eq_ok.mp h
  obtain ⟨rfl, rfl⟩ := Acting.files_eq_ok hfs
  simp only [if_true, Bool.true_and] at h₁
  split at h₁
  · exact absurd h₁ throw_bind_ne_ok
  · obtain ⟨content, v, hcontent, h₂⟩ := run_bind_eq_ok.mp h₁
    obtain ⟨-, rfl⟩ := Acting.ask_eq_ok hcontent
    obtain ⟨rs, v', hrs, h₃⟩ := run_bind_eq_ok.mp h₂
    obtain ⟨-, hfiles⟩ := Acting.ofNoting_eq_ok hrs
    split at h₃
    · exact absurd h₃ throw_bind_ne_ok
    · rename_i hsome
      cases h₃
      exact ⟨fun hnil => hsome (by rw [hnil]; rfl), hfiles⟩

end Log

namespace Workspace

open Acting Replaying

variable {w : Workspace} {host : Host} {log : Log} {t : Diff.Tolerance} {p : Program} {r : Registry}

/-- A call was replayed against the function of its name, and came out as it was recorded. -/
def Reproduced (p : Program) (r : Registry) (t : Diff.Tolerance) (e : Event) : Prop :=
  ∃ found, (textName? e.name).bind r.lookup? = some found ∧
    Replays t (found.thing.routine p "") [] e ⟨e, [], none⟩

lemma textName?_eq_some {name : Json} {s : String} : textName? name = some s ↔ name = .str s := by
  cases name <;> simp [textName?]

/-- The calls of one function of a report: all of a group, replayed against the function of its name. -/
structure Verified (p : Program) (r : Registry) (t : Diff.Tolerance) (g : Log.Group)
    (report : FunctionReport) : Prop where
  replays : report.replays.map Replay.event = g.events
  passed : ∀ x ∈ report.replays, x.passed = true
  reproduced : ∀ e ∈ g.events, Reproduced p r t e

lemma run_stateful_bind {α β : Type} {c : StateT Run Acting α} {f : α → StateT Run Acting β} {b : β}
    {run run' : Run} {s s' : Scene} : ((c >>= f).run run).run.run s = (.ok (b, run'), s') ↔
      ∃ a mid u, (c.run run).run.run s = (.ok (a, mid), u) ∧
        ((f a).run mid).run.run u = (.ok (b, run'), s') := by
  rw [StateT.run_bind, run_bind_eq_ok]
  exact ⟨fun ⟨⟨a, mid⟩, u, h⟩ => ⟨a, mid, u, h⟩, fun ⟨a, mid, u, h⟩ => ⟨⟨a, mid⟩, u, h⟩⟩

lemma checkFunction_passed {name : Json} {f : Routine Run} {events : List Event}
    {report : FunctionReport} {run run' : Run} {s s' : Scene}
    (h : ((checkFunction t name f events).run run).run.run s = (.ok (report, run'), s'))
    (hp : report.passed = true) :
    List.Forall₂ (fun e x => Replays t f [] e x) events report.replays ∧
      ∀ x ∈ report.replays, x.passed = true := by
  obtain ⟨-, u, -, h⟩ := run_bind_eq_ok.mp h
  obtain ⟨o, v, ho, h⟩ := run_bind_eq_ok.mp h
  cases h
  have hall : List.Forall₂ (fun e x => Replays t f e.1 e.2 x) (events.map fun e => ([], e))
      report.replays ∧ ∀ x ∈ report.replays, x.passed = true :=
    verifyFunction_passed (Prod.ext (settle_eq_ok ho).1 rfl) hp
  rwa [List.forall₂_map_left_iff] at hall

lemma verifyGroup_passed {g : Log.Group} {report : FunctionReport} {run run' : Run} {s s' : Scene}
    (hg : g.Named) (h : ((w.verifyGroup p r t g).run run).run.run s = (.ok (report, run'), s'))
    (hp : report.passed = true) : Verified p r t g report := by
  unfold verifyGroup at h
  dsimp only at h
  split at h
  · obtain ⟨-, mid, u, -, h⟩ := run_stateful_bind.mp h
    cases h
    cases hp
  · rename_i found hfound
    obtain ⟨-, mid, u, -, h⟩ := run_stateful_bind.mp h
    obtain ⟨report, mid', u', hreport, h⟩ := run_stateful_bind.mp h
    cases h
    obtain ⟨hreplays, hall⟩ := checkFunction_passed hreport hp
    obtain ⟨n, hn, hfound⟩ := Option.bind_eq_some_iff.mp hfound
    refine ⟨?_, hall, fun e he => ⟨found, ?_, ?_⟩⟩
    · exact (forall₂_event hreplays).symm
    · have hname : e.name = g.name := by
        rcases hg e he with hname | hsame
        · exact hname
        · rw [textName?_eq_some.mp hn] at hsame ⊢
          exact Log.sameName_text hsame
      rw [hname, hn]
      exact hfound
    · obtain ⟨x, hx, hreplay⟩ := exists_replay hreplays he
      have hpassed := hall x hx
      obtain rfl : x = ⟨e, [], none⟩ := by
        rw [Replay.passed, Bool.and_eq_true, Option.isNone_iff_eq_none, List.isEmpty_iff] at hpassed
        cases x
        simp_all [← hreplay.event]
      exact hreplay

lemma verifyGroups_passed {gs : List Log.Group} {reports : List FunctionReport} {run run' : Run}
    {s s' : Scene} (hg : ∀ g ∈ gs, g.Named)
    (h : ((gs.mapM (w.verifyGroup p r t)).run run).run.run s = (.ok (reports, run'), s'))
    (hp : ∀ x ∈ reports, x.passed = true) : List.Forall₂ (Verified p r t) gs reports := by
  induction gs generalizing reports run s with
  | nil =>
    cases h
    exact .nil
  | cons g gs ih =>
    rw [List.mapM_cons] at h
    obtain ⟨x, mid, u, hx, h⟩ := run_stateful_bind.mp h
    obtain ⟨xs, mid', u', hxs, h⟩ := run_stateful_bind.mp h
    cases h
    exact .cons (verifyGroup_passed (hg g List.mem_cons_self) hx (hp x List.mem_cons_self))
      (ih (fun g hm => hg g (List.mem_cons_of_mem _ hm)) hxs fun x hm => hp x (List.mem_cons_of_mem _ hm))

section Groups

variable {gs : List Log.Group} {reports : List FunctionReport} (h : List.Forall₂ (Verified p r t) gs reports)

include h

lemma verified_events : (reports.flatMap FunctionReport.replays).map Replay.event = gs.flatMap Log.Group.events := by
  induction h with
  | nil => rfl
  | cons hg _ ih => rw [List.flatMap_cons, List.flatMap_cons, List.map_append, hg.replays, ih]

lemma verified_replays : ∀ x ∈ reports.flatMap FunctionReport.replays, x.passed = true := by
  induction h with
  | nil => nofun
  | cons hg _ ih =>
    intro x hx
    rcases List.mem_append.mp hx with hx | hx
    · exact hg.passed x hx
    · exact ih x hx

lemma verified_reproduced : ∀ e ∈ gs.flatMap Log.Group.events, Reproduced p r t e := by
  induction h with
  | nil => nofun
  | cons hg _ ih =>
    intro e he
    rcases List.mem_append.mp he with he | he
    · exact hg.reproduced e he
    · exact ih e he

end Groups

lemma material_eq_ok {records : List Record} {found : List Path} {pattern : Option String} {s s' : Scene}
    (h : (w.material log pattern).run.run s = (.ok (records, found), s')) :
    ((log.records true).run.run s).1 = .ok records ∧ records ≠ [] ∧ found ≠ [] ∧
      found = s.files.sourceFiles w.project pattern ∧ s'.files = s.files := by
  unfold material at h
  obtain ⟨rs, u, hrs, h⟩ := run_bind_eq_ok.mp h
  obtain ⟨hne, hfiles⟩ := Log.records_required hrs
  obtain ⟨ps, v, hps, h⟩ := run_bind_eq_ok.mp h
  obtain ⟨fs, v', hfs, hps⟩ := run_bind_eq_ok.mp hps
  obtain ⟨rfl, rfl⟩ := Acting.files_eq_ok hfs
  cases hps
  dsimp only at h
  split at h
  · exact absurd h throw_bind_ne_ok
  · rename_i hsome
    cases h
    refine ⟨congrArg Prod.fst hrs, hne, fun hnil => hsome (by rw [hnil]; rfl), ?_, hfiles⟩
    rw [hfiles]

/-- When a verification passes there were calls to replay. Each record that can be decoded, and none
else, was replayed, without a fault or a difference. -/
theorem passed_reproduced {pattern : Option String} {report : Report} {s s' : Scene}
    (h : (w.verify host log t pattern).run.run s = (.ok report, s')) (hp : report.passed = true) :
    ∃ records names p r, ((log.records true).run.run s).1 = .ok records ∧ records ≠ [] ∧
      wantedNames records = .ok names ∧
      (∃ u v, (Registry.build (Program.start host s.files w.project)
        (s.files.sourceFiles w.project pattern) (names.filterMap textName?)).run.run u = (.ok (p, r), v)) ∧
      ((report.results.flatMap FunctionReport.replays).map Replay.event).Perm
        (records.filterMap (Log.decoded? (some p.library))) ∧
      (∀ x ∈ report.results.flatMap FunctionReport.replays, x.error = none ∧ x.changes = []) ∧
      ∀ record ∈ records, ∀ e, Log.decoded? (some p.library) record = some e → Reproduced p r t e := by
  unfold verify at h
  obtain ⟨o, u, ho, h₁⟩ := run_bind_eq_ok.mp h
  obtain ⟨rfl, rfl⟩ : ((w.material log pattern).run.run s).1 = o ∧
      ((w.material log pattern).run.run s).2 = u := by
    cases ho
    exact ⟨rfl, rfl⟩
  rcases hm : (w.material log pattern).run.run s with ⟨f | ⟨records, found⟩, u⟩
  · rw [hm] at h₁
    dsimp only at h₁
    split at h₁
    · exact absurd h₁ throw_bind_ne_ok
    · obtain ⟨-, v₁, -, h₂⟩ := run_bind_eq_ok.mp h₁
      cases h₂
      cases hp
  · rw [hm] at h₁
    dsimp only at h₁
    obtain ⟨hrecords, hne, -, rfl, hfiles⟩ := material_eq_ok hm
    obtain ⟨names, v₁, hnames, h₂⟩ := run_bind_eq_ok.mp h₁
    obtain ⟨hwanted, rfl⟩ := settle_eq_ok hnames
    obtain ⟨fs, v₂, hfs, h₃⟩ := run_bind_eq_ok.mp h₂
    obtain ⟨rfl, rfl⟩ := files_eq_ok hfs
    obtain ⟨⟨p, r⟩, v₃, hbuild, h₄⟩ := run_bind_eq_ok.mp h₃
    obtain ⟨events, v₄, hevents, h₅⟩ := run_bind_eq_ok.mp h₄
    obtain ⟨hdecoded, -⟩ := ofNoting_eq_ok hevents
    rw [Log.start_decodeRecords] at hdecoded
    cases hdecoded
    obtain ⟨groups, v₅, hgroups, h₆⟩ := run_bind_eq_ok.mp h₅
    obtain ⟨hgroup, rfl⟩ := settle_eq_ok hgroups
    obtain ⟨hperm, hnamed⟩ := Log.group_ok hgroup
    obtain ⟨-, v₆, -, h₇⟩ := run_bind_eq_ok.mp h₆
    obtain ⟨⟨reports, run⟩, v₇, hreports, h₈⟩ := run_bind_eq_ok.mp h₇
    cases h₈
    have hverified := verifyGroups_passed hnamed hreports (List.all_eq_true.mp hp)
    rw [hfiles] at hbuild
    refine ⟨records, names, p, r, hrecords, hne, hwanted, ⟨v₂, v₃, hbuild⟩, ?_, ?_, ?_⟩
    · rw [verified_events hverified]
      exact hperm
    · intro x hx
      have hx := verified_replays hverified x hx
      rwa [Replay.passed, Bool.and_eq_true, Option.isNone_iff_eq_none, List.isEmpty_iff] at hx
    · intro record hrecord e he
      have hmem := List.mem_filterMap.mpr ⟨record, hrecord, he⟩
      exact verified_reproduced hverified e (hperm.mem_iff.mpr hmem)

/-! A project of one file and a log of one line. -/

def tinyWorkspace : Workspace := ⟨⟨.single, ["p"]⟩, ⟨.single, ["t"]⟩⟩

def tinyHost : Host := ⟨[], Standard.catalogue, fun _ _ => none⟩

def tinyLog : Log := ⟨⟨.single, ["p", "log"]⟩⟩

def tinyScene (source line : String) : Scene where
  files := ⟨[(["p"], .directory), (["p", "m.py"], .file (Text.encodeUtf8 source)),
    (["p", "log"], .file (Text.encodeUtf8 line))], []⟩
  notes := []
  level := .warning

def callScene : Scene :=
  tinyScene "def f(x):\n    return x\n" "\x7b\"fn_name\": \"f\", \"args\": [1], \"result\": 1\x7d\n"

theorem passed_reproduced_call : ∃ report s',
    (tinyWorkspace.verify tinyHost tinyLog Diff.exact none).run.run callScene = (.ok report, s') ∧
      report.passed = true ∧ ∃ records p r, ((tinyLog.records true).run.run callScene).1 = .ok records ∧
        (records.filterMap (Log.decoded? (some p.library))).length = 1 ∧
        ∀ record ∈ records, ∀ e, Log.decoded? (some p.library) record = some e →
          Reproduced p r Diff.exact e := by
  have hrun : (((tinyWorkspace.verify tinyHost tinyLog Diff.exact none).run.run callScene).1.toOption.map
      fun r => (r.passed, (r.results.flatMap FunctionReport.replays).length)) = some (true, 1) := by
    decide +kernel
  obtain ⟨report, s', hverify, hreport⟩ := exists_ended hrun
  obtain ⟨hpassed, hcount⟩ := Prod.mk.inj hreport
  obtain ⟨records, _, p, r, hrecords, -, -, -, hperm, -, hreproduced⟩ := passed_reproduced hverify hpassed
  refine ⟨report, s', hverify, hpassed, records, p, r, hrecords, ?_, hreproduced⟩
  rw [← hperm.length_eq, List.length_map, hcount]

def undecodableScene : Scene :=
  tinyScene "" "\x7b\"fn_name\": \"f\", \"args\": [\x7b\"__type__\": \"tuple\"\x7d], \"result\": 1\x7d\n"

/-- A record that cannot be decoded does not keep a verification from passing; nothing was replayed. -/
theorem undecodable_passed : ∃ report s',
    (tinyWorkspace.verify tinyHost tinyLog Diff.exact none).run.run undecodableScene = (.ok report, s') ∧
      report.passed = true ∧ report.exitCode = 0 ∧
      (∃ record, ((tinyLog.records true).run.run undecodableScene).1 = .ok [record]) ∧
      report.results.flatMap FunctionReport.replays = [] := by
  have hrun : (((tinyWorkspace.verify tinyHost tinyLog Diff.exact none).run.run undecodableScene).1.toOption.map
      fun r => (r.passed, r.exitCode, (r.results.flatMap FunctionReport.replays).length)) =
        some (true, 0, 0) := by
    decide +kernel
  have hrecords : (((tinyLog.records true).run.run undecodableScene).1.toOption.map List.length) = some 1 := by
    decide +kernel
  obtain ⟨report, s', hverify, hreport⟩ := exists_ended hrun
  obtain ⟨hpassed, hrest⟩ := Prod.mk.inj hreport
  obtain ⟨hcode, hcount⟩ := Prod.mk.inj hrest
  obtain ⟨records, u, hread, hlength⟩ := exists_ended hrecords
  obtain ⟨record, rfl⟩ := List.length_eq_one_iff.mp hlength
  exact ⟨report, s', hverify, hpassed, hcode, ⟨record, congrArg Prod.fst hread⟩,
    List.length_eq_zero_iff.mp hcount⟩

end Workspace

end CallSnapshot
