import CallSnapshot.Proofs.Collector.Clock
import CallSnapshot.Proofs.Collector.Telemetry

/-!
The watch over a collector, among requests of any kind. Which of them count as activity, and when the
watch ends the session: at its first look at which nothing has counted for long enough.
-/

namespace CallSnapshot

open Binary64

namespace Request

/-- The path under which the service finds a request, if it is sent by the right method. -/
def routed? (r : Request) : Option String :=
  ((Service.route? r.path).filter fun route => route.2 == r.method).map Prod.fst

/-- The path that a request is served under; none where it is refused, or only asks leave. -/
def served? (r : Request) : Option String :=
  match r.origin, r.method, r.asked with
  | some _, "OPTIONS", some _ => none
  | _, _, _ => r.routed?

end Request

namespace Recording

def turns (on : Bool) (served : Option String) : Bool :=
  match served with
  | some "/record" => true
  | some "/stop" => false
  | _ => on

/-- What keeps a session alive: that recording is begun, or a line comes while it is on. -/
def counts (on : Bool) (served : Option String) : Bool :=
  match served with
  | some "/record" => true
  | some "/telemetry" => on
  | _ => false

def after (now : Binary64) (served : Option String) (r : Recording) : Recording :=
  ⟨turns r.isOn served, if counts r.isOn served then now else r.lastActivity, r.started⟩

lemma after_telemetry (now : Binary64) (r : Recording) :
    r.after now (some "/telemetry") = if r.isOn then r.touch now else r := by
  obtain ⟨isOn, lastActivity, started⟩ := r
  cases isOn <;> rfl

end Recording

namespace Service

variable {now : Binary64} {s s' : Service} {scene left : Scene} {r : Request} {resp : Response}

lemma route?_mem {path : String} {route : String × String} (h : route? path = some route) : route ∈ routes := by
  unfold route? at h
  rcases hfound : routes.find? (·.1 == path) with _ | found
  · rw [hfound] at h
    dsimp only [Option.orElse] at h
    split at h
    · cases h
    · exact List.mem_of_find?_eq_some h
  · rw [hfound] at h
    cases h
    exact List.mem_of_find?_eq_some hfound

/-- A line counts as activity before it is stored, so that it also counts where it cannot be. -/
lemma take_after {body : List UInt8} (h : (take now body).run (s, scene) = (resp, s', left)) :
    s' = { s with recording := s.recording.after now (some "/telemetry") } := by
  cases hon : s.recording.isOn with
  | false =>
    rw [take_off now s scene hon] at h
    cases h
    rw [Recording.after_telemetry, hon]
    rfl
  | true =>
    rw [take_on now s scene hon] at h
    rcases hstore : (store s.log body).run.run scene with ⟨f | ⟨⟩, found⟩ <;>
    · rw [hstore] at h
      cases h
      rw [Recording.after_telemetry, hon]
      rfl

lemma answer_after (h : (answer now r).run (s, scene) = (resp, s', left)) :
    s' = { s with recording := s.recording.after now r.routed? } := by
  unfold answer at h
  rw [Request.routed?]
  rcases hroute : route? r.path with _ | ⟨path, method⟩
  · rw [hroute] at h
    cases h
    rfl
  · rw [hroute] at h
    dsimp only at h
    by_cases hmethod : method = r.method
    · have hne : (method != r.method) = false := by simp [hmethod]
      have hserved : (Option.filter (fun route => route.2 == r.method) (some (path, method))).map Prod.fst =
          some path := by simp [Option.filter, hmethod]
      rw [hne] at h
      rw [hserved]
      have hmem := route?_mem hroute
      simp only [routes, List.mem_cons, Prod.mk.injEq, List.not_mem_nil, or_false] at hmem
      rcases hmem with ⟨rfl, -⟩ | ⟨rfl, -⟩ | ⟨rfl, -⟩ | ⟨rfl, -⟩
      · cases h
        rfl
      · cases h
        rfl
      · cases h
        rfl
      · exact take_after h
    · have hne : (method != r.method) = true := by simp [hmethod]
      have hserved : (Option.filter (fun route => route.2 == r.method) (some (path, method))).map Prod.fst =
          none := by simp [Option.filter, hmethod]
      rw [hne] at h
      rw [hserved]
      cases h
      rfl

/-- Any request, from a page or not: nothing but the session changes, and that by the path alone. -/
lemma handle_after (h : (handle now r).run (s, scene) = (resp, s', left)) :
    s' = { s with recording := s.recording.after now r.served? } := by
  unfold handle at h
  unfold Request.served?
  rcases horigin : r.origin with _ | origin
  · rw [horigin] at h
    exact answer_after h
  · rw [horigin] at h
    simp only [StateT.run_bind, StateT.run_get, pure_bind] at h
    split at h
    · rename_i hmethod hasked
      rw [hmethod, hasked]
      cases h
      rfl
    · rename_i hother
      rcases hanswer : (answer now r).run (s, scene) with ⟨told, s₁, left₁⟩
      rw [StateT.run_bind, hanswer] at h
      cases h
      split
      · rename_i hmethod hasked
        exact absurd hasked (hother _ hmethod)
      · exact answer_after hanswer

end Service

/-- What happens at a collector: a request comes, while other files may be found in an outage, or the watch
looks at the session. -/
inductive Happening where
  | request (r : Request) (outage : Option Files)
  | look

structure Moment where
  time : ℕ
  happening : Happening

/-- At least so many minutes lie between two times. -/
def Due (fine : ℕ) (timeout : ℤ) (time now : ℕ) : Prop := 60 * timeout * 2 ^ fine ≤ (now : ℤ) - time

structure Collecting where
  service : Service
  scene : Scene
  watch : Watch
  watched : Watched

namespace Moment

def served? (m : Moment) : Option String :=
  match m.happening with
  | .request r _ => r.served?
  | .look => none

def latest (on : Bool) (time : ℕ) : List Moment → ℕ
  | [] => time
  | m :: ms =>
    latest (Recording.turns on m.served?) (if Recording.counts on m.served? then max time m.time else time) ms

end Moment

namespace Collecting

def begin (log : Log) (scene : Scene) (watch : Watch) (cors : String) (now : Binary64) : Collecting :=
  ⟨⟨log, .begin now, watch.timeout, cors⟩, scene, watch, Watch.start now⟩

/-- A collector after a moment, and whether its watch ends the session then. -/
def pass (fine : ℕ) (m : Moment) (c : Collecting) : Collecting × Bool :=
  match m.happening with
  | .request r outage =>
    let found := { c.scene with files := outage.getD c.scene.files }
    let (_, service, left) := (Service.handle (stamp fine m.time) r).run (c.service, found)
    let scene := { left with files := if outage.isSome then c.scene.files else left.files }
    ({ c with service, scene }, false)
  | .look =>
    if c.watched.ended then (c, false)
    else
      let watched := c.watch.look (stamp fine m.time) { c.watched with recording := c.service.recording }
      ({ c with watched }, watched.ended)

def ends (fine : ℕ) : List Moment → Collecting → List Bool
  | [], _ => []
  | m :: ms, c =>
    let (c, ended) := c.pass fine m
    ended :: ends fine ms c

/-- A collector that records or not, was active at a time and is watched or not any more. -/
structure Stands (fine : ℕ) (timeout : ℤ) (on : Bool) (time : ℕ) (ended : Bool) (c : Collecting) : Prop where
  isOn : c.service.recording.isOn = on
  active : c.service.recording.lastActivity = stamp fine time
  timeout : c.watch.timeout = timeout
  ended : c.watched.ended = ended

variable {fine time i : ℕ} {timeout : ℤ} {on ended : Bool} {m : Moment} {ms : List Moment} {c : Collecting}

lemma pass_request (fine : ℕ) (c : Collecting) {r : Request} {outage : Option Files} (hm : m.happening = .request r outage) :
    ∃ scene, c.pass fine m = ({ c with
      service := { c.service with recording := c.service.recording.after (stamp fine m.time) r.served? }
      scene := scene }, false) := by
  rcases hrun : (Service.handle (stamp fine m.time) r).run
    (c.service, { c.scene with files := outage.getD c.scene.files }) with ⟨resp, s', left⟩
  have hs := Service.handle_after hrun
  unfold pass
  rw [hm]
  dsimp only
  rw [hrun, hs]
  exact ⟨_, rfl⟩

lemma pass_look (hm : m.happening = .look) : c.pass fine m =
    if c.watched.ended then (c, false)
    else
      let watched := c.watch.look (stamp fine m.time) { c.watched with recording := c.service.recording }
      ({ c with watched }, watched.ended) := by
  unfold pass
  rw [hm]

lemma pass_stands (h : c.Stands fine timeout on time ended) (hle : time ≤ m.time) (hm : m.time ≤ 2 ^ 53)
    (hfine : fine ≤ 1000) :
    ((c.pass fine m).2 = true ↔ m.happening = .look ∧ ended = false ∧ Due fine timeout time m.time) ∧
      (c.pass fine m).1.Stands fine timeout (Recording.turns on m.served?)
        (if Recording.counts on m.served? then max time m.time else time) (ended || (c.pass fine m).2) := by
  obtain ⟨rfl, hactive, rfl, rfl⟩ := h
  cases hhappening : m.happening with
  | request r outage =>
    obtain ⟨scene, hpass⟩ := pass_request fine c hhappening
    have hserved : m.served? = r.served? := by rw [Moment.served?, hhappening]
    rw [hpass, hserved]
    refine ⟨by simp, rfl, ?_, rfl, by simp⟩
    dsimp only [Recording.after]
    split
    · rw [max_eq_right hle]
    · exact hactive
  | look =>
    have hserved : m.served? = none := by rw [Moment.served?, hhappening]
    rw [pass_look hhappening, hserved]
    cases hended : c.watched.ended with
    | true => exact ⟨by simp, rfl, hactive, rfl, hended⟩
    | false =>
      have hidle := Recording.isIdle_iff hactive (hle.trans hm) hm hfine c.watch.timeout
      refine ⟨?_, rfl, hactive, rfl, rfl⟩
      simpa [Watch.look, Due] using hidle

lemma length_ends (fine : ℕ) (ms : List Moment) (c : Collecting) : (ends fine ms c).length = ms.length := by
  induction ms generalizing c with
  | nil => rfl
  | cons m ms ih => rw [ends, List.length_cons, ih, List.length_cons]

/-- The moments one after another: the session is ended at the first look after so many minutes. -/
lemma ends_iff (h : c.Stands fine timeout on time ended) (hordered : (time :: ms.map Moment.time).Pairwise (· ≤ ·))
    (hbound : ∀ m ∈ ms, m.time ≤ 2 ^ 53) (hfine : fine ≤ 1000) (hi : ms[i]? = some m) :
    (ends fine ms c)[i]? = some true ↔ m.happening = .look ∧ ended = false ∧ true ∉ (ends fine ms c).take i ∧
      Due fine timeout (Moment.latest on time (ms.take i)) m.time := by
  induction ms generalizing c on time ended i with
  | nil => cases hi
  | cons m' ms ih =>
    obtain ⟨hfirst, hrest⟩ := List.pairwise_cons.mp hordered
    obtain ⟨hnext, hlater⟩ := List.pairwise_cons.mp hrest
    have hle : time ≤ m'.time := hfirst _ (by simp)
    obtain ⟨hcalled, hstands⟩ := pass_stands h hle (hbound m' List.mem_cons_self) hfine
    rw [ends]
    cases i with
    | zero =>
      obtain rfl := Option.some.inj hi
      simpa [Moment.latest] using hcalled
    | succ i =>
      have hactive : ∀ t ∈ ms.map Moment.time,
          (if Recording.counts on m'.served? then max time m'.time else time) ≤ t := by
        intro t ht
        split
        · exact max_le (hle.trans (hnext t ht)) (hnext t ht)
        · exact hle.trans (hnext t ht)
      have hrun := ih hstands (List.pairwise_cons.mpr ⟨hactive, hlater⟩)
        (fun m hm => hbound m (List.mem_cons_of_mem _ hm)) hi
      rw [List.getElem?_cons_succ, hrun, List.take_succ_cons, List.take_succ_cons, Moment.latest]
      cases (c.pass fine m').2 <;> simp

lemma count_le_one {bs : List Bool} (h : ∀ i, bs[i]? = some true → true ∉ bs.take i) : bs.count true ≤ 1 := by
  induction bs with
  | nil => exact Nat.zero_le _
  | cons b bs ih =>
    cases b with
    | false =>
      rw [List.count_cons_of_ne (by decide)]
      refine ih fun i hi hmem => h (i + 1) hi ?_
      rw [List.take_succ_cons]
      exact List.mem_cons_of_mem _ hmem
    | true =>
      have hnone : true ∉ bs := by
        intro hmem
        obtain ⟨i, hi⟩ := List.mem_iff_getElem?.mp hmem
        exact h (i + 1) hi (by rw [List.take_succ_cons]; exact List.mem_cons_self)
      rw [List.count_cons_self, List.count_eq_zero.mpr hnone]

lemma stands_begin (log : Log) (scene : Scene) (watch : Watch) (cors : String) (fine begun : ℕ) :
    (begin log scene watch cors (stamp fine begun)).Stands fine watch.timeout false begun false :=
  ⟨rfl, rfl, rfl, rfl⟩

/-- Requests of any kind, some of them in an outage, and looks of the watch, at times that an exact clock
tells. The watch ends the session at most once: at the first look at which as many minutes have passed as
the collector waits since it began, since recording was begun last and since the last line came while
recording was on, stored or not. So other requests keep no session alive. -/
theorem ends_once (log : Log) (scene : Scene) (watch : Watch) (cors : String) {begun : ℕ}
    (hordered : (begun :: ms.map Moment.time).Pairwise (· ≤ ·)) (hbound : ∀ m ∈ ms, m.time ≤ 2 ^ 53)
    (hfine : fine ≤ 1000) :
    let ended := ends fine ms (begin log scene watch cors (stamp fine begun))
    ended.length = ms.length ∧ ended.count true ≤ 1 ∧
      ∀ i m, ms[i]? = some m → (ended[i]? = some true ↔
        m.happening = .look ∧ true ∉ ended.take i ∧
          Due fine watch.timeout (Moment.latest false begun (ms.take i)) m.time) := by
  intro ended
  have hlength : ended.length = ms.length := length_ends fine ms _
  have hends : ∀ i m, ms[i]? = some m → (ended[i]? = some true ↔
      m.happening = .look ∧ true ∉ ended.take i ∧
        Due fine watch.timeout (Moment.latest false begun (ms.take i)) m.time) := fun i m hi => by
    simpa using ends_iff (stands_begin log scene watch cors fine begun) hordered hbound hfine hi
  refine ⟨hlength, count_le_one fun i hi => ?_, hends⟩
  obtain ⟨hlt, -⟩ := List.getElem?_eq_some_iff.mp hi
  exact ((hends i ms[i] (List.getElem?_eq_getElem (hlength ▸ hlt))).mp hi).2.1

/-- Recording is begun, and a line comes that cannot be stored; later ones are ignored. -/
def idleMoments : List Moment := [
  ⟨40, .request ⟨"POST", "/record", [], some "http://a.example", none⟩ none⟩,
  ⟨120, .request ⟨"POST", "/telemetry", [49], none, none⟩ (some default)⟩,
  ⟨239, .look⟩,
  ⟨239, .request ⟨"POST", "/stop", [], none, none⟩ none⟩,
  ⟨239, .request ⟨"POST", "/telemetry", [49], none, none⟩ none⟩,
  ⟨240, .look⟩,
  ⟨300, .look⟩]

/-- Two steps are a second: the watch waits for a minute from the line that could not be stored. -/
theorem ends_once_idle : (30 :: idleMoments.map Moment.time).Pairwise (· ≤ ·) ∧
    (∀ m ∈ idleMoments, m.time ≤ 2 ^ 53) ∧
    ends 1 idleMoments (begin pageLog pageScene ⟨1, .ofNat 30⟩ "*" (stamp 1 30)) =
      [false, false, false, false, false, true, false] := by
  have hordered : (30 :: idleMoments.map Moment.time).Pairwise (· ≤ ·) := by decide
  have hbound : ∀ m ∈ idleMoments, m.time ≤ 2 ^ 53 := by simp [idleMoments]
  refine ⟨hordered, hbound, ?_⟩
  obtain ⟨hlength, hcount, hends⟩ :=
    ends_once pageLog pageScene ⟨1, .ofNat 30⟩ "*" hordered hbound (by decide : 1 ≤ 1000)
  have hearly : Moment.latest false 30 (idleMoments.take 2) = 120 := by decide
  have hlate : Moment.latest false 30 (idleMoments.take 5) = 120 := by decide
  generalize ends 1 idleMoments (begin pageLog pageScene ⟨1, .ofNat 30⟩ "*" (stamp 1 30)) = ended at *
  have h0 := hends 0 _ rfl
  have h1 := hends 1 _ rfl
  have h2 := hends 2 _ rfl
  have h3 := hends 3 _ rfl
  have h4 := hends 4 _ rfl
  have h5 := hends 5 _ rfl
  rw [hearly] at h2
  rw [hlate] at h5
  match ended, hlength with
  | [a, b, c, d, e, f, g], _ =>
    simp [Due] at h0 h1 h2 h3 h4 h5
    obtain rfl : f = true := h5.mpr ⟨h0, h1, h2, h3, h4⟩
    have hg : g = false := by simpa [h0, h1, h2, h3, h4, List.count_cons] using hcount
    rw [h0, h1, h2, h3, h4, hg]

end Collecting

end CallSnapshot
