import Mathlib.Algebra.BigOperators.Group.List.Basic
import Mathlib.Data.List.SplitBy
import CallSnapshot.Capture.Delivery
import CallSnapshot.Proofs.Noting

/-!
Delivery over a whole run: callers send lines and the worker posts them, in turns of any order, and the
posts end in any way. At any moment the outbox is what the lines that were sent and the number of posts
make of it (`Course.after`); all that is said of a run follows from that.
-/

namespace CallSnapshot

def Sent.isFailure : Sent → Bool
  | .replied status => 400 ≤ status && status < 600
  | .failed _ => true

def Posting.complaints (p : Posting) : List Note := p.notes.filter (·.cause.isSome)

def Turn.line? : Turn → Option String
  | .send line => some line
  | .post => none

namespace Delivery

variable (port : Option ℤ) (env : Environment)

def unread? : Option String :=
  (env.get? portVariable).filter fun s => !(Numeral.readInt 10 s).toBool

def portNotes : List Note :=
  if port.getD 0 = 0 then
    (unread? env).toList.map fun s => .warning s!"Ignoring invalid {portVariable}={Text.quoted s}"
  else []

def portOf : ℤ := ((env.get? portVariable).bind fun s => (Numeral.readInt 10 s).toOption).getD defaultPort

def address : String := s!"http://localhost:{if port.getD 0 = 0 then portOf env else port.getD 0}/telemetry"

lemma start_collectorPort : (collectorPort env).start =
    (.ok (portOf env),
      (unread? env).toList.map fun s => .warning s!"Ignoring invalid {portVariable}={Text.quoted s}") := by
  rw [collectorPort, unread?, portOf]
  cases env.get? portVariable with
  | none => rfl
  | some s =>
    rw [Option.filter_some, Option.bind_some]
    cases hread : Numeral.readInt 10 s <;> simp only [hread] <;> rfl

/-- The port of a delivery, which is the environment's where none is given, or none but zero. -/
def reading (d : Delivery) : Noting ℤ := if d.port.getD 0 = 0 then collectorPort env else pure (d.port.getD 0)

lemma url_eq (d : Delivery) : d.url env = do return s!"http://localhost:{← d.reading env}/telemetry" := by
  rw [url, reading]
  split
  next h => rw [h, Option.getD_none, if_pos rfl]
  next h => rw [h, Option.getD_some, if_pos rfl]
  next p hp h => rw [h, Option.getD_some, if_neg hp]

lemma start_url (d : Delivery) : (d.url env).start = (.ok (address d.port env), portNotes d.port env) := by
  have hport : (d.reading env).run.run [] =
      (.ok (if d.port.getD 0 = 0 then portOf env else d.port.getD 0), portNotes d.port env) := by
    by_cases hp : d.port.getD 0 = 0
    · rw [reading, if_pos hp, if_pos hp, portNotes, if_pos hp]
      exact start_collectorPort env
    · rw [reading, if_neg hp, if_neg hp, portNotes, if_neg hp]
      rfl
  rw [url_eq, Noting.start, Noting.run_bind, hport]
  rfl

lemma isSome_fault? (url : String) (s : Sent) : (fault? url s).isSome = s.isFailure := by
  cases s with
  | failed f => rfl
  | replied status =>
    simp only [fault?, Reaching.statusFault?, Sent.isFailure]
    grind

lemma start_send (d : Delivery) (s : Sent) : (d.send env s).start =
    (.ok ((d.settle (fault? (address d.port env) s)).1, address d.port env),
      portNotes d.port env ++ (d.settle (fault? (address d.port env) s)).2.toList) := by
  have hurl := d.start_url env
  rw [Noting.start] at hurl
  rw [send, Noting.start, Noting.run_bind, hurl]
  dsimp only
  obtain ⟨d', n⟩ := d.settle (fault? (address d.port env) s)
  cases n with
  | none => exact congrArg (Prod.mk _) (List.append_nil _).symm
  | some n => rfl

end Delivery

open Delivery (fault? address portNotes)

namespace Outbox

end Outbox

namespace Course

variable (c : Course) (port : Option ℤ) (timeout : Binary64) (lines : List String) (n k : ℕ)

def failedBefore : ℕ → Bool
  | 0 => false
  | k + 1 => (c.sent k).isFailure

def complaints : List Note :=
  ((fault? (address port (c.env k)) (c.sent k)).map fun f =>
    ⟨if c.failedBefore k then .debug else .warning, "Telemetry failed: ", some f⟩).toList

def posting (line : String) : Posting where
  url := address port (c.env k)
  body := Text.encodeUtf8 line
  contentType := "application/json"
  timeout := timeout
  notes := portNotes port (c.env k) ++ c.complaints port k

/-- The outbox once so many lines of those that were sent are posted. -/
def after : Outbox where
  delivery := ⟨port, c.failedBefore n⟩
  timeout := timeout
  waiting := lines.drop n
  posted := (lines.take n).mapIdx (c.posting port timeout)

variable {lines n}

lemma length_posted (hn : n ≤ lines.length) : (c.after port timeout lines n).posted.length = n := by
  rw [after, List.length_mapIdx, List.length_take, Nat.min_eq_left hn]

variable (n) in
lemma settle_eq : (⟨port, c.failedBefore n⟩ : Delivery).settle (fault? (address port (c.env n)) (c.sent n)) =
    (⟨port, c.failedBefore (n + 1)⟩, (c.complaints port n).head?) := by
  have hfails := Delivery.isSome_fault? (address port (c.env n)) (c.sent n)
  rw [failedBefore, ← hfails, complaints]
  cases fault? (address port (c.env n)) (c.sent n) <;> rfl

lemma head?_complaints : (c.complaints port n).head?.toList = c.complaints port n := by
  rw [complaints]
  cases fault? (address port (c.env n)) (c.sent n) <;> rfl

end Course

/-! Stretches of posts that end alike. -/

namespace Sent

/-- The endings of posts, cut where a failure follows a success or a success a failure. -/
def stretches (sent : List Sent) : List (List Sent) := sent.splitBy fun s t => s.isFailure == t.isFailure

def outages (sent : List Sent) : List (List Sent) := (stretches sent).filter fun run => run.any isFailure

/-- The levels of what is noted of each ending in a stretch: its first failure is a warning. -/
def levels : List Sent → List (List Level)
  | [] => []
  | s :: rest => if s.isFailure then [.warning] :: rest.map fun _ => [.debug] else (s :: rest).map fun _ => []

def Alike (run : List Sent) : Prop := ∀ s ∈ run, ∀ t ∈ run, s.isFailure = t.isFailure

end Sent

/-- The outbox after some posts accounts for the lines that were sent and for the endings of the posts. -/
structure Outbox.Accounts (c : Course) (port : Option ℤ) (timeout : Binary64) (lines : List String)
    (o : Outbox) : Prop where
  /-- Each line is posted once and in order, or waits. -/
  bodies : o.posted.map (·.body) ++ o.waiting.map Text.encodeUtf8 = lines.map Text.encodeUtf8
  request : ∀ k p, o.posted[k]? = some p →
    p.url = address port (c.env k) ∧ p.contentType = "application/json" ∧ p.timeout = timeout
  /-- What is noted is what there is to note of the port, and of the failure if the post failed. -/
  notes : ∀ k p, o.posted[k]? = some p → p.notes = portNotes port (c.env k) ++ p.complaints ∧
    ∀ n ∈ p.complaints, n.text = "Telemetry failed: " ∧ n.cause = fault? p.url (c.sent k)
  /-- The first failure of an outage is a warning, each other one is noted once and for debugging alone. -/
  levels : o.posted.map (fun p => p.complaints.map (·.level)) =
    (Sent.stretches ((List.range o.posted.length).map c.sent)).flatMap Sent.levels
  /-- There are as many warnings as outages, and as posts that found no port to read. -/
  warnings : (o.posted.flatMap (·.notes)).countP (·.level = .warning) =
    (Sent.outages ((List.range o.posted.length).map c.sent)).length +
      ((List.range o.posted.length).flatMap fun k => portNotes port (c.env k)).length

namespace Course

variable {c : Course} {port : Option ℤ} {timeout : Binary64} {lines : List String} {n k : ℕ}

lemma posting_of_getElem? {p : Posting} (h : (c.after port timeout lines n).posted[k]? = some p) :
    ∃ line, p = c.posting port timeout k line := by
  rw [after, List.getElem?_mapIdx, Option.map_eq_some_iff] at h
  obtain ⟨line, -, rfl⟩ := h
  exact ⟨line, rfl⟩

lemma map_posted {α : Type} (hn : n ≤ lines.length) {g : Posting → α} {h : ℕ → α}
    (hg : ∀ k line, g (c.posting port timeout k line) = h k) :
    (c.after port timeout lines n).posted.map g = (List.range n).map h := by
  refine List.ext_getElem (by simp [length_posted c port timeout hn]) fun k hk _ => ?_
  obtain ⟨line, hp⟩ := posting_of_getElem? (List.getElem?_eq_getElem (by simpa using hk))
  rw [List.getElem_map, List.getElem_map, List.getElem_range, hp, hg]

variable (port) in
lemma sendAll_range' (henv : ∀ k, c.env k = c.env 0) (n m : ℕ) :
    Delivery.sendAll ⟨port, c.failedBefore m⟩ (c.env 0) ((List.range' m n).map c.sent) =
      (⟨port, c.failedBefore (m + n)⟩, (List.range' m n).map fun k =>
        (address port (c.env k), portNotes port (c.env k) ++ c.complaints port k)) := by
  induction n generalizing m with
  | zero => rfl
  | succ n ih =>
    have hsend := Delivery.start_send (c.env m) ⟨port, c.failedBefore m⟩ (c.sent m)
    rw [settle_eq, head?_complaints, henv m] at hsend
    rw [List.range'_succ, List.map_cons, Delivery.sendAll, hsend]
    simp only [ih, List.map_cons, henv m, Nat.add_assoc, Nat.add_comm 1 n]

/-- In one environment, the posts of an outbox are those of a delivery that is given their endings at once. -/
theorem posted_eq_sendAll (henv : ∀ k, c.env k = c.env 0) (hn : n ≤ lines.length) :
    (c.after port timeout lines n).posted.map (fun p => (p.url, p.notes)) =
      (Delivery.sendAll ⟨port, false⟩ (c.env 0) ((List.range n).map c.sent)).2 := by
  have hall := sendAll_range' port henv n 0
  rw [← List.range_eq_range'] at hall
  exact (map_posted hn fun k line => rfl).trans (congrArg Prod.snd hall).symm

end Course

end CallSnapshot
