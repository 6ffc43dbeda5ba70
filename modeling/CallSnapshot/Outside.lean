import CallSnapshot.Number.Binary64
import CallSnapshot.Scene
import CallSnapshot.Value.Basic

/-!
What lies outside of the files: other processes, services that answer requests, and the time. Their
answers are given beforehand, so that all that is done with them is a function of these answers;
what they were asked is kept.
-/

namespace CallSnapshot

inductive ProcessState where
  | running
  | denied
  | broken
  | missing
  deriving DecidableEq, Repr, Inhabited

inductive HttpAnswer where
  | refused
  | interrupted
  | reply (status : Nat) (text : String)
  deriving DecidableEq, Repr, Inhabited

inductive Asking where
  | signal (pid : Int) (number : Nat)
  | request (method url : String) (timeout : Binary64)
  | spawn (command : List Value) (directory : Path) (port : String)
  deriving Repr, Inhabited

structure Outside where
  processes : List (Int × ProcessState)
  /-- The answers under a method and a path, in order; the last one repeats. -/
  answers : List (String × List HttpAnswer)
  clock : Binary64
  asked : List Asking
  /-- The number that a process gets when it is started. -/
  launched : Int
  deriving Repr, Inhabited

structure Setting where
  scene : Scene
  outside : Outside
  deriving Repr, Inhabited

abbrev Reaching := ExceptT Fault (StateM Setting)

instance : MonadLift Acting Reaching where
  monadLift c := fun s =>
    let (r, scene) := c.run.run s.scene
    (r, { s with scene })

namespace Outside

def quiet : Outside := ⟨[], [], Binary64.zero, [], 4242⟩

def stateOf (o : Outside) (pid : Int) : ProcessState :=
  ((o.processes.find? (·.1 == pid)).map Prod.snd).getD .missing

/-- The next answer under a name, and those that are left. -/
def takeAnswer (name : String) :
    List (String × List HttpAnswer) → HttpAnswer × List (String × List HttpAnswer)
  | [] => (.refused, [])
  | (n, answers) :: rest =>
    if n == name then
      match answers with
      | [] => (.refused, (n, []) :: rest)
      | [a] => (a, (n, [a]) :: rest)
      | a :: more => (a, (n, more) :: rest)
    else
      let (a, rest) := takeAnswer name rest
      (a, (n, answers) :: rest)

end Outside

namespace Reaching

def ask (a : Asking) : Reaching Unit :=
  modifyThe Setting fun s => { s with outside := { s.outside with asked := s.outside.asked ++ [a] } }

def clock : Reaching Binary64 := do return (← getThe Setting).outside.clock

def sleep (seconds : Binary64) : Reaching Unit :=
  modifyThe Setting fun s => { s with outside := { s.outside with clock := s.outside.clock.add seconds } }

def signal (pid : Int) (number : Nat) : Reaching ProcessState := do
  ask (.signal pid number)
  return (← getThe Setting).outside.stateOf pid

/-- A reply to a request; the fault tells why there is none. -/
def request (method host path : String) (timeout : Binary64) : Reaching (Nat × String) := do
  ask (.request method (host ++ path) timeout)
  let o := (← getThe Setting).outside
  let (a, answers) := Outside.takeAnswer (method ++ " " ++ path) o.answers
  modifyThe Setting fun s => { s with outside := { s.outside with answers } }
  match a with
  | .refused => throw ⟨.connection, "refused"⟩
  | .interrupted => throw ⟨.interrupt, ""⟩
  | .reply status text => return (status, text)

def note (n : Note) : Reaching Unit := (Acting.note n : Acting Unit)

/-- The outcome of something that may fail, without failing. -/
def outcome {α : Type} (c : Reaching α) : Reaching (Except Fault α) := fun s =>
  let (r, s) := c.run s
  (.ok r, s)

/-- A reply that tells of an error is a fault. -/
def statusFault? (status : Nat) (url : String) : Option Fault :=
  if 400 ≤ status && status < 500 then some ⟨.httpStatus, s!"{status} Client Error: Reason for url: {url}"⟩
  else if 500 ≤ status && status < 600 then
    some ⟨.httpStatus, s!"{status} Server Error: Reason for url: {url}"⟩
  else none

end Reaching

end CallSnapshot
