import CallSnapshot.Proofs.CommandLine.Running
import CallSnapshot.Proofs.Session.Stopping

/-!
Stopping. Recording is stopped, then the collector, and at last the files are restored: what goes
wrong with the first is told, but a process that cannot be asked to stop for reasons of its own keeps
the files from being restored.
-/

namespace CallSnapshot

open Files Reaching Workspace

namespace CommandLine

variable {w : Workspace} {temp dir : Place} {n : String} {start fs : Files} {c : Context} {s t : Setting}

section Stop

variable (h : Site c.workspace temp start) (hh : Held c.workspace temp start s.scene.files)
  (hn : s.scene.files.get? (c.workspace.numberPlace temp) = none ∨
    ∃ bs, s.scene.files.get? (c.workspace.numberPlace temp) = some (.file bs))

include h hh hn

end Stop

variable {host : Host} {env : Environment} {time : String} {words : List String} {line : CommandLine}
  {given : Option String} {config : Config} {port : ℤ} {log : Log}

def smallHost : Host := ⟨[], {}, fun _ _ => none⟩

def smallStop : CommandLine := ⟨none, false, false, some (.stop none)⟩

def smallLog : Log := ⟨⟨.single, ["p", ".snaps.jsonl"]⟩⟩

end CommandLine

end CallSnapshot
