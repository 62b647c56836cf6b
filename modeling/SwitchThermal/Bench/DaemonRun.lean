import SwitchThermal.Bench.Setup
import SwitchThermal.Daemon

/-!
# The daemon on the bench

Runs the daemon with a command line on a bench, for a number of periods.

* `DaemonSetup` — command line, helper program and files.
* `DaemonSetup.run` — exit status, output, the fan speed that was set, and the starts of the helper
  program.
-/

set_option autoImplicit false

namespace SwitchThermal.Bench

/-- A daemon on the bench. -/
structure DaemonSetup where
  /-- The directory of everything on the bench. -/
  root : String
  arguments : List String
  tree : TreeSetup := {}
  /-- The value of the variable that sets the helper program. -/
  helperVariable : Option String := none
  /-- The directories that programs are looked for in, divided by colons. -/
  searchPath : Option String := none
  /-- The answers of the helper program, if there is one on the bench. -/
  script : Option HelperScript := none
  /-- The periods until the daemon is stopped. -/
  periods : Nat := 1
  deriving DecidableEq, Repr

/-- What a daemon on the bench leaves behind. -/
structure DaemonRecord where
  exit : Nat
  output : List String
  /-- The text of the fan speed attribute, if it holds text. -/
  speed : Option String
  calls : List (List String)
  deriving DecidableEq, Repr

namespace DaemonSetup

def rootPath (s : DaemonSetup) : TreePath := .ofText s.root

/-- The bench before the run. -/
def world (s : DaemonSetup) : World :=
  let w : World := { tree := s.tree.lay s.rootPath, searchPath := s.searchPath }
  match s.script with
  | none => w
  | some script =>
    { w with script, tree := w.tree.putProgram (s.rootPath.child ["iorw"]) }

/-- The registers that the options ask for. -/
def registers (s : DaemonSetup) : RegisterAccess → World.RegisterChoice
  | .port => .port (.ofText "/dev/port")
  | .helper => .helper (HelperBus.program s.helperVariable)
  | .memory => .memory

/-- The board that the options ask for. -/
def board (s : DaemonSetup) (o : Options) : Board World :=
  World.board (.attributes (.ofText o.root)) (s.registers o.registers)

/-- The record of a run that ended. -/
def record (s : DaemonSetup) (exit : Nat) (output : List String) (w : World) : DaemonRecord :=
  ⟨exit, output, (w.tree.readText (AttributeTree.speedPath s.rootPath)).toOption, w.calls⟩

def run (s : DaemonSetup) : DaemonRecord :=
  match CommandLine.parse s.arguments with
  | .error e => s.record (Daemon.refusal e).1 (Daemon.refusal e).2 s.world
  | .ok o =>
    let ending :=
      if o.once then Daemon.runOnce o (s.board o) s.world
      else Daemon.runPeriods o (s.board o) s.periods {} s.world
    s.record ending.exit ending.output ending.world

end DaemonSetup

end SwitchThermal.Bench
