import SwitchThermal.Bench.World
import SwitchThermal.Controller

/-!
# Setting up a bench

* `TreeSetup` — files and directories; `TreeSetup.lay` makes them below a root.
* `BusSetup` — the registers.
* `Setup` — the bench that a session starts from, with its boards and its controllers. The periods
  have a controller of their own, which reads the devices from the attribute tree.
* `Setup.world` — the bench before the first step.
-/

set_option autoImplicit false

namespace SwitchThermal.Bench

open Text (Bytes)

/-- The content of a file of a tree to be set up. -/
inductive Content where
  | bytes (content : Bytes)
  | directory
  deriving DecidableEq, Repr

/-- Files and directories to be set up, in order: a healthy board, then the given files, then
removals. -/
structure TreeSetup where
  /-- The fan speed of a healthy board to start with. -/
  board : Option Nat := none
  files : List (String × Content) := []
  removed : List String := []
  deriving DecidableEq, Repr

inductive BusSetup where
  | memory (values : List (Nat × Nat)) (failing : List Nat)
  /-- A port file, unless it is missing. -/
  | port (size fill : Nat) (missing : Bool)
  /-- A helper program, unless it is missing. -/
  | helper (script : HelperScript) (missing : Bool)
  deriving DecidableEq, Repr

/-- The bench that a session starts from. -/
structure Setup where
  /-- The directory of everything on the bench. -/
  root : String
  /-- Are the devices read from the attribute tree, or from the records? -/
  attributes : Bool := false
  /-- The speed of the fans in the records. -/
  healthy : Nat := 70
  tree : TreeSetup := {}
  bus : BusSetup := .memory [] []
  params : Params := {}
  table : BandTable := .board
  /-- The slightest messages that are recorded; none if there is no threshold. -/
  threshold : Option LogLevel := some .info
  deriving DecidableEq, Repr

/-- The tree with a file or a directory made. -/
def putContent (t : FileTree) (path : TreePath) : Content → FileTree
  | .bytes content => t.put path (Runs.ofBytes content)
  | .directory => t.makeDirectory path

/-- The tree of a setup below a root. -/
def TreeSetup.lay (s : TreeSetup) (root : TreePath) : FileTree :=
  let t := machine.makeDirectory root
  let t := t.put (root.child ["control"]) (Runs.ofBytes (Text.encode "enable=1\n"))
  let t := match s.board with
    | some percentage => layBoard t root percentage
    | none => t
  let t := s.files.foldl (fun t f => putContent t (root.join f.1) f.2) t
  s.removed.foldl (fun t path => t.remove (root.join path)) t

namespace Setup

def rootPath (s : Setup) : TreePath := .ofText s.root

def portPath (s : Setup) : TreePath := s.rootPath.child ["port"]

def helperPath (s : Setup) : TreePath := s.rootPath.child ["iorw"]

def devices (s : Setup) : World.DeviceChoice :=
  if s.attributes then .attributes s.rootPath else .records

def registers (s : Setup) : World.RegisterChoice :=
  match s.bus with
  | .memory .. => .memory
  | .port .. => .port s.portPath
  | .helper .. => .helper s.helperPath.text

def board (s : Setup) : Board World :=
  World.board s.devices s.registers

/-- The board of the periods, whose devices are always read from the attribute tree. -/
def periodBoard (s : Setup) : Board World :=
  World.board (.attributes s.rootPath) s.registers

def controlFile (s : Setup) : String :=
  (s.rootPath.child ["control"]).text

def controller (s : Setup) : Controller :=
  ⟨s.table, s.params, s.controlFile⟩

/-- The controller of the periods, which goes by the bands of the board. -/
def periodController (s : Setup) : Controller :=
  ⟨.board, s.params, s.controlFile⟩

/-- The bench with its registers set up. -/
def layBus (s : Setup) (w : World) : World :=
  match s.bus with
  | .memory values failing =>
    let m := values.foldl (fun m e => m.set Watchdog.base e.1 e.2) MemoryRegisters.fresh
    { w with registers := failing.foldl MemoryRegisters.failAt m }
  | .port size fill missing =>
    if missing then w
    else { w with tree := w.tree.put s.portPath [(size, UInt8.ofNat fill)] }
  | .helper script missing =>
    let w := { w with script := script }
    if missing then w else { w with tree := w.tree.putProgram s.helperPath }

/-- The bench before the first step. -/
def world (s : Setup) : World :=
  s.layBus { tree := s.tree.lay s.rootPath, records := .healthy s.healthy }

end Setup

end SwitchThermal.Bench
