import SwitchThermal.AttributeTree
import SwitchThermal.Bench.Launch
import SwitchThermal.Bench.Records
import SwitchThermal.Register.Helper
import SwitchThermal.Register.Memory
import SwitchThermal.Register.PortFile

/-!
# The bench

Everything that stands in for a switch on the bench: an attribute tree, a board of records,
registers in memory or in a port file, and a helper program that answers from a script.

* `World` — the state of the bench.
* `HelperScript` — what the helper program answers to which access.
* `World.board` — the board that a choice of devices and registers makes of it.
* `layBoard` — a healthy attribute tree.
-/

set_option autoImplicit false

namespace SwitchThermal.Bench

open Text (Bytes)

/-! ## The helper program -/

/-- What the helper program answers. -/
structure HelperReply where
  stdout : Bytes := []
  stderr : Bytes := []
  status : ExitStatus := .exited 0
  deriving DecidableEq, Repr

/-- The answers of the helper program by access: the offset, and whether it is a read or a write. -/
structure HelperScript where
  replies : List (String × HelperReply) := []
  otherwise : HelperReply := {}
  deriving DecidableEq, Repr

/-- The key of an access given as arguments: the offset with `-r` or `-w`. -/
def scriptKey (arguments : List String) : String :=
  (arguments[4]?.getD "") ++ (arguments[5]?.getD "")

/-- The answer to an access. -/
def HelperScript.reply (s : HelperScript) (arguments : List String) : HelperReply :=
  (s.replies.lookup (scriptKey arguments)).getD s.otherwise

/-! ## The state -/

/-- The state of the bench. -/
structure World where
  tree : FileTree := .empty
  records : Records := .healthy 70
  registers : MemoryRegisters := .fresh
  script : HelperScript := {}
  /-- The directories that programs are looked for in, divided by colons. -/
  searchPath : Option String := none
  /-- The argument lists that the helper program was started with, in order. -/
  calls : List (List String) := []

namespace World

/-- Starts a program. The one that can be started is the helper, which answers from its script. -/
def start (program : String) (arguments : List String) (w : World) : HelperRun × World :=
  match Launch.program w.tree w.searchPath program with
  | .error e => (.notStarted e, w)
  | .ok () =>
    let r := w.script.reply arguments
    (.ended r.status r.stdout r.stderr, { w with calls := w.calls ++ [arguments] })

/-! ## The board -/

/-- Which devices are used. -/
inductive DeviceChoice where
  | records
  | attributes (root : TreePath)
  deriving DecidableEq, Repr

/-- Which registers are used. -/
inductive RegisterChoice where
  | memory
  | port (path : TreePath)
  | helper (program : String)
  deriving DecidableEq, Repr

def devices : DeviceChoice → Devices World
  | .records => Records.devices.focus World.records fun w r => { w with records := r }
  | .attributes root =>
    (AttributeTree.devices root).focus World.tree fun w t => { w with tree := t }

def registerBus : RegisterChoice → RegisterBus World
  | .memory => MemoryRegisters.bus.focus World.registers fun w m => { w with registers := m }
  | .port path => (PortFile.bus path).focus World.tree fun w t => { w with tree := t }
  | .helper program => HelperBus.bus program (World.start program)

def controlText (path : String) (w : World) : Except Fault String :=
  Attribute.readText w.tree (.ofText path)

/-- The board of the chosen devices and registers. -/
def board (d : DeviceChoice) (r : RegisterChoice) : Board World :=
  Board.assemble (devices d) (registerBus r) controlText

end World

/-! ## A healthy attribute tree -/

/-- The tree with a number written to a file below a root. -/
def putNumber (t : FileTree) (root : TreePath) (names : List String) (n : Int) : FileTree :=
  t.put (root.child names) (Runs.ofBytes (Text.encode (toString n)))

/-- The tree with the speed attributes of the chassis fans at a percentage of their greatest speed.
-/
def layFanSpeeds (t : FileTree) (root : TreePath) (percentage : Nat) : FileTree :=
  Fan.chassisFans.foldl
    (fun t f => putNumber t root ["fan", AttributeTree.speedFile f]
      ((f.greatestRpm * percentage / 100 : Nat) : Int)) t

/-- The directories of an attribute tree. -/
def boardDirectories : List String :=
  ["module", "fan", "thermal", "power", "voltage", "led", "cpld"]

/-- The tree with the attributes of a healthy board, its fans at a speed. -/
def layBoard (t : FileTree) (root : TreePath) (percentage : Nat) : FileTree :=
  let t := boardDirectories.foldl (fun t d => t.makeDirectory (root.child [d])) t
  let t := [1, 2, 3, 4].foldl
    (fun t (n : Nat) => putNumber t root ["module", "fan" ++ toString n ++ "_status"] 1) t
  let t := PowerSupply.all.foldl
    (fun t p =>
      let module := AttributeTree.supplyModule p
      let t := putNumber t root ["module", module ++ "_status"] 1
      let t := putNumber t root ["power", module ++ "_pwr_status"] 1
      putNumber t root ["fan", AttributeTree.speedFile (.supply p)]
        ((18000 * percentage / 100 : Nat) : Int)) t
  let t := layFanSpeeds t root percentage
  let t := Sensor.all.foldl (fun t s => putNumber t root ["thermal", s.fileName] 45000) t
  let t := Rail.all.foldl
    (fun t r =>
      let t := putNumber t root ["voltage", r.stem ++ "_in"] 1000
      let t := putNumber t root ["voltage", r.stem ++ "_min"] 900
      putNumber t root ["voltage", r.stem ++ "_max"] 1100) t
  let t := putNumber t root ["cpld", "cpld_brd_version"] 3
  let t := putNumber t root ["cpld", "cpld_mgmt_version"] 5
  putNumber t root ["cpld", "cpld_port_version"] 2

end SwitchThermal.Bench
