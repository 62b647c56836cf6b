import SwitchThermal.Bench.World
import SwitchThermal.Controller

/-!
# Trials

The pieces of a single pass on the bench, for trying the control loop on a concrete input.

* `World.patched` — a healthy bench with some readings changed.
* `trialBoard`, `trialController`, `running` — records and registers in memory, this board's table
  and parameters, and a state in which the algorithm runs; `hastyController` waits for less time.
* `trialPass` — the pass.
* `World.bare`, `attributeBoard` — a bench whose devices are attribute files, with a single sensor.
-/

set_option autoImplicit false

namespace SwitchThermal.Bench

/-- A bench with nothing amiss, its fans at a speed, but for some changes. -/
def World.patched (percentage : Nat) (edits : List Edit) : World :=
  { records := edits.foldl Records.edit (.healthy percentage) }

/-- A sensor set to a temperature. -/
def Edit.heat (x : Sensor) (mcelsius : Int) : Edit :=
  .sensor x (.ok { mcelsius := some mcelsius })

/-- The board of records, with its registers in memory. -/
def trialBoard : Board World :=
  World.board .records .memory

/-- The controller with this board's table and parameters. -/
def trialController : Controller :=
  ⟨.board, .standard, "thermal.conf"⟩

/-- The same controller with another cooldown. -/
def hastyController (cooldown : Nat) : Controller :=
  ⟨.board, { cooldown := cooldown }, "thermal.conf"⟩

/-- A state in which the algorithm runs. -/
def running (cooldown : Nat) : ControlState :=
  { cooldown := cooldown, enabled := true, initialised := true }

def trialPass (s : ControlState) (w : World) : Outcome World (Except Halt PassReport × ControlState) :=
  trialController.pass.runOn trialBoard s w

/-! ## An attribute tree -/

/-- A file with a number below the root of the attribute tree. -/
def numberFile (names : List String) (n : Int) : Place × Node :=
  ("bsp" :: names, .file (Runs.ofBytes (Text.encode (toString n))) false)

/-- An attribute tree with healthy fans and supplies and a single sensor. -/
def bareTree (x : Sensor) (mcelsius : Int) : FileTree where
  nodes :=
    (["bsp"], .directory) ::
      ["module", "fan", "power", "thermal"].map (fun d => (["bsp", d], .directory)) ++
    Fan.chassisFans.flatMap (fun f =>
      [numberFile ["module", AttributeTree.fanModule f ++ "_status"] 1,
       numberFile ["fan", AttributeTree.speedFile f] ((f.greatestRpm * 80 / 100 : Nat) : Int)]) ++
    PowerSupply.all.flatMap (fun p =>
      [numberFile ["module", AttributeTree.supplyModule p ++ "_status"] 1,
       numberFile ["power", AttributeTree.supplyModule p ++ "_pwr_status"] 1]) ++
    [numberFile ["thermal", x.fileName] mcelsius]

/-- The bench with that tree. -/
def World.bare (x : Sensor) (mcelsius : Int) : World :=
  { tree := bareTree x mcelsius }

/-- The board of the attribute tree, with its registers in memory. -/
def attributeBoard : Board World :=
  World.board (.attributes (.ofText "/bsp")) .memory

end SwitchThermal.Bench
