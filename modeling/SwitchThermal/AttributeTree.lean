import SwitchThermal.Attribute
import SwitchThermal.Board.Query
import SwitchThermal.Control.Params

/-!
# The board as a tree of attributes

Devices whose readings are attribute files below a root.

* `AttributeTree.fan`, `AttributeTree.sensor`, `AttributeTree.supply`, `AttributeTree.rail` — the
  readings.
* `AttributeTree.fanPercentage` — a speed in percent of the greatest speed, cut to an integer.
* `AttributeTree.setFan` — one attribute drives all chassis fans; only 60 % to 100 % are accepted.
* `AttributeTree.setLed` — writes the mode's name.
* `AttributeTree.devices` — the devices as a handler over the file tree.
-/

set_option autoImplicit false

namespace SwitchThermal.AttributeTree

/-! ## Presence -/

/-- Does the presence attribute of a module say that it is inserted? -/
def modulePresent (t : FileTree) (root : TreePath) (module : String) : Except Fault Bool :=
  (Attribute.readInt t (root.child ["module", module ++ "_status"])).map fun n => decide (n = 1)

/-- The module name of a supply. -/
def supplyModule (p : PowerSupply) : String :=
  "psu" ++ toString p.number

/-- The module name of what holds a fan: its tray or its supply. -/
def fanModule : Fan → String
  | .chassis slot => "fan" ++ toString (slot.val / 2 + 1)
  | .supply p => supplyModule p

/-! ## Readings -/

/-- The speed attribute of a fan. -/
def speedFile : Fan → String
  | .chassis slot => "fan" ++ toString (slot.val + 1) ++ "_speed_get"
  | .supply p => supplyModule p ++ "_fan1_speed_get"

/-- A positive speed in percent of the greatest one; a quotient past 32 bits is held at the bound.
-/
def fanPercentage (f : Fan) (rpm : Int) : Nat :=
  let q := (rpm * 100).toNat / f.greatestRpm
  if q < 4294967296 then q else 4294967295

/-- The reading of a fan that is present. A fan that does not turn has failed. -/
def fanReading (f : Fan) (rpm : Int) : FanReading :=
  if rpm ≤ 0 then ⟨f, true, true, rpm, 0⟩ else ⟨f, true, false, rpm, fanPercentage f rpm⟩

def fan (t : FileTree) (root : TreePath) (f : Fan) : Except Fault FanReading := do
  if ← modulePresent t root (fanModule f) then
    let rpm ← Attribute.readInt t (root.child ["fan", speedFile f])
    return fanReading f rpm
  else
    return .absent f

/-- The notice that goes with a fan reading: the speed, if it turns. -/
def fanNotices : Except Fault FanReading → List Notice
  | .ok r => if r.present && !r.failed then [.fanSampled r.fan r.rpm r.percentage] else []
  | .error _ => []

/-- Is what houses the sensor there? -/
def housingPresent (t : FileTree) (root : TreePath) (s : Sensor) : Except Fault Bool :=
  match s.supply? with
  | some p => modulePresent t root (supplyModule p)
  | none => .ok true

/-- The reading of a sensor, with the fixed limits. -/
def sensor (t : FileTree) (root : TreePath) (s : Sensor) : Except Fault SensorReading := do
  if ← housingPresent t root s then
    let mcelsius ← Attribute.readInt t (root.child ["thermal", s.fileName])
    return ⟨s, true, false, mcelsius, .ofSensor s⟩
  else
    return ⟨s, false, false, 0, .ofSensor s⟩

def supply (t : FileTree) (root : TreePath) (p : PowerSupply) : Except Fault SupplyReading := do
  if ← modulePresent t root (supplyModule p) then
    let power ← Attribute.readInt t (root.child ["power", supplyModule p ++ "_pwr_status"])
    return ⟨p, true, decide (power = 0), false⟩
  else
    return ⟨p, false, false, false⟩

def rail (t : FileTree) (root : TreePath) (r : Rail) : Except Fault RailReading := do
  let millivolts ← Attribute.readInt t (root.child ["voltage", r.stem ++ "_in"])
  let least ← Attribute.readInt t (root.child ["voltage", r.stem ++ "_min"])
  let greatest ← Attribute.readInt t (root.child ["voltage", r.stem ++ "_max"])
  return ⟨r, true, false, millivolts, ⟨least, greatest⟩⟩

/-- The attributes that a device access looks at or changes, by their names below the root. -/
def attributes : DeviceQuery → List (List String)
  | .fan f => [["module", fanModule f ++ "_status"], ["fan", speedFile f]]
  | .sensor s =>
    s.supply?.toList.map (fun p => ["module", supplyModule p ++ "_status"]) ++
      [["thermal", s.fileName]]
  | .supply p =>
    [["module", supplyModule p ++ "_status"], ["power", supplyModule p ++ "_pwr_status"]]
  | .rail r => ["_in", "_min", "_max"].map fun ending => ["voltage", r.stem ++ ending]
  | .setFan .. => [["fan", "fan_speed_set"]]
  | .setLed led _ => [["led", led.fileName]]

/-! ## Settings -/

/-- The value of the speed attribute at full scale. -/
def speedScale : Nat := 255

/-- The path of the speed attribute. -/
def speedPath (root : TreePath) : TreePath :=
  root.child ["fan", "fan_speed_set"]

/-- Is the speed one that a fan can be set to? -/
def checkSpeed (f : Fan) (percentage : Nat) : Except Fault Unit :=
  if !f.isChassis then .error (.unsupported (f.label ++ " has no speed control"))
  else if percentage = 0 then .error (.zeroPercentage percentage)
  else if 60 ≤ percentage ∧ percentage ≤ 100 then .ok ()
  else .error (.percentageOutOfRange percentage 60 100)

/-- The text of the speed attribute at a speed. -/
def speedText (percentage : Nat) : String :=
  toString (percentage * speedScale / 100)

/-- The path of the attribute of an LED. -/
def ledPath (root : TreePath) (led : Led) : TreePath :=
  root.child ["led", led.fileName]

def setFan (t : FileTree) (root : TreePath) (f : Fan) (percentage : Nat) :
    Except Fault FileTree := do
  checkSpeed f percentage
  Attribute.writeText t (speedPath root) (speedText percentage)

def setLed (t : FileTree) (root : TreePath) (led : Led) (mode : LedMode) : Except Fault FileTree :=
  Attribute.writeText t (ledPath root led) mode.name

/-! ## The handler -/

/-- The reply of a change: the tree stays as it was if the change is refused. -/
def changed (t : FileTree) (r : Except Fault FileTree) : Reply FileTree Unit :=
  match r with
  | .ok t => .quiet (.ok ()) t
  | .error e => .quiet (.error e) t

/-- The devices below a root. -/
def devices (root : TreePath) : Devices FileTree
  | .fan f, t => ⟨fan t root f, fanNotices (fan t root f), t⟩
  | .sensor s, t => .quiet (sensor t root s) t
  | .supply p, t => .quiet (supply t root p) t
  | .rail r, t => .quiet (rail t root r) t
  | .setFan f percentage, t => changed t (setFan t root f percentage)
  | .setLed led mode, t => changed t (setLed t root led mode)

end SwitchThermal.AttributeTree
