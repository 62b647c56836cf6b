import SwitchThermal.Report
import SwitchThermal.Watchdog

/-!
# The front panel

Shows the health of the board on the LEDs, from readings of its own.

* `Panel.fanWell` — a fan is well if it is there, not failed, and not slower than 90 % of its least
  speed.
* `Panel.supplyWell` — a supply is well if it is there, powered and not failed.
* `Panel.sensorWell` — a sensor is well if it is there, not failed and not above its shutdown limit.
* `Panel.allHealthy` — reads the members of a group until one is not well; an unreadable one is not.
* `Panel.light` — asks a mode of an LED; one that refuses is passed over.
* `Panel.update` — trays, supplies, system, in this order; an unreadable status ends the update.
-/

set_option autoImplicit false

namespace SwitchThermal.Panel

/-- Is the fan well enough for a green LED? -/
def fanWell (f : Fan) (r : FanReading) : Bool :=
  r.present && !r.failed && decide ((f.leastRpm : Int) * 90 ≤ r.rpm * 100)

/-- Is the supply well enough for a green LED? -/
def supplyWell (r : SupplyReading) : Bool :=
  r.operational && !r.failed

/-- Is the sensor well enough for a green LED? -/
def sensorWell (r : SensorReading) : Bool :=
  r.present && !r.failed && !r.limits.exceedsShutdown r.mcelsius

/-- Reads a fan for its LED; an unreadable one is not healthy. -/
def fanHealthy (f : Fan) : Program Bool := do
  match ← Program.device (.fan f) with
  | .ok r => return fanWell f r
  | .error e =>
    Program.tell (.fanUnreadableForLed f e)
    return false

/-- Reads a supply for its LED; an unreadable one is not healthy. -/
def supplyHealthy (p : PowerSupply) : Program Bool := do
  match ← Program.device (.supply p) with
  | .ok r => return supplyWell r
  | .error e =>
    Program.tell (.supplyUnreadableForLed p e)
    return false

/-- Reads a sensor for the system LED; an unreadable one is not healthy. -/
def sensorHealthy (s : Sensor) : Program Bool := do
  match ← Program.device (.sensor s) with
  | .ok r => return sensorWell r
  | .error e =>
    Program.tell (.sensorUnreadableForLed s e)
    return false

/-- Do all entries pass the check? Stops at the first that does not. -/
def allHealthy {α : Type} (check : α → Program Bool) : List α → Program Bool
  | [] => pure true
  | a :: rest => do
    if ← check a then allHealthy check rest else return false

/-- The trays: the LED of each with its front and rear fan. -/
def trays : List (Led × List Fan) :=
  Led.trays.zip Fan.trays

/-- The sensors that the system LED watches: all but those inside the supplies. -/
def systemSensors : List Sensor :=
  Sensor.all.filter fun s => s.supply?.isNone

/-- Asks a mode of an LED. -/
def light (led : Led) (mode : LedMode) : Program (Led × LedMode) := do
  match ← Program.device (.setLed led mode) with
  | .ok () => pure ()
  | .error e => Program.tell (.ledRefused led mode e)
  return (led, mode)

/-- Updates the LED of a tray. -/
def updateTray (tray : Led × List Fan) : Program (Led × LedMode) := do
  light tray.1 (.ofHealth (← allHealthy fanHealthy tray.2))

/-- Updates the LED of the supplies. -/
def updateSupplies : Program (Led × LedMode) := do
  light .psu (.ofHealth (← allHealthy supplyHealthy PowerSupply.all))

/-- Updates the system LED: red under a latched shutdown or a sensor that is not well. -/
def updateSystem : Action (Led × LedMode) := do
  if ← Watchdog.latched then
    ExceptT.lift (light .system .red)
  else
    ExceptT.lift do
      light .system (.ofHealth (← allHealthy sensorHealthy systemSensors))

/-- Updates the LEDs from the state of the board. -/
def update : Action LedReport := do
  let fans ← ExceptT.lift (trays.mapM updateTray)
  let supplies ← ExceptT.lift updateSupplies
  let system ← updateSystem
  return ⟨fans ++ [supplies, system]⟩

end SwitchThermal.Panel
