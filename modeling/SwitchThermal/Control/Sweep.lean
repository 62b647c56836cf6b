import SwitchThermal.Band.Table
import SwitchThermal.Control.Pass
import SwitchThermal.Watchdog

/-!
# Sweep over the temperatures

Reads the sensors that steer the fans, in table order.

* `Sweep` — the temperatures of the usable sensors and the severity of what they show.
* `sweep` — a sensor that is unreadable, absent or failed is passed over; the first one above its
  shutdown limit latches the shutdown and ends the sweep.
* `firstTemperatures` — the temperatures for the first baseline, zero for an unreadable sensor.
-/

set_option autoImplicit false

namespace SwitchThermal

/-- The temperatures of the usable sensors and their severity. -/
structure Sweep where
  samples : Readings := Cells.empty
  severity : Severity := .none
  deriving DecidableEq, Repr

/-- The sweep with one more temperature. -/
def Sweep.add (w : Sweep) (table : BandTable) (r : SensorReading) (s : Sensor) : Sweep :=
  ⟨w.samples.insert s r.mcelsius, w.severity.observe s (table.classify s r.mcelsius) r.mcelsius⟩

/-- How a sweep ends. -/
inductive SweepResult where
  | complete (w : Sweep)
  /-- A sensor passed its shutdown limit and the shutdown was latched. -/
  | tripped (sensor : Sensor) (mcelsius threshold : Int)
  deriving DecidableEq, Repr

/-- Reads the sensors of a list, in order. -/
def sweepOver (table : BandTable) : List Sensor → Sweep → Pass SweepResult
  | [], w => pure (.complete w)
  | s :: rest, w => do
    match ← Pass.ask (.sensor s) with
    | .error e =>
      Pass.tell (.sensorUnreadable s e)
      sweepOver table rest w
    | .ok r =>
      if !r.usable then
        Pass.tell (.sensorSkipped s)
        sweepOver table rest w
      else if r.limits.exceedsShutdown r.mcelsius then
        Pass.tell (.shutdownLimitPassed s r.mcelsius r.limits.shutdown)
        Pass.perform Watchdog.latch
        return .tripped s r.mcelsius r.limits.shutdown
      else
        if r.limits.exceedsWarning r.mcelsius then
          Pass.tell (.warningLimitPassed s r.mcelsius r.limits.warning)
        sweepOver table rest (w.add table r s)

/-- Reads the sensors that steer the fans. -/
def sweep (table : BandTable) : Pass SweepResult :=
  sweepOver table table.relevant {}

/-- The temperature of one sensor for the first baseline. -/
def firstTemperature (s : Sensor) : Program Int := do
  match ← Program.device (.sensor s) with
  | .ok r => return r.mcelsius
  | .error e =>
    Program.tell (.sensorUnreadable s e)
    return 0

/-- The temperatures of the sensors of a list for the first baseline. -/
def firstTemperatures (sensors : List Sensor) : Program Readings :=
  sensors.foldlM (fun m s => do return m.insert s (← firstTemperature s)) Cells.empty

end SwitchThermal
