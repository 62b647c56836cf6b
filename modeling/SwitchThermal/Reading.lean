import SwitchThermal.Chassis.Fan
import SwitchThermal.Chassis.Sensor
import SwitchThermal.Chassis.Rail
import SwitchThermal.Chassis.Led

/-!
# Readings

What the board reports about each entity.

* `FanReading`, `SensorReading`, `SupplyReading`, `RailReading` — one record per kind of entity.
* `Limits` — the warning and shutdown limits of a sensor; zero or less means none.
* `Span` — the valid range of a rail; a span whose greatest value is not above the least says
  nothing.
* `Limits.ofSensor` — the fixed limits of this board's sensors.
-/

set_option autoImplicit false

namespace SwitchThermal

/-- The state of a fan. -/
structure FanReading where
  fan : Fan
  present : Bool
  failed : Bool
  rpm : Int
  /-- The speed as a percentage of the greatest speed at the fan's place. -/
  percentage : Nat
  deriving DecidableEq, Repr

/-- The reading of a fan that is not there. -/
def FanReading.absent (f : Fan) : FanReading :=
  ⟨f, false, false, 0, 0⟩

/-- The limits of a sensor in thousandths of a degree. -/
structure Limits where
  warning : Int
  shutdown : Int
  deriving DecidableEq, Repr

namespace Limits

/-- No limits. -/
def none : Limits := ⟨0, 0⟩

/-- Is the temperature above a shutdown limit? -/
def exceedsShutdown (l : Limits) (mcelsius : Int) : Bool :=
  decide (0 < l.shutdown) && decide (l.shutdown < mcelsius)

/-- Is the temperature above a warning limit? -/
def exceedsWarning (l : Limits) (mcelsius : Int) : Bool :=
  decide (0 < l.warning) && decide (l.warning < mcelsius)

/-- The fixed limits of the board's sensors. -/
def ofSensor : Sensor → Limits
  | .cpuCore0 | .cpuCore1 | .cpuCore2 | .cpuCore3 | .cpuPack | .nps => ⟨90000, 100000⟩
  | .pex => ⟨95000, 105000⟩
  | .tcam => ⟨80000, 90000⟩
  | .front | .rear | .mnb | .psu1 | .psu2 => none

end Limits

/-- The state of a temperature sensor. -/
structure SensorReading where
  sensor : Sensor
  present : Bool
  failed : Bool
  mcelsius : Int
  limits : Limits
  deriving DecidableEq, Repr

/-- Is the sensor there and working? -/
def SensorReading.usable (r : SensorReading) : Bool :=
  r.present && !r.failed

/-- The state of a power supply. -/
structure SupplyReading where
  supply : PowerSupply
  present : Bool
  /-- There, but without input power. -/
  unplugged : Bool
  failed : Bool
  deriving DecidableEq, Repr

/-- Is the supply there and powered? -/
def SupplyReading.operational (r : SupplyReading) : Bool :=
  r.present && !r.unplugged

/-- The valid range of a rail in millivolts, both ends included. -/
structure Span where
  least : Int
  greatest : Int
  deriving DecidableEq, Repr

namespace Span

/-- Does the span say anything? -/
def defined (s : Span) : Bool :=
  decide (s.least < s.greatest)

/-- Is the voltage in the span? -/
def contains (s : Span) (millivolts : Int) : Bool :=
  decide (s.least ≤ millivolts) && decide (millivolts ≤ s.greatest)

end Span

/-- The state of a voltage rail. -/
structure RailReading where
  rail : Rail
  present : Bool
  failed : Bool
  millivolts : Int
  span : Span
  deriving DecidableEq, Repr

/-- Can the reading be judged? -/
def RailReading.judged (r : RailReading) : Bool :=
  r.present && !r.failed && r.span.defined

end SwitchThermal
