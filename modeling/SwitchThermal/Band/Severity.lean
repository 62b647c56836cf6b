import SwitchThermal.Band.Basic
import SwitchThermal.Chassis.Sensor

/-!
# Severity

The hottest band that any sensor has reached, and the sensor that reached it first.

* `Severity.none` — nothing observed: band `low` and no sensor.
* `Severity.observe` — one more classified temperature. Only a strictly hotter band replaces the
  present one; a temperature in no band changes nothing.
-/

set_option autoImplicit false

namespace SwitchThermal

/-- A sensor and its temperature. -/
structure Worst where
  sensor : Sensor
  mcelsius : Int
  deriving DecidableEq, Repr

/-- The hottest band so far. -/
structure Severity where
  band : Band
  worst : Option Worst
  deriving DecidableEq, Repr

namespace Severity

/-- Nothing observed yet. -/
def none : Severity := ⟨.low, .none⟩

/-- One more classified temperature. -/
def observe (v : Severity) (s : Sensor) (band : Option Band) (mcelsius : Int) : Severity :=
  match band with
  | some b => if v.band < b then ⟨b, some ⟨s, mcelsius⟩⟩ else v
  | .none => v

end Severity

end SwitchThermal
