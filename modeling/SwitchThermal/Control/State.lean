import SwitchThermal.Band.Basic
import SwitchThermal.Reading

/-!
# Control state

What one control pass hands on to the next.

* `Readings` — temperatures by sensor.
* `ControlState` — cooldown, baseline, flags, and the records that messages are compared with.
* `ControlState.tickCooldown`, `ControlState.storeBaseline`, `ControlState.baselineOf` — one pass
  less to wait, temperatures written over the baseline, and the baseline of a sensor (zero if there
  is none).
-/

set_option autoImplicit false

namespace SwitchThermal

/-- Temperatures by sensor, in thousandths of a degree. -/
abbrev Readings := Cells Sensor Int

/-- What one control pass hands on to the next. -/
structure ControlState where
  /-- Passes until a steady speed change is allowed. -/
  cooldown : Nat := 0
  /-- The temperatures at the last speed change. -/
  baseline : Readings := Cells.empty
  /-- Did the control file enable the algorithm? -/
  enabled : Bool := false
  /-- Has the initialisation succeeded? -/
  initialised : Bool := false
  /-- Has full speed been set for a latched shutdown? -/
  shutdownReported : Bool := false
  previousBand : Option Band := none
  previousFans : Cells Fan FanReading := Cells.empty
  previousSupplies : Cells PowerSupply SupplyReading := Cells.empty
  deriving DecidableEq, Repr

namespace ControlState

def fresh : ControlState := {}

def tickCooldown (s : ControlState) : ControlState :=
  { s with cooldown := s.cooldown - 1 }

def cooledDown (s : ControlState) : Bool :=
  decide (s.cooldown = 0)

def baselineOf (s : ControlState) (x : Sensor) : Int :=
  (s.baseline.get? x).getD 0

/-- The temperatures written over the baseline. -/
def storeBaseline (s : ControlState) (samples : Readings) : ControlState :=
  { s with baseline := s.baseline.overlay samples }

end ControlState

end SwitchThermal
