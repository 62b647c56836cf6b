/-!
# Control parameters

* `Params` — the factors, bounds and delays of the speed rules; `Params.standard` are the board's
  own.
-/

set_option autoImplicit false

namespace SwitchThermal

/-- The tunable numbers of the speed rules. -/
structure Params where
  /-- A rise above the baseline by more than this, in thousandths of a degree, is fast. -/
  riseDelta : Int := 4000
  /-- New speed after a fast rise, in percent of the current one. -/
  riseFactor : Nat := 120
  /-- New speed on a steady climb, in percent of the current one. -/
  climbFactor : Nat := 110
  /-- New speed when cool, in percent of the current one. -/
  decayFactor : Nat := 90
  /-- Passes that must follow a speed change before the next steady change. -/
  cooldown : Nat := 30
  /-- The least speed that the chassis fans accept. -/
  floor : Nat := 60
  /-- Full speed. -/
  full : Nat := 100
  deriving DecidableEq, Repr

def Params.standard : Params := {}

end SwitchThermal
