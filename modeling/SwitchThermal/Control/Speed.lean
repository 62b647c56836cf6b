import SwitchThermal.Control.Params
import SwitchThermal.Control.State
import SwitchThermal.Text.Numeral

/-!
# Speed rules

How the chassis speed follows the temperatures. All percentages are cut to integers, and numbers are
bounded: a product past 32 bits or a difference past signed 32 bits is an overflow, never a wrapped
value.

* `decay` — cool: slower by the decay factor once the cooldown is over, never below the floor.
* `escalate` — very hot: faster by the rise factor if some sensor rose fast since the baseline,
  whatever the cooldown; otherwise faster by the climb factor once the cooldown is over. The result
  stays between the floor and full speed.
* `fastRise` — the first sensor in table order that rose by more than the limit.
-/

set_option autoImplicit false

namespace SwitchThermal

/-! ## Bounded arithmetic -/

/-- The operation whose result does not fit. -/
inductive Overflow where
  | multiply
  | subtract
  deriving DecidableEq, Repr

def Overflow.message : Overflow → String
  | multiply => "attempt to multiply with overflow"
  | subtract => "attempt to subtract with overflow"

/-- The first number past the 32-bit naturals. -/
def wordBound : Nat := 4294967296

/-- A percentage of a speed, cut to an integer. -/
def scale (speed factor : Nat) : Except Overflow Nat :=
  if speed * factor < wordBound then .ok (speed * factor / 100) else .error .multiply

/-- The difference of two temperatures. -/
def rise (mcelsius base : Int) : Except Overflow Int :=
  if Text.InInt32 (mcelsius - base) then .ok (mcelsius - base) else .error .subtract

/-! ## Cool -/

/-- Does the decay rule find the fans at the floor when it is due? -/
def atFloor (current : Nat) (s : ControlState) (p : Params) : Bool :=
  s.cooledDown && decide (current ≤ p.floor)

/-- The speed of the decay rule. -/
def decay (current : Nat) (s : ControlState) (p : Params) : Except Overflow (Option Nat) :=
  if !s.cooledDown then .ok none
  else if current ≤ p.floor then .ok none
  else (scale current p.decayFactor).map fun v => some (max v p.floor)

/-! ## Very hot -/

/-- Why the speed goes up. -/
inductive Trigger where
  /-- A sensor rose by this much since the baseline. -/
  | fastRise (sensor : Sensor) (delta : Int)
  /-- Still very hot after the cooldown. -/
  | steadyClimb
  deriving DecidableEq, Repr

/-- The first of the temperatures that rose by more than the limit since the baseline. -/
def fastRiseIn (s : ControlState) (p : Params) :
    List (Sensor × Int) → Except Overflow (Option (Sensor × Int))
  | [] => .ok none
  | (x, m) :: rest =>
    match rise m (s.baselineOf x) with
    | .error e => .error e
    | .ok delta => if p.riseDelta < delta then .ok (some (x, delta)) else fastRiseIn s p rest

/-- The first sensor in table order that rose fast, and its rise. -/
def fastRise (samples : Readings) (s : ControlState) (p : Params) :
    Except Overflow (Option (Sensor × Int)) :=
  fastRiseIn s p samples.toList

/-- The reason to go faster, if there is one. -/
def trigger (current : Nat) (samples : Readings) (s : ControlState) (p : Params) :
    Except Overflow (Option Trigger) :=
  if p.full ≤ current then .ok none
  else
    match fastRise samples s p with
    | .error e => .error e
    | .ok (some (x, delta)) => .ok (some (.fastRise x delta))
    | .ok none => .ok (if s.cooledDown then some .steadyClimb else none)

/-- The factor that goes with a reason. -/
def Trigger.factor (p : Params) : Trigger → Nat
  | fastRise .. => p.riseFactor
  | steadyClimb => p.climbFactor

/-- The speed that goes with a reason: scaled, not above full speed, not below the floor. -/
def Trigger.speed (p : Params) (current : Nat) (t : Trigger) : Except Overflow Nat :=
  (scale current (t.factor p)).map fun v => max (min v p.full) p.floor

/-- The speed of the very hot rule, with the reason. -/
def escalate (current : Nat) (samples : Readings) (s : ControlState) (p : Params) :
    Except Overflow (Option (Nat × Trigger)) :=
  match trigger current samples s p with
  | .error e => .error e
  | .ok none => .ok none
  | .ok (some t) => (t.speed p current).map fun v => some (v, t)

end SwitchThermal
