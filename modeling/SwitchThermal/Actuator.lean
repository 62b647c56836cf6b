import SwitchThermal.Control.Pass

/-!
# Setting the speed

One speed for all fans: the chassis fans share one setting, carried by the primary fan; the
supplies' fans follow where they can.

* `SupplyView` — the supplies as sampled in this pass, or to be asked for.
* `Actuator.setFans` — sets the chassis speed, and stops if it is refused. Then raises the fans of
  the operational supplies, whose refusals do not matter; restarts the cooldown; stores the
  baseline.
-/

set_option autoImplicit false

namespace SwitchThermal

/-- What is known about the supplies. -/
inductive SupplyView where
  /-- Records sampled in this pass; the first one of a supply counts. -/
  | sampled (records : List SupplyReading)
  /-- Nothing; the board is asked. -/
  | query
  deriving DecidableEq, Repr

namespace Actuator

/-- Raises the fan of a supply to a speed, unless it runs at least as fast. -/
def raiseSupplyFan (p : PowerSupply) (percentage : Nat) : Program Unit := do
  match ← Program.device (.fan (.supply p)) with
  | .error e => Program.tell (.supplyFanUnreadable p e)
  | .ok reading =>
    if percentage ≤ reading.percentage then
      pure ()
    else
      match ← Program.device (.setFan (.supply p) percentage) with
      | .ok () => Program.tell (.supplyFanRaised p reading.percentage percentage)
      | .error e =>
        if e.kind = .unsupported then
          Program.tell (.supplyFanFixed p)
        else
          Program.tell (.supplyFanRefused p percentage e)

/-- Sets the fan of a supply to a speed if the board says that the supply is operational. -/
def setSupplyFan (p : PowerSupply) (percentage : Nat) : Program Unit := do
  match ← Program.device (.supply p) with
  | .error e => Program.tell (.supplyStateUnavailable p e)
  | .ok record =>
    if record.operational then
      match ← Program.device (.setFan (.supply p) percentage) with
      | .ok () => pure ()
      | .error e => Program.tell (.supplyFanNotSet p e)
    else
      pure ()

/-- Brings the fan of one supply to a speed. -/
def followSupply (view : SupplyView) (percentage : Nat) (p : PowerSupply) : Program Unit :=
  match view with
  | .sampled records =>
    match records.find? fun r => r.supply = p with
    | none => pure ()
    | some r => if r.operational then raiseSupplyFan p percentage else pure ()
  | .query => setSupplyFan p percentage

/-- The state after a speed change: a full cooldown, and the samples as baseline. -/
def settle (params : Params) (samples : Option Readings) (s : ControlState) : ControlState :=
  let s := { s with cooldown := params.cooldown }
  match samples with
  | some samples => s.storeBaseline samples
  | none => s

/-- Sets one speed for all fans. -/
def setFans (params : Params) (percentage : Nat) (view : SupplyView) (samples : Option Readings) :
    Pass Unit := do
  Pass.need (.setFan .primary percentage) fun e => .fanRefused .primary percentage e
  Pass.ofProgram (PowerSupply.all.forM (followSupply view percentage))
  modify (settle params samples)
  Pass.tell (.fansSet percentage)

end Actuator

end SwitchThermal
