import SwitchThermal.Bench.Setup
import SwitchThermal.Period

/-!
# Steps of a session

* `Step` — what can be done: changes of the bench, single accesses, and the activities of the
  control loop.
* `StepValue` — what comes of a step.
* `StepRecord` — the value of a step with everything that it did to the bench.
-/

set_option autoImplicit false

namespace SwitchThermal.Bench

open Text (Bytes)

/-- Changes of the control state; what is not named stays, and the temperatures are written over the
baseline. -/
structure StatePatch where
  cooldown : Option Nat := none
  enabled : Option Bool := none
  initialised : Option Bool := none
  shutdownReported : Option Bool := none
  previousBand : Option (Option Band) := none
  baseline : Readings := Cells.empty
  deriving DecidableEq, Repr

def StatePatch.apply (p : StatePatch) (s : ControlState) : ControlState :=
  { s with
    cooldown := p.cooldown.getD s.cooldown
    enabled := p.enabled.getD s.enabled
    initialised := p.initialised.getD s.initialised
    shutdownReported := p.shutdownReported.getD s.shutdownReported
    previousBand := p.previousBand.getD s.previousBand
    baseline := s.baseline.overlay p.baseline }

/-- What can be done in a session. Entities given by number may be out of range. -/
inductive Step where
  -- the activities of the control loop
  | passes (times : Nat)
  | updatePanel
  | ledMode (led : Led)
  | scanRails
  | setFans (percentage : Nat) (view : SupplyView) (samples : Option Readings)
  | period
  -- the watchdog and the registers
  | arm
  | refresh
  | latch
  | isLatched
  | access (q : RegisterQuery)
  | setRegister (base offset value : Nat)
  | getRegister (base offset : Nat)
  | failRegister (offset : Nat)
  | portBytes (address count : Nat)
  -- the devices
  | device (q : Except Fault DeviceQuery)
  -- attribute files
  | versions
  | readInt (path : String)
  | writeText (path value : String)
  | readSettings (path : String)
  | settingsOrStandard (path : String)
  -- changes of the bench
  | put (path : String) (content : Content)
  | remove (path : String)
  | fanSpeeds (percentage : Nat)
  | edit (e : Except Fault Edit)
  -- the control state
  | patchState (p : StatePatch)
  | freshState
  | showFile (path : String)
  | showState

inductive StepValue where
  | nothing
  | fault (e : Fault)
  | overflow (e : Overflow)
  | pass (r : PassReport)
  | many (values : List StepValue)
  | leds (r : LedReport)
  | ledMode (mode : Option LedMode)
  | rails (alarms : List RailAlarm) (alarmed : List Rail)
  | period (r : PeriodReport)
  | flag (b : Bool)
  | number (n : Int)
  | bytes (size : Nat) (bytes : Bytes)
  | fan (r : FanReading)
  | sensor (r : SensorReading)
  | supply (r : SupplyReading)
  | rail (r : RailReading)
  | versions (v : CpldVersions)
  | settings (s : Settings)
  | text (s : String)
  | state (s : ControlState)

/-- A step's value with everything that it did to the bench. -/
structure StepRecord where
  value : StepValue
  /-- The writes to registers in memory. -/
  writes : List RegisterWrite := []
  /-- The settings that the board of records accepted. -/
  settings : List Setting := []
  /-- The watched attribute files that hold text, with it. -/
  wrote : List (String × String) := []
  /-- The argument lists that the helper program was started with. -/
  calls : List (List String) := []
  log : List LogEntry := []
  /-- The control state, after a step that is about it. -/
  state : Option ControlState := none

namespace StepValue

/-- The value of an access. -/
def ofExcept {α : Type} (encode : α → StepValue) : Except Fault α → StepValue
  | .ok a => encode a
  | .error e => fault e

/-- The value of a step that may stop early. -/
def ofHalt {α : Type} (encode : α → StepValue) : Except Halt α → StepValue
  | .ok a => encode a
  | .error (.fault e) => fault e
  | .error (.overflow e) => overflow e

/-- The value of a device access. -/
def ofDevice : (q : DeviceQuery) → Except Fault q.Payload → StepValue
  | .fan _, r => ofExcept fan r
  | .sensor _, r => ofExcept sensor r
  | .supply _, r => ofExcept supply r
  | .rail _, r => ofExcept rail r
  | .setFan .., r => ofExcept (fun _ => nothing) r
  | .setLed .., r => ofExcept (fun _ => nothing) r

/-- The value of a register access. -/
def ofRegister : (q : RegisterQuery) → Except Fault q.Payload → StepValue
  | .read .., r => ofExcept (fun (n : Nat) => number n) r
  | .write .., r => ofExcept (fun _ => nothing) r

end StepValue

end SwitchThermal.Bench
