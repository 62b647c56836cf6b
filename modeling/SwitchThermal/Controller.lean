import SwitchThermal.Actuator
import SwitchThermal.Control.Health
import SwitchThermal.Control.Sweep

/-!
# The control pass

One pass looks after the watchdog, the shutdown latch and the fans.

* `Controller` — the band table, the parameters and the control file.
* `Controller.start` — the initialisation, repeated until it succeeds: reads the control file and,
  if it enables the algorithm, arms the watchdog and takes the first baseline.
* `Controller.target` — the speed that the bands ask for; `Controller.override` the one that a
  problem asks for.
* `Controller.pass` — start if need be, reset the watchdog, then either keep a latched shutdown or
  survey, sweep, and set the speed.
-/

set_option autoImplicit false

namespace SwitchThermal

/-- What a control pass goes by. -/
structure Controller where
  table : BandTable
  params : Params
  controlFile : String
  deriving DecidableEq, Repr

/-- The settings of the control file; an unreadable one enables the algorithm. -/
def readSettings (path : String) : Program Settings := do
  match ← Program.query (.controlFile path) with
  | .ok text => return Settings.parse text
  | .error e =>
    Program.tell (.controlFileUnreadable path e)
    return Settings.standard

/-- The step with a notice of its fault, if it stops with one. -/
def Pass.onFault {α : Type} (p : Pass α) (notice : Fault → Notice) : Pass α :=
  ExceptT.mk do
    match ← p.run with
    | .ok a => return .ok a
    | .error (.fault e) =>
      StateT.lift (Program.tell (notice e))
      return .error (.fault e)
    | .error (.overflow e) => return .error (.overflow e)

namespace Controller

/-! ## Start -/

/-- Reads the control file, arms the watchdog and takes the first baseline. -/
def start (c : Controller) : Pass Unit := do
  let settings ← Pass.ofProgram (readSettings c.controlFile)
  modify fun s => { s with enabled := settings.enabled }
  Pass.tell (.controlFileLoaded settings.level)
  if !settings.enabled then
    Pass.tell .algorithmDisabled
  else
    Pass.tell .algorithmEnabled
    Pass.perform Watchdog.arm
    if !(← Pass.perform Watchdog.latched) then
      let samples ← Pass.ofProgram (firstTemperatures c.table.relevant)
      modify fun s => s.storeBaseline samples

/-- Starts unless a start has succeeded. -/
def ensureStarted (c : Controller) : Pass Unit := do
  if !(← get).initialised then
    c.start.onFault .startFailed
    modify fun s => { s with initialised := true }

/-! ## Target speed -/

/-- The speed that a problem asks for: full speed, unless the fans run at it. -/
def override (c : Controller) (current : Nat) : Option Nat :=
  if current < c.params.full then some c.params.full else none

/-- The speed that a band asks for. -/
def target (c : Controller) (band : Band) (current : Nat) (samples : Readings) (s : ControlState) :
    Except Overflow (Option Nat) :=
  match band with
  | .low => decay current s c.params
  | .desired => .ok none
  | .high => .ok (if current < c.params.floor then some c.params.floor else none)
  | .veryHigh => (escalate current samples s c.params).map fun r => r.map Prod.fst
  | .critical => .ok (c.override current)

/-- What is worth logging about the speed that a band asks for. -/
def targetNotices (c : Controller) (band : Band) (current : Nat) (samples : Readings)
    (s : ControlState) : List Notice :=
  match band with
  | .low => if atFloor current s c.params then [.atMinimumSpeed] else []
  | .veryHigh =>
    if c.params.full ≤ current then [.atMaximumSpeed]
    else
      match fastRise samples s c.params with
      | .ok (some (x, delta)) => [.roseFast x delta c.params.riseDelta]
      | _ => []
  | .desired | .high | .critical => []

/-! ## The pass -/

/-- Keeps a latched shutdown: full speed once, then nothing. -/
def keepShutdown (c : Controller) : Pass PassReport := do
  if (← get).shutdownReported then
    return .shutdownLatched false
  Pass.tell .shutdownStanding
  Actuator.setFans c.params c.params.full .query none
  modify fun s => { s with shutdownReported := true }
  return .shutdownLatched true

/-- Notes the band, if it is another one than before. -/
def noteBand (v : Severity) : Pass Unit := do
  if (← get).previousBand ≠ some v.band then
    Pass.tell (.bandEntered v.band v.worst)
    modify fun s => { s with previousBand := some v.band }

/-- The speed to set, from the survey and the sweep. -/
def choose (c : Controller) (problem : Bool) (current : Nat) (w : Sweep) : Pass (Option Nat) := do
  if problem then
    return c.override current
  let s ← get
  Pass.tellAll (c.targetNotices w.severity.band current w.samples s)
  Pass.bounded (c.target w.severity.band current w.samples s)

/-- Notes the band that the sweep has found, and sets the speed. -/
def conclude (c : Controller) (fans : FanSurvey) (supplies : SupplySurvey) (w : Sweep) :
    Pass PassReport := do
  noteBand w.severity
  let speed ← c.choose (fans.problem || supplies.problem) fans.current w
  if let some percentage := speed then
    Actuator.setFans c.params percentage (.sampled supplies.records) (some w.samples)
  return .managed w.severity.band w.severity.worst fans.problem supplies.problem speed

/-- Sweeps over the sensors, and sets the speed if none of them has tripped. -/
def respond (c : Controller) (fans : FanSurvey) (supplies : SupplySurvey) : Pass PassReport := do
  match ← sweep c.table with
  | .tripped sensor mcelsius threshold => return .shutdownTriggered sensor mcelsius threshold
  | .complete w => c.conclude fans supplies w

/-- Surveys fans and supplies, and responds to what the sensors read. -/
def manage (c : Controller) : Pass PassReport := do
  let fans ← surveyFans
  let supplies ← surveySupplies
  c.respond fans supplies

/-- A pass of a started controller. -/
def proceed (c : Controller) : Pass PassReport := do
  if !(← get).enabled then
    return .disabled
  Pass.perform Watchdog.refresh
  modify ControlState.tickCooldown
  if ← Pass.perform Watchdog.latched then
    c.keepShutdown
  else
    c.manage

/-- One control pass. -/
def pass (c : Controller) : Pass PassReport := do
  c.ensureStarted
  c.proceed

end Controller

end SwitchThermal
