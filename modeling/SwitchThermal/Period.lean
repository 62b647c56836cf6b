import SwitchThermal.Controller
import SwitchThermal.Panel
import SwitchThermal.RailMonitor

/-!
# One period

A period is a control pass, an update of the LEDs and a scan of the rails. A failed pass or update
is noted and does not keep the rest from running; only an overflow ends a period.

* `PeriodState` — what one period hands on to the next.
* `Period.run` — one period.
-/

set_option autoImplicit false

namespace SwitchThermal

/-- What one period hands on to the next. -/
structure PeriodState where
  control : ControlState := .fresh
  rails : RailMonitor := .fresh
  deriving DecidableEq, Repr

namespace Period

/-- The outcome of a control pass as report and status. -/
def passOutcome : Except Fault PassReport → Option PassReport × Int
  | .ok report => (some report, 0)
  | .error e => (none, e.status)

/-- The notice of the outcome of a control pass. -/
def passNotice : Except Fault PassReport → Notice
  | .ok report => .passComplete report
  | .error e => .passFailed e

/-- Updates the LEDs; a failure is noted. -/
def updatePanel : Program (Option LedReport) := do
  match ← Panel.update.run with
  | .ok report => return some report
  | .error e =>
    Program.tell (.ledsFailed e)
    return none

/-- The period after a control pass that did not overflow. -/
def afterPass (outcome : Except Fault PassReport) (rails : RailMonitor) :
    Program (PeriodReport × RailMonitor) := do
  Program.tell (passNotice outcome)
  let leds ← updatePanel
  let (alarms, rails) ← rails.scan
  let (report, status) := passOutcome outcome
  return (⟨report, leds, alarms, status⟩, rails)

def run (c : Controller) (s : PeriodState) :
    Program (Except Overflow PeriodReport × PeriodState) := do
  let (result, control) ← c.pass.run.run s.control
  match result with
  | .error (.overflow e) => return (.error e, { s with control })
  | .error (.fault e) =>
    let (report, rails) ← afterPass (.error e) s.rails
    return (.ok report, ⟨control, rails⟩)
  | .ok report =>
    let (report, rails) ← afterPass (.ok report) s.rails
    return (.ok report, ⟨control, rails⟩)

end Period

end SwitchThermal
