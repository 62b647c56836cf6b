import SwitchThermal.Band.Severity
import SwitchThermal.Reading

/-!
# Reports

What each activity of a period reports.

* `PassReport` — the outcome of a control pass.
* `LedReport` — the modes asked of the LEDs, in order.
* `RailAlarm` — a rail outside its span.
* `PeriodReport` — all three, with the status of the control pass.
-/

set_option autoImplicit false

namespace SwitchThermal

/-- The outcome of a control pass. -/
inductive PassReport where
  /-- The control file disabled the algorithm. -/
  | disabled
  /-- The board had already latched its shutdown; `first` if full speed was set in this pass. -/
  | shutdownLatched (first : Bool)
  /-- A sensor passed its shutdown limit and the shutdown was latched. -/
  | shutdownTriggered (sensor : Sensor) (mcelsius threshold : Int)
  /-- The fans were looked after; `applied` is the speed that was set, if any. -/
  | managed (band : Band) (worst : Option Worst) (fansProblem suppliesProblem : Bool)
      (applied : Option Nat)
  deriving DecidableEq, Repr

/-- The modes asked of the LEDs, in order. -/
structure LedReport where
  modes : List (Led × LedMode)
  deriving DecidableEq, Repr

/-- The mode asked of an LED. -/
def LedReport.mode? (r : LedReport) (led : Led) : Option LedMode :=
  (r.modes.find? fun e => e.1 = led).map Prod.snd

/-- A rail outside its span. -/
structure RailAlarm where
  rail : Rail
  millivolts : Int
  span : Span
  deriving DecidableEq, Repr

/-- What one period produced. -/
structure PeriodReport where
  pass : Option PassReport
  leds : Option LedReport
  railAlarms : List RailAlarm
  /-- The status of a failed control pass, zero if it succeeded. -/
  status : Int
  deriving DecidableEq, Repr

/-! ## Structured text -/

def boolText (b : Bool) : String :=
  if b then "true" else "false"

def optionText {α : Type} (text : α → String) : Option α → String
  | none => "None"
  | some a => "Some(" ++ text a ++ ")"

def recordText (name : String) (fields : List (String × String)) : String :=
  name ++ " \x7b " ++ ", ".intercalate (fields.map fun f => f.1 ++ ": " ++ f.2) ++ " \x7d"

def Worst.text (w : Worst) : String :=
  recordText "WorstSensor" [("id", w.sensor.identifier), ("mcelsius", toString w.mcelsius)]

def PassReport.text : PassReport → String
  | disabled => "Disabled"
  | shutdownLatched first => recordText "ShutdownLatched" [("first_report", boolText first)]
  | shutdownTriggered sensor mcelsius threshold =>
    recordText "ShutdownTriggered"
      [("sensor", sensor.identifier), ("mcelsius", toString mcelsius),
       ("threshold", toString threshold)]
  | managed band worst fansProblem suppliesProblem applied =>
    recordText "Managed"
      [("band", band.identifier), ("worst", optionText Worst.text worst),
       ("fans_problem", boolText fansProblem), ("psus_problem", boolText suppliesProblem),
       ("applied_speed", optionText toString applied)]

end SwitchThermal
