import SwitchThermal.Control.State
import SwitchThermal.Json
import SwitchThermal.Report

/-!
# Reports as JSON

* `PeriodReport.json` — the report line of a period, with `PassReport.json`, `LedReport.json` and
  `RailAlarm.json` for its parts.
* `FanReading.json`, `SensorReading.json`, `SupplyReading.json`, `RailReading.json` — readings.
* `Readings.json` — temperatures by sensor.
-/

set_option autoImplicit false

namespace SwitchThermal

open Json

/-! ## Readings -/

def FanReading.json (r : FanReading) : Json :=
  object [("id", nat r.fan.number), ("present", bool r.present), ("failed", bool r.failed),
    ("rpm", int r.rpm), ("percentage", nat r.percentage)]

def Limits.json (l : Limits) : Json :=
  object [("warning", int l.warning), ("shutdown", int l.shutdown)]

def SensorReading.json (r : SensorReading) : Json :=
  object [("id", string r.sensor.name), ("present", bool r.present), ("failed", bool r.failed),
    ("mcelsius", int r.mcelsius), ("thresholds", r.limits.json)]

def SupplyReading.json (r : SupplyReading) : Json :=
  object [("id", nat r.supply.number), ("present", bool r.present),
    ("unplugged", bool r.unplugged), ("failed", bool r.failed)]

def Span.json (s : Span) : Json :=
  object [("min", int s.least), ("max", int s.greatest)]

def RailReading.json (r : RailReading) : Json :=
  object [("id", string r.rail.name), ("present", bool r.present), ("failed", bool r.failed),
    ("millivolts", int r.millivolts), ("range", r.span.json)]

def Readings.json (m : Readings) : Json :=
  object (m.toList.map fun e => (e.1.name, int e.2))

/-! ## Reports -/

def Worst.json (w : Worst) : Json :=
  object [("id", string w.sensor.name), ("mcelsius", int w.mcelsius)]

def PassReport.json : PassReport → Json
  | disabled => object [("outcome", string "disabled")]
  | shutdownLatched first =>
    object [("outcome", string "shutdown_latched"), ("first_report", bool first)]
  | shutdownTriggered sensor mcelsius threshold =>
    object [("outcome", string "shutdown_triggered"), ("sensor", string sensor.name),
      ("mcelsius", int mcelsius), ("threshold", int threshold)]
  | managed band worst fansProblem suppliesProblem applied =>
    object [("outcome", string "managed"), ("band", string band.name),
      ("worst", ofOption Worst.json worst), ("fans_problem", bool fansProblem),
      ("psus_problem", bool suppliesProblem), ("applied_speed", ofOption nat applied)]

def LedReport.json (r : LedReport) : Json :=
  object [("modes", array (r.modes.map fun e => array [string e.1.name, string e.2.name]))]

def RailAlarm.json (a : RailAlarm) : Json :=
  object [("rail", string a.rail.name), ("millivolts", int a.millivolts),
    ("min", int a.span.least), ("max", int a.span.greatest)]

def PeriodReport.json (r : PeriodReport) : Json :=
  object [("pass", ofOption PassReport.json r.pass), ("leds", ofOption LedReport.json r.leds),
    ("voltage_alarms", array (r.railAlarms.map RailAlarm.json)), ("status", int r.status)]

end SwitchThermal
