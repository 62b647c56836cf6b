import SwitchThermal.Control.Settings
import SwitchThermal.Report

/-!
# Notices

Everything that is worth a log message, as data; what is logged is read off the notice.

* `Notice` — the occurrences.
* `Notice.level`, `Notice.message`, `Notice.fields` — how each one is logged.
-/

set_option autoImplicit false

namespace SwitchThermal

/-- The occurrences that are logged. -/
inductive Notice where
  -- the control file and the start
  | controlFileUnreadable (path : String) (e : Fault)
  | controlFileLoaded (level : SyslogLevel)
  | algorithmDisabled
  | algorithmEnabled
  | startFailed (e : Fault)
  -- the watchdog and the shutdown latch
  | watchdogArmed
  | watchdogReset
  | shutdownStanding
  -- fans and supplies
  | fanUnreadable (fan : Fan) (e : Fault)
  | fanAbsent (fan : Fan)
  | fanSpeedInvalid (fan : Fan) (rpm : Int)
  | fansProblem
  | supplyAbsent (supply : PowerSupply)
  | supplyUnreadable (supply : PowerSupply) (e : Fault)
  | suppliesProblem
  -- temperatures
  | sensorUnreadable (sensor : Sensor) (e : Fault)
  | sensorSkipped (sensor : Sensor)
  | shutdownLimitPassed (sensor : Sensor) (mcelsius threshold : Int)
  | warningLimitPassed (sensor : Sensor) (mcelsius threshold : Int)
  | bandEntered (band : Band) (worst : Option Worst)
  -- speed changes
  | atMinimumSpeed
  | atMaximumSpeed
  | roseFast (sensor : Sensor) (delta limit : Int)
  | fanRefused (fan : Fan) (percentage : Nat) (e : Fault)
  | fansSet (percentage : Nat)
  | supplyFanUnreadable (supply : PowerSupply) (e : Fault)
  | supplyFanRaised (supply : PowerSupply) (before after : Nat)
  | supplyFanFixed (supply : PowerSupply)
  | supplyFanRefused (supply : PowerSupply) (percentage : Nat) (e : Fault)
  | supplyFanNotSet (supply : PowerSupply) (e : Fault)
  | supplyStateUnavailable (supply : PowerSupply) (e : Fault)
  -- LEDs
  | fanUnreadableForLed (fan : Fan) (e : Fault)
  | supplyUnreadableForLed (supply : PowerSupply) (e : Fault)
  | sensorUnreadableForLed (sensor : Sensor) (e : Fault)
  | ledRefused (led : Led) (mode : LedMode) (e : Fault)
  -- voltages
  | railUnreadable (rail : Rail) (e : Fault)
  | railOutOfSpan (rail : Rail) (millivolts : Int) (span : Span)
  | railBackInSpan (rail : Rail) (millivolts : Int)
  -- accesses
  | fanSampled (fan : Fan) (rpm : Int) (percentage : Nat)
  | portRead (base offset value : Nat)
  | portWritten (base offset value : Nat)
  | helperStarted (program : String) (arguments : List String)
  -- periods
  | passComplete (report : PassReport)
  | passFailed (e : Fault)
  | ledsFailed (e : Fault)
  deriving DecidableEq, Repr

namespace Notice

def level : Notice → LogLevel
  | controlFileUnreadable .. | startFailed .. | shutdownStanding | fanUnreadable .. | fanAbsent ..
  | fanSpeedInvalid .. | fansProblem | supplyAbsent .. | supplyUnreadable .. | suppliesProblem
  | sensorUnreadable .. | shutdownLimitPassed .. | fanRefused .. | supplyFanUnreadable ..
  | supplyFanRefused .. | railUnreadable .. | passFailed .. => .error
  | algorithmDisabled | warningLimitPassed .. | ledRefused .. | railOutOfSpan .. | ledsFailed .. =>
    .warn
  | algorithmEnabled | roseFast .. | fansSet .. | railBackInSpan .. => .info
  | bandEntered band _ => if band = .critical then .error else .info
  | controlFileLoaded .. | watchdogArmed | watchdogReset | sensorSkipped .. | atMinimumSpeed
  | atMaximumSpeed | supplyFanRaised .. | supplyFanFixed .. | supplyFanNotSet ..
  | supplyStateUnavailable .. | fanUnreadableForLed .. | supplyUnreadableForLed ..
  | sensorUnreadableForLed .. | helperStarted .. | passComplete .. => .debug
  | fanSampled .. | portRead .. | portWritten .. => .trace

def message : Notice → String
  | controlFileUnreadable .. =>
    "Control file unreadable, enabling the thermal algorithm as default"
  | controlFileLoaded .. => "Control file loaded"
  | algorithmDisabled => "The thermal algorithm is disabled!"
  | algorithmEnabled => "The thermal algorithm is enabled, initializing the watchdog..."
  | startFailed .. => "Thermal algorithm initialization failed"
  | watchdogArmed => "Watchdog armed"
  | watchdogReset => "Reset the watchdog timer"
  | shutdownStanding =>
    "The system is in shut-down state! Power cycle must be done to recover the system " ++
      "(electric unplug for about 8 seconds and then replug)"
  | fanUnreadable .. => "Failed to retrieve fan info"
  | fanAbsent .. => "Fan is not present"
  | fanSpeedInvalid .. => "Fan RPM is not in the valid RPM range"
  | fansProblem => "Will set fans speed percentage to 100% due to the above fan(s) problem(s)"
  | supplyAbsent .. => "PSU is not present"
  | supplyUnreadable .. => "Failed to retrieve PSU info"
  | suppliesProblem => "Will set fans speed percentage to 100% due to the above PSU(s) problem(s)"
  | sensorUnreadable .. => "Failed to retrieve sensor info"
  | sensorSkipped .. => "Sensor absent or failed, skipped"
  | shutdownLimitPassed .. =>
    "Sensor reached its shutdown threshold, shutting down the system..."
  | warningLimitPassed .. => "Sensor reached its warning threshold"
  | bandEntered band _ => "System temperature is in the " ++ band.label ++ " range"
  | atMinimumSpeed => "The fans are running at the minimum speed"
  | atMaximumSpeed => "The fans are running at the maximum speed"
  | roseFast _ _ limit =>
    "Temperature increased by more than " ++ toString limit ++
      " [mcelsius] from the previous sample"
  | fanRefused .. => "Failed to set fan speed"
  | fansSet percentage => "Fans speed was set to " ++ toString percentage ++ "%"
  | supplyFanUnreadable .. => "Failed to retrieve PSU fan info"
  | supplyFanRaised .. => "PSU fan raised"
  | supplyFanFixed .. => "PSU fan speed is not controllable"
  | supplyFanRefused .. => "Failed to set PSU fan speed"
  | supplyFanNotSet .. => "PSU fan speed not set"
  | supplyStateUnavailable .. => "PSU state unavailable"
  | fanUnreadableForLed .. => "Fan unreadable for LED"
  | supplyUnreadableForLed .. => "PSU unreadable for LED"
  | sensorUnreadableForLed .. => "Sensor unreadable for LED"
  | ledRefused .. => "Failed to set LED"
  | railUnreadable .. => "Failed to retrieve voltage info"
  | railOutOfSpan .. => "Voltage out of range"
  | railBackInSpan .. => "Voltage back in range"
  | fanSampled .. => "fan sampled"
  | portRead .. => "port read"
  | portWritten .. => "port write"
  | helperStarted program arguments =>
    "Executing: " ++ program ++ " [" ++
      ", ".intercalate (arguments.map fun a => "\"" ++ a ++ "\"") ++ "]"
  | passComplete .. => "Thermal pass complete"
  | passFailed .. => "Thermal pass failed"
  | ledsFailed .. => "LED update failed"

def accessFields (base offset value : Nat) : List (String × String) :=
  [("base", Text.hexText base), ("offset", Text.hexText offset), ("value", Text.hexText value)]

/-- The fields of a notice, in order. -/
def fields : Notice → List (String × String)
  | controlFileUnreadable path e => [("path", path), ("error", e.message)]
  | controlFileLoaded level => [("syslog_level", level.identifier)]
  | startFailed e => [("error", e.message)]
  | watchdogArmed => [("timeout_ms", "16384")]
  | fanUnreadable fan e => [("fan", fan.label), ("error", e.message)]
  | fanAbsent fan => [("fan", fan.label)]
  | fanSpeedInvalid fan rpm => [("fan", fan.label), ("rpm", toString rpm)]
  | supplyAbsent supply => [("psu", supply.label)]
  | supplyUnreadable supply e => [("psu", supply.label), ("error", e.message)]
  | sensorUnreadable sensor e => [("sensor", sensor.label), ("error", e.message)]
  | sensorSkipped sensor => [("sensor", sensor.label)]
  | shutdownLimitPassed sensor mcelsius threshold
  | warningLimitPassed sensor mcelsius threshold =>
    [("sensor", sensor.label), ("mcelsius", toString mcelsius), ("threshold", toString threshold)]
  | bandEntered band worst =>
    match band with
    | .low | .desired => []
    | .high | .veryHigh | .critical =>
      [("sensor", optionText (fun w => w.sensor.identifier) worst),
       ("mcelsius", toString ((worst.map Worst.mcelsius).getD 0))]
  | roseFast sensor delta _ => [("sensor", sensor.label), ("delta_mcelsius", toString delta)]
  | fanRefused fan percentage e =>
    [("fan", fan.label), ("percentage", toString percentage), ("error", e.message)]
  | fansSet percentage => [("percentage", toString percentage)]
  | supplyFanUnreadable supply e | supplyFanNotSet supply e | supplyStateUnavailable supply e
  | supplyUnreadableForLed supply e => [("psu", supply.label), ("error", e.message)]
  | supplyFanRaised supply before after =>
    [("psu", supply.label), ("from", toString before), ("to", toString after)]
  | supplyFanFixed supply => [("psu", supply.label)]
  | supplyFanRefused supply percentage e =>
    [("psu", supply.label), ("percentage", toString percentage), ("error", e.message)]
  | fanUnreadableForLed fan e => [("fan", fan.label), ("error", e.message)]
  | sensorUnreadableForLed sensor e => [("sensor", sensor.label), ("error", e.message)]
  | ledRefused led mode e => [("led", led.fileName), ("mode", mode.name), ("error", e.message)]
  | railUnreadable rail e => [("rail", rail.label), ("error", e.message)]
  | railOutOfSpan rail millivolts span =>
    [("rail", rail.label), ("millivolts", toString millivolts), ("min", toString span.least),
     ("max", toString span.greatest)]
  | railBackInSpan rail millivolts =>
    [("rail", rail.label), ("millivolts", toString millivolts)]
  | fanSampled fan rpm percentage =>
    [("fan", fan.label), ("rpm", toString rpm), ("percentage", toString percentage)]
  | portRead base offset value | portWritten base offset value => accessFields base offset value
  | passComplete report => [("report", report.text)]
  | passFailed e => [("error", e.message), ("status", toString e.status)]
  | ledsFailed e => [("error", e.message)]
  | algorithmDisabled | algorithmEnabled | watchdogReset | shutdownStanding | fansProblem
  | suppliesProblem | atMinimumSpeed | atMaximumSpeed | helperStarted .. => []

/-- A notice as a log message. -/
def entry (n : Notice) : LogEntry :=
  ⟨n.level, n.message, n.fields⟩

end Notice

end SwitchThermal
