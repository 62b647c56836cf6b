import SwitchThermal.Chassis.Fan

/-!
# Thermal sensors

The thirteen temperature sensors, in table order.

* `Sensor` — the sensors; `Sensor.all` lists them in table order.
* `Sensor.name`, `Sensor.label`, `Sensor.fileName` — the name in reports, the name in messages and
  the attribute file.
* `Sensor.supply?` — the power supply that houses the sensor.
-/

set_option autoImplicit false

namespace SwitchThermal

/-- The temperature sensors. -/
inductive Sensor where
  | cpuCore0
  | cpuCore1
  | cpuCore2
  | cpuCore3
  | cpuPack
  | front
  | rear
  | pex
  | nps
  | tcam
  | mnb
  | psu1
  | psu2
  deriving DecidableEq, Repr

namespace Sensor

def all : List Sensor :=
  [cpuCore0, cpuCore1, cpuCore2, cpuCore3, cpuPack, front, rear,
   pex, nps, tcam, mnb, psu1, psu2]

/-- The name of a sensor in reports. -/
def name : Sensor → String
  | cpuCore0 => "cpu_core0"
  | cpuCore1 => "cpu_core1"
  | cpuCore2 => "cpu_core2"
  | cpuCore3 => "cpu_core3"
  | cpuPack => "cpu_pack"
  | front => "front"
  | rear => "rear"
  | pex => "pex"
  | nps => "nps"
  | tcam => "tcam"
  | mnb => "mnb"
  | psu1 => "psu1"
  | psu2 => "psu2"

/-- The attribute file of a sensor. -/
def fileName : Sensor → String
  | cpuCore0 => "cpu_core0"
  | cpuCore1 => "cpu_core1"
  | cpuCore2 => "cpu_core2"
  | cpuCore3 => "cpu_core3"
  | cpuPack => "cpu_pack"
  | front => "board_amb"
  | rear => "port_amb"
  | pex => "pex"
  | nps => "nps"
  | tcam => "tcam"
  | mnb => "mnb"
  | psu1 => "psu1"
  | psu2 => "psu2"

/-- The name of a sensor in messages. -/
def label : Sensor → String
  | cpuCore0 => "CPU Core 0"
  | cpuCore1 => "CPU Core 1"
  | cpuCore2 => "CPU Core 2"
  | cpuCore3 => "CPU Core 3"
  | cpuPack => "CPU pack"
  | front => "Chassis Thermal Sensor (Front)"
  | rear => "Chassis Thermal Sensor (Rear)"
  | pex => "PEX"
  | nps => "NPS"
  | tcam => "TCAM"
  | mnb => "MNB"
  | psu1 => "PSU-1 Thermal Sensor"
  | psu2 => "PSU-2 Thermal Sensor"

/-- The identifier of a sensor in structured message fields. -/
def identifier : Sensor → String
  | cpuCore0 => "CpuCore0"
  | cpuCore1 => "CpuCore1"
  | cpuCore2 => "CpuCore2"
  | cpuCore3 => "CpuCore3"
  | cpuPack => "CpuPack"
  | front => "Front"
  | rear => "Rear"
  | pex => "Pex"
  | nps => "Nps"
  | tcam => "Tcam"
  | mnb => "Mnb"
  | psu1 => "Psu1"
  | psu2 => "Psu2"

/-- The power supply that houses a sensor. -/
def supply? : Sensor → Option PowerSupply
  | psu1 => some .first
  | psu2 => some .second
  | _ => none

def ofName? (s : String) : Option Sensor :=
  all.find? fun x => x.name = s

instance : Listed Sensor :=
  Listed.ofNodup all (by intro s; cases s <;> decide) (by decide)

end Sensor

end SwitchThermal
