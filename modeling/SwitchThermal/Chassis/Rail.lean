import SwitchThermal.Cells

/-!
# Voltage rails

The sixteen monitored voltage rails, in table order.

* `Rail` — the rails; `Rail.all` lists them in table order.
* `Rail.name`, `Rail.label`, `Rail.stem` — the name in reports, the name in messages and the common
  stem of the attribute files.
-/

set_option autoImplicit false

namespace SwitchThermal

/-- The monitored voltage rails. -/
inductive Rail where
  | cpu0v9
  | cpu1v05
  | cpu1v8
  | cpuPch
  | ddr3v0675
  | ddr3v135
  | lan
  | psu2Vin
  | psu2Vout
  | sys
  | usb
  | vcoreVin
  | vcoreVout1
  | vcoreVout2
  | vmonVin
  | vmonVout
  deriving DecidableEq, Repr

namespace Rail

def all : List Rail :=
  [cpu0v9, cpu1v05, cpu1v8, cpuPch, ddr3v0675, ddr3v135, lan, psu2Vin,
   psu2Vout, sys, usb, vcoreVin, vcoreVout1, vcoreVout2, vmonVin, vmonVout]

/-- The name of a rail in reports. -/
def name : Rail → String
  | cpu0v9 => "cpu0_v9"
  | cpu1v05 => "cpu1_v05"
  | cpu1v8 => "cpu1_v8"
  | cpuPch => "cpu_pch"
  | ddr3v0675 => "ddr3_v0675"
  | ddr3v135 => "ddr3_v135"
  | lan => "lan"
  | psu2Vin => "psu2_vin"
  | psu2Vout => "psu2_vout"
  | sys => "sys"
  | usb => "usb"
  | vcoreVin => "vcore_vin"
  | vcoreVout1 => "vcore_vout1"
  | vcoreVout2 => "vcore_vout2"
  | vmonVin => "vmon_vin"
  | vmonVout => "vmon_vout"

/-- The stem of the attribute files of a rail. -/
def stem : Rail → String
  | cpu0v9 => "cpu_0_9"
  | cpu1v05 => "cpu_1_05"
  | cpu1v8 => "cpu_1_8"
  | cpuPch => "cpu_pch"
  | ddr3v0675 => "ddr3_0_675"
  | ddr3v135 => "ddr3_1_35"
  | lan => "lan"
  | psu2Vin => "psu2_vin"
  | psu2Vout => "psu2_vout"
  | sys => "sys"
  | usb => "usb"
  | vcoreVin => "vcore_vin"
  | vcoreVout1 => "vcore_vout1"
  | vcoreVout2 => "vcore_vout2"
  | vmonVin => "vmon_vin"
  | vmonVout => "vmon_vout"

/-- The name of a rail in messages. -/
def label : Rail → String
  | cpu0v9 => "CPU 0.9V"
  | cpu1v05 => "CPU 1.05V"
  | cpu1v8 => "CPU 1.8V"
  | cpuPch => "CPU/PCH 1.05V"
  | ddr3v0675 => "DDR3 0.675V"
  | ddr3v135 => "DDR3 1.35V"
  | lan => "1.05V LAN"
  | psu2Vin => "PSU2 Voltage In"
  | psu2Vout => "PSU2 Voltage Out"
  | sys => "SYS 3.3V"
  | usb => "USB 5V"
  | vcoreVin => "Vcore Voltage In"
  | vcoreVout1 => "Vcore Voltage Out1"
  | vcoreVout2 => "Vcore Voltage Out2"
  | vmonVin => "VMon Voltage In"
  | vmonVout => "VMon Voltage Out"

def ofName? (s : String) : Option Rail :=
  all.find? fun x => x.name = s

instance : Listed Rail :=
  Listed.ofNodup all (by intro s; cases s <;> decide) (by decide)

end Rail

end SwitchThermal
