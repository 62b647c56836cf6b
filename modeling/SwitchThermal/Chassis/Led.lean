import SwitchThermal.Cells

/-!
# Front panel LEDs

* `Led` — the LEDs; `Led.name` is the name in reports, `Led.fileName` the attribute file.
* `Led.trays` — the LEDs of the four fan trays, in tray order.
* `LedMode` — what an LED shows.
-/

set_option autoImplicit false

namespace SwitchThermal

/-- The LEDs of the front panel. -/
inductive Led where
  | system
  | fan1
  | fan2
  | fan3
  | fan4
  | psu
  | badPort
  | uid
  deriving DecidableEq, Repr

namespace Led

def all : List Led :=
  [system, fan1, fan2, fan3, fan4, psu, badPort, uid]

/-- The LEDs of the fan trays, in tray order. -/
def trays : List Led :=
  [fan1, fan2, fan3, fan4]

/-- The name of an LED in reports. -/
def name : Led → String
  | system => "system"
  | fan1 => "fan1"
  | fan2 => "fan2"
  | fan3 => "fan3"
  | fan4 => "fan4"
  | psu => "psu"
  | badPort => "bad_port"
  | uid => "uid"

/-- The attribute file of an LED, which is also its name in messages. -/
def fileName : Led → String
  | system => "led_status"
  | fan1 => "led_fan1"
  | fan2 => "led_fan2"
  | fan3 => "led_fan3"
  | fan4 => "led_fan4"
  | psu => "led_psu"
  | badPort => "led_bad_port"
  | uid => "led_uid"

def ofName? (s : String) : Option Led :=
  all.find? fun x => x.name = s

instance : Listed Led :=
  Listed.ofNodup all (by intro s; cases s <;> decide) (by decide)

end Led

/-- What an LED shows. -/
inductive LedMode where
  | off
  | green
  | red
  deriving DecidableEq, Repr

namespace LedMode

def all : List LedMode := [off, green, red]

def name : LedMode → String
  | off => "off"
  | green => "green"
  | red => "red"

def ofName? (s : String) : Option LedMode :=
  all.find? fun x => x.name = s

/-- Green if all is well, otherwise red. -/
def ofHealth (healthy : Bool) : LedMode :=
  if healthy then green else red

end LedMode

end SwitchThermal
