/-!
# Log messages

* `LogLevel` — the weight of a message; a threshold admits its own level and graver ones.
* `LogEntry` — a message with its named fields.
-/

set_option autoImplicit false

namespace SwitchThermal

/-- The weight of a message, from grave to slight. -/
inductive LogLevel where
  | error
  | warn
  | info
  | debug
  | trace
  deriving DecidableEq, Repr

namespace LogLevel

def all : List LogLevel := [error, warn, info, debug, trace]

/-- The position of a level from grave to slight. -/
def rank : LogLevel → Nat
  | error => 0
  | warn => 1
  | info => 2
  | debug => 3
  | trace => 4

/-- The name of a level as a threshold. -/
def name : LogLevel → String
  | error => "error"
  | warn => "warn"
  | info => "info"
  | debug => "debug"
  | trace => "trace"

/-- The name of a level in the log. -/
def label : LogLevel → String
  | error => "ERROR"
  | warn => "WARN"
  | info => "INFO"
  | debug => "DEBUG"
  | trace => "TRACE"

def ofName? (s : String) : Option LogLevel :=
  all.find? fun l => l.name = s

/-- Is a message of level `l` logged under the threshold? -/
def admits (threshold l : LogLevel) : Bool :=
  decide (l.rank ≤ threshold.rank)

end LogLevel

/-- A message with its fields in order. -/
structure LogEntry where
  level : LogLevel
  message : String
  fields : List (String × String)
  deriving DecidableEq, Repr

end SwitchThermal
