import SwitchThermal.Fault
import SwitchThermal.Log
import SwitchThermal.Text.DecimalDigit
import SwitchThermal.Text.Numeral

/-!
# The control file

A list of `key=value` lines. A `#` starts a comment, spaces are ignored, and of several lines with
the same key the last valid one counts.

* `SyslogLevel` — the levels of `syslog_level`, with the log threshold of each.
* `Settings.parse` — the settings of a text; keys that are not known and levels that are not valid
  are ignored.
* `enables` — does the value of `enable` switch the algorithm on? The number at the start of the
  value is rounded to binary64, to nearest and ties to even, and then cut to an integer; so a
  fraction within 2⁻⁵⁴ of one counts as one, and a digit that is not ASCII makes the number zero.
-/

set_option autoImplicit false

namespace SwitchThermal

/-! ## Levels -/

/-- The levels of the system log, from grave to slight. -/
inductive SyslogLevel where
  | emergency
  | alert
  | critical
  | error
  | warning
  | notice
  | info
  | debug
  deriving DecidableEq, Repr

namespace SyslogLevel

def all : List SyslogLevel :=
  [emergency, alert, critical, error, warning, notice, info, debug]

/-- The word for a level in the control file. -/
def keyword : SyslogLevel → String
  | emergency => "LOG_EMERG"
  | alert => "LOG_ALERT"
  | critical => "LOG_CRIT"
  | error => "LOG_ERR"
  | warning => "LOG_WARNING"
  | notice => "LOG_NOTICE"
  | info => "LOG_INFO"
  | debug => "LOG_DEBUG"

/-- The identifier of a level in reports and message fields. -/
def identifier : SyslogLevel → String
  | emergency => "Emerg"
  | alert => "Alert"
  | critical => "Crit"
  | error => "Error"
  | warning => "Warning"
  | notice => "Notice"
  | info => "Info"
  | debug => "Debug"

/-- The slightest messages that are logged at a level. -/
def threshold : SyslogLevel → LogLevel
  | emergency | alert | critical | error => .error
  | warning => .warn
  | notice | info => .info
  | debug => .debug

def ofKeyword? (s : String) : Except Fault SyslogLevel :=
  match all.find? fun l => l.keyword = s with
  | some l => .ok l
  | none => .error (.configuration ("unknown syslog level '" ++ s ++ "'"))

end SyslogLevel

/-! ## The value of `enable` -/

/-- The digits at the start of a value, and those after a point that follows them. -/
def leadingNumber (value : List Char) : List Char × List Char :=
  let whole := value.takeWhile Text.isDecimalDigit
  match value.dropWhile Text.isDecimalDigit with
  | '.' :: r => (whole, r.takeWhile Text.isDecimalDigit)
  | _ => (whole, [])

/-- Is the binary64 number nearest to `0.ds` equal to one? It is if the fraction is at least
1 - 2⁻⁵⁴, the midpoint between one and its predecessor. -/
def fractionRoundsToOne (ds : List Char) : Bool :=
  let whole := Nat.pow 10 ds.length
  decide ((whole - Text.digitsValue ds) * Nat.pow 2 54 ≤ whole)

/-- Does the value of `enable` switch the algorithm on? -/
def enables (value : List Char) : Bool :=
  let n := leadingNumber value
  (n.1 ++ n.2).all Text.isAsciiDigit &&
    (decide (Text.digitsValue n.1 ≠ 0) || fractionRoundsToOne n.2)

/-! ## Settings -/

/-- What the control file decides. -/
structure Settings where
  enabled : Bool := true
  level : SyslogLevel := .warning
  deriving DecidableEq, Repr

/-- The settings of an empty control file. -/
def Settings.standard : Settings := {}

/-- The first line of a text, with its line end still on it, and what follows. -/
def splitLine (cs : List Char) : List Char × List Char :=
  match cs with
  | [] => ([], [])
  | '\n' :: r => (['\n'], r)
  | c :: r => (c :: (splitLine r).1, (splitLine r).2)

theorem length_splitLine (cs : List Char) :
    (splitLine cs).1.length + (splitLine cs).2.length = cs.length := by
  fun_induction splitLine cs <;> simp_all <;> omega

theorem splitLine_fst_pos (c : Char) (r : List Char) : 0 < (splitLine (c :: r)).1.length := by
  rw [splitLine.eq_def]
  split <;> simp_all

/-- A line without its line end: a line feed, or a carriage return and a line feed. -/
def chopLineEnd (line : List Char) : List Char :=
  match line.reverse with
  | '\n' :: '\r' :: r => r.reverse
  | '\n' :: r => r.reverse
  | _ => line

/-- The lines of a text. A line feed at the end starts no further line. -/
def lines (cs : List Char) : List (List Char) :=
  match cs with
  | [] => []
  | c :: r => chopLineEnd (splitLine (c :: r)).1 :: lines (splitLine (c :: r)).2
termination_by cs.length
decreasing_by
  have h := length_splitLine (c :: r)
  have p := splitLine_fst_pos c r
  omega

/-- The key and the value of a line, if it has an equals sign before any comment. -/
def entry? (line : List Char) : Option (List Char × List Char) :=
  let text := (line.takeWhile (· ≠ '#')).filter (· ≠ ' ')
  match text.dropWhile (· ≠ '=') with
  | [] => none
  | _ :: value => some (text.takeWhile (· ≠ '='), value)

namespace Settings

/-- The settings after one more line. -/
def addLine (s : Settings) (line : List Char) : Settings :=
  match entry? line with
  | none => s
  | some (key, value) =>
    if key = "enable".toList then { s with enabled := enables value }
    else if key = "syslog_level".toList then
      match SyslogLevel.ofKeyword? (String.ofList value) with
      | .ok level => { s with level := level }
      | .error _ => s
    else s

/-- The settings after more text. -/
def addText (s : Settings) (cs : List Char) : Settings :=
  (lines cs).foldl addLine s

/-- The settings of a control file. -/
def parse (text : String) : Settings :=
  standard.addText text.toList

end Settings

end SwitchThermal
