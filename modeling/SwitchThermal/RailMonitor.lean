import SwitchThermal.Board.Program

/-!
# Voltage rails

A scan judges every rail that can be judged, reports those outside their span, and logs when a rail
leaves its span or comes back.

* `RailMonitor` — the rails that are alarmed.
* `RailMonitor.judge` — the effect of one reading: the monitor, the alarm and the notice that
  follow.
* `RailMonitor.scan` — one scan over all rails, in table order.
-/

set_option autoImplicit false

namespace SwitchThermal

/-- The rails that are alarmed. -/
structure RailMonitor where
  alarmed : List Rail := []
  deriving DecidableEq, Repr

namespace RailMonitor

def fresh : RailMonitor := {}

/-- Is the rail alarmed? -/
def isAlarmed (m : RailMonitor) (r : Rail) : Bool :=
  m.alarmed.contains r

/-- What a reading leads to. -/
structure Verdict where
  monitor : RailMonitor
  alarm : Option RailAlarm
  notice : Option Notice
  deriving DecidableEq, Repr

/-- Judges a reading. A rail that cannot be judged keeps its status. -/
def judge (m : RailMonitor) (rail : Rail) (r : RailReading) : Verdict :=
  if !r.judged then ⟨m, none, none⟩
  else if r.span.contains r.millivolts then
    if m.isAlarmed rail then
      ⟨⟨m.alarmed.filter (· ≠ rail)⟩, none, some (.railBackInSpan rail r.millivolts)⟩
    else ⟨m, none, none⟩
  else
    let alarm : RailAlarm := ⟨rail, r.millivolts, r.span⟩
    if m.isAlarmed rail then ⟨m, some alarm, none⟩
    else ⟨⟨rail :: m.alarmed⟩, some alarm, some (.railOutOfSpan rail r.millivolts r.span)⟩

/-- Reads and judges the rails of a list, in order. -/
def scanOver : List Rail → RailMonitor → Program (List RailAlarm × RailMonitor)
  | [], m => pure ([], m)
  | rail :: rest, m => do
    match ← Program.device (.rail rail) with
    | .error e =>
      Program.tell (.railUnreadable rail e)
      scanOver rest m
    | .ok r =>
      let v := m.judge rail r
      Program.tellAll v.notice.toList
      let (alarms, last) ← scanOver rest v.monitor
      return (v.alarm.toList ++ alarms, last)

def scan (m : RailMonitor) : Program (List RailAlarm × RailMonitor) :=
  scanOver Rail.all m

end RailMonitor

end SwitchThermal
