import SwitchThermal.Board.Program
import SwitchThermal.Control.Speed

/-!
# Steps of a control pass

Programs with a control state that may stop early. What was written to the state before a stop
stays.

* `Halt` — why a pass stops: a fault, or an overflow.
* `Pass` — the steps; `Pass.tell`, `Pass.ask`, `Pass.need`, `Pass.perform` and `Pass.bounded` are
  the basic ones.
* `Pass.runOn` — a step on a board, from a state.
-/

set_option autoImplicit false

namespace SwitchThermal

/-- Why a control pass stops early. -/
inductive Halt where
  | fault (e : Fault)
  | overflow (e : Overflow)
  deriving DecidableEq, Repr

/-- Programs with a control state that may stop early. -/
abbrev Pass := ExceptT Halt (StateT ControlState Program)

namespace Pass

variable {α σ : Type}

/-- A program as a step. -/
def ofProgram (p : Program α) : Pass α :=
  ExceptT.lift (StateT.lift p)

def tell (n : Notice) : Pass Unit :=
  ofProgram (Program.tell n)

def tellAll (ns : List Notice) : Pass Unit :=
  ofProgram (Program.tellAll ns)

def ask (q : DeviceQuery) : Pass (Except Fault q.Payload) :=
  ofProgram (Program.device q)

/-- Stops with a fault. -/
def fail (e : Fault) : Pass α :=
  throw (.fault e)

/-- Makes a device access and stops, with a notice, if it fails. -/
def need (q : DeviceQuery) (notice : Fault → Notice) : Pass q.Payload := do
  match ← ask q with
  | .ok a => return a
  | .error e =>
    tell (notice e)
    fail e

/-- Performs an action and stops if it fails. -/
def perform (a : Action α) : Pass α := do
  match ← ofProgram a.run with
  | .ok a => return a
  | .error e => fail e

/-- The value of a bounded computation; stops on overflow. -/
def bounded (r : Except Overflow α) : Pass α :=
  match r with
  | .ok a => pure a
  | .error e => throw (.overflow e)

/-- A step on a board: the result, the control state after it, the board's state and the trace. -/
def runOn (b : Board σ) (p : Pass α) (s : ControlState) (w : σ) :
    Outcome σ (Except Halt α × ControlState) :=
  Program.run b (p.run.run s) w

end Pass

end SwitchThermal
