import SwitchThermal.Notice

/-!
# Queries to the board

Everything that the control loop can ask of its surroundings, and what a board is.

* `DeviceQuery`, `RegisterQuery`, `Query` — the accesses; `Payload` is what a successful one yields.
* `Handler` — answers for one kind of access, over a state of its own; a handler may give notices
  too.
* `Handler.focus` — a handler over a part of a larger state.
* `Board` — a handler for every access; `Board.assemble` puts one together from its parts.
-/

set_option autoImplicit false

namespace SwitchThermal

/-! ## Accesses -/

/-- Accesses to fans, sensors, supplies, rails and LEDs. -/
inductive DeviceQuery where
  | fan (f : Fan)
  | sensor (s : Sensor)
  | supply (p : PowerSupply)
  | rail (r : Rail)
  | setFan (f : Fan) (percentage : Nat)
  | setLed (led : Led) (mode : LedMode)
  deriving DecidableEq, Repr

/-- What a successful device access yields. -/
@[reducible] def DeviceQuery.Payload : DeviceQuery → Type
  | fan _ => FanReading
  | sensor _ => SensorReading
  | supply _ => SupplyReading
  | rail _ => RailReading
  | setFan .. => Unit
  | setLed .. => Unit

/-- Accesses to registers, at an offset from a base address. -/
inductive RegisterQuery where
  | read (base offset width : Nat)
  | write (base offset width value : Nat)
  deriving DecidableEq, Repr

/-- What a successful register access yields. -/
@[reducible] def RegisterQuery.Payload : RegisterQuery → Type
  | read .. => Nat
  | write .. => Unit

/-- All accesses. -/
inductive Query where
  /-- The text of the control file. -/
  | controlFile (path : String)
  | register (q : RegisterQuery)
  | device (q : DeviceQuery)
  deriving DecidableEq, Repr

/-- What a successful access yields. -/
@[reducible] def Query.Payload : Query → Type
  | controlFile _ => String
  | register q => q.Payload
  | device q => q.Payload

/-! ## Boards -/

/-- What a handler gives back: the answer, notices, and its next state. -/
structure Reply (σ α : Type) where
  answer : Except Fault α
  notices : List Notice
  next : σ

/-- A reply without notices. -/
def Reply.quiet {σ α : Type} (answer : Except Fault α) (next : σ) : Reply σ α :=
  ⟨answer, [], next⟩

/-- Answers for one kind of access, over a state. -/
abbrev Handler (ι : Type) (P : ι → Type) (σ : Type) := (q : ι) → σ → Reply σ (P q)

/-- The handler over a part of a larger state. -/
def Handler.focus {ι : Type} {P : ι → Type} {σ τ : Type} (get : τ → σ) (put : τ → σ → τ)
    (h : Handler ι P σ) : Handler ι P τ := fun q t =>
  let r := h q (get t)
  ⟨r.answer, r.notices, put t r.next⟩

/-- Answers to device accesses. -/
abbrev Devices (σ : Type) := Handler DeviceQuery DeviceQuery.Payload σ

/-- Answers to register accesses. -/
abbrev RegisterBus (σ : Type) := Handler RegisterQuery RegisterQuery.Payload σ

/-- Answers to all accesses. -/
abbrev Board (σ : Type) := Handler Query Query.Payload σ

/-- The board with the given devices, registers and control files. -/
def Board.assemble {σ : Type} (devices : Devices σ) (bus : RegisterBus σ)
    (controlFile : String → σ → Except Fault String) : Board σ
  | .controlFile path, s => .quiet (controlFile path s) s
  | .register q, s => bus q s
  | .device q, s => devices q s

/-- Registers are one to four bytes wide. -/
def checkWidth (width : Nat) : Except Fault Unit :=
  if 1 ≤ width ∧ width ≤ 4 then .ok () else .error (.registerWidth width)

end SwitchThermal
