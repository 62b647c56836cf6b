import SwitchThermal.Board.Program

/-!
# Watchdog and shutdown latch

The board's watchdog forces the fans to full speed when it is not reset in time. The shutdown latch
is one-way: only a power cycle releases it.

* `Watchdog.arm` — sets timeout and action, lifts the write protection and starts the timer, in this
  order.
* `Watchdog.refresh` — resets the timer.
* `Watchdog.latched` — has the shutdown latched? Bit 2 of the status register is clear once it has.
* `Watchdog.latch` — lifts the protection and latches the shutdown.

Each stops at its first failing access.
-/

set_option autoImplicit false

namespace SwitchThermal.Watchdog

/-! ## Registers -/

/-- The base address of the board's registers. -/
def base : Nat := 0x2500

/-- The width of every access. -/
def width : Nat := 1

/-- The offset of the board status. -/
def statusOffset : Nat := 0x2e

/-- The offset of the write protection of the status. -/
def protectOffset : Nat := 0x2f

/-- The offset of the timer. -/
def clearOffset : Nat := 0xc7

/-- The offset of the write protection of the timer. -/
def clearProtectOffset : Nat := 0xc8

/-- The offset of the timeout, a power of two in milliseconds. -/
def timeoutOffset : Nat := 0xc9

/-- The offset of the action on expiry. -/
def actionOffset : Nat := 0xcb

/-- A write to a register of the board. -/
def writeQuery (offset value : Nat) : RegisterQuery :=
  .write base offset width value

/-- The read of the board status. -/
def statusQuery : RegisterQuery :=
  .read base statusOffset width

/-- The write that resets the timer. -/
def refreshQuery : RegisterQuery :=
  writeQuery clearOffset 0x01

/-- The writes that arm the watchdog, in order: 2¹⁴ ms, full speed on expiry, unprotect, start. -/
def armQueries : List RegisterQuery :=
  [writeQuery timeoutOffset 14, writeQuery actionOffset 0x90, writeQuery clearProtectOffset 0xee,
   writeQuery clearOffset 0x11]

/-- The writes that latch the shutdown, in order. -/
def latchQueries : List RegisterQuery :=
  [writeQuery protectOffset 0xfb, writeQuery statusOffset 0xfb]

/-- Does a status value say that the shutdown has latched? -/
def isLatched (status : Nat) : Bool :=
  !status.testBit 2

/-! ## Actions -/

def arm : Action Unit := do
  Action.register (writeQuery timeoutOffset 14)
  Action.register (writeQuery actionOffset 0x90)
  Action.register (writeQuery clearProtectOffset 0xee)
  Action.register (writeQuery clearOffset 0x11)
  Action.tell .watchdogArmed

def refresh : Action Unit := do
  Action.tell .watchdogReset
  Action.register refreshQuery

def latched : Action Bool := do
  let status ← Action.register statusQuery
  return isLatched status

def latch : Action Unit := do
  Action.register (writeQuery protectOffset 0xfb)
  Action.register (writeQuery statusOffset 0xfb)

end SwitchThermal.Watchdog
