import SwitchThermal.Board.Query

/-!
# Registers in memory

A register file without hardware, for bench runs. A register holds what was last written to it,
whatever the width; one that was never written reads `0xff`. Accesses to chosen offsets can be made
to fail.

* `MemoryRegisters` — the registers, the failing offsets and the record of the writes.
* `MemoryRegisters.get`, `MemoryRegisters.set` — a register without a recorded access.
* `MemoryRegisters.bus` — the registers as a handler.
-/

set_option autoImplicit false

namespace SwitchThermal

/-- A recorded write. -/
structure RegisterWrite where
  base : Nat
  offset : Nat
  value : Nat
  deriving DecidableEq, Repr

/-- Registers in memory. -/
structure MemoryRegisters where
  /-- The values by base and offset; of two values of one register the first counts. -/
  values : List ((Nat × Nat) × Nat) := []
  failing : List Nat := []
  /-- The writes that succeeded, in order. -/
  writes : List RegisterWrite := []
  deriving DecidableEq, Repr

namespace MemoryRegisters

def fresh : MemoryRegisters := {}

def get (m : MemoryRegisters) (base offset : Nat) : Nat :=
  (m.values.lookup (base, offset)).getD 0xff

/-- The registers with one value replaced. -/
def set (m : MemoryRegisters) (base offset value : Nat) : MemoryRegisters :=
  { m with values := ((base, offset), value) :: m.values.filter fun e => e.1 ≠ (base, offset) }

/-- The registers with accesses to an offset failing. -/
def failAt (m : MemoryRegisters) (offset : Nat) : MemoryRegisters :=
  { m with failing := offset :: m.failing }

def read (m : MemoryRegisters) (base offset width : Nat) : Except Fault Nat := do
  checkWidth width
  if offset ∈ m.failing then .error (.unreadableRegister base offset .injected)
  else .ok (m.get base offset)

/-- Writes a register and records it. -/
def write (m : MemoryRegisters) (base offset width value : Nat) : Except Fault MemoryRegisters := do
  checkWidth width
  if offset ∈ m.failing then .error (.unwritableRegister base offset value .injected)
  else .ok { m.set base offset value with writes := m.writes ++ [⟨base, offset, value⟩] }

def bus : RegisterBus MemoryRegisters
  | .read base offset width, m => .quiet (m.read base offset width) m
  | .write base offset width value, m =>
    match m.write base offset width value with
    | .ok m => .quiet (.ok ()) m
    | .error e => .quiet (.error e) m

end MemoryRegisters

end SwitchThermal
