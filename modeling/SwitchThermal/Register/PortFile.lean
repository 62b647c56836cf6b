import SwitchThermal.Board.Query
import SwitchThermal.FileTree

/-!
# Registers in a port file

The bytes of a device file are the registers, at the sum of base and offset, least significant byte
first.

* `littleEndian`, `ofLittleEndian` — a number as bytes and back.
* `PortFile.read`, `PortFile.write` — the accesses. A read past the end fails, a write extends the
  file.
* `PortFile.bus` — the accesses as a handler over the file tree.
-/

set_option autoImplicit false

namespace SwitchThermal

open Text (Bytes)

/-! ## Bytes -/

/-- The low bytes of a number, least significant first. -/
def littleEndian (width value : Nat) : Bytes :=
  match width with
  | 0 => []
  | w + 1 => UInt8.ofNat (value % 256) :: littleEndian w (value / 256)

/-- The number that bytes denote, least significant first. -/
def ofLittleEndian : Bytes → Nat
  | [] => 0
  | b :: rest => b.toNat + 256 * ofLittleEndian rest

namespace PortFile

/-! ## Accesses -/

/-- The value of a register in the content of a port file. -/
def value (content : Runs) (address width : Nat) : Except AccessFault Nat :=
  match content.slice? address width with
  | some bytes => .ok (ofLittleEndian bytes)
  | none => .error (.readDevice .short)

/-- The value of a register in a port file. -/
def readValue (t : FileTree) (path : TreePath) (address width : Nat) : Except AccessFault Nat :=
  match t.look path with
  | .error e => .error (.openDevice path.text e)
  | .ok .directory => .error (.readDevice (.system .isADirectory))
  | .ok (.file content _) => value content address width
  | .ok .program => value [] address width

/-- Reads a register from a port file. -/
def read (t : FileTree) (path : TreePath) (base offset width : Nat) : Except Fault Nat := do
  checkWidth width
  match readValue t path (base + offset) width with
  | .ok value => .ok value
  | .error e => .error (.unreadableRegister base offset e)

/-- The tree with bytes written into a port file, which must be there. -/
def writeBytes (t : FileTree) (path : TreePath) (address : Nat) (bytes : Bytes) :
    Except StreamFault FileTree :=
  match t.locate path with
  | .error e => .error e
  | .ok p =>
    match t.node? p with
    | none => .error (.system .notFound)
    | some .directory => .error (.system .isADirectory)
    | some (.file content executable) =>
      .ok (t.setNode p (.file (content.overwrite address bytes) executable))
    | some .program => .ok (t.setNode p (.file (Runs.overwrite [] address bytes) true))

/-- Writes a register to a port file. -/
def write (t : FileTree) (path : TreePath) (base offset width value : Nat) :
    Except Fault FileTree := do
  checkWidth width
  match writeBytes t path (base + offset) (littleEndian width value) with
  | .ok t => .ok t
  | .error e => .error (.unwritableRegister base offset value (.openDevice path.text e))

/-- The registers of a port file as a handler. -/
def bus (path : TreePath) : RegisterBus FileTree
  | .read base offset width, t =>
    match read t path base offset width with
    | .ok value => ⟨.ok value, [.portRead base offset value], t⟩
    | .error e => .quiet (.error e) t
  | .write base offset width value, t =>
    match write t path base offset width value with
    | .ok t => ⟨.ok (), [.portWritten base offset value], t⟩
    | .error e => .quiet (.error e) t

end PortFile

end SwitchThermal
