import Mathlib.Algebra.Group.Nat.Defs
import SwitchThermal.Proofs.AttributeFiles
import SwitchThermal.Register.PortFile

/-!
# Registers in a port file

What reads and writes of a port file come to in terms of its bytes.

* `ofLittleEndian_littleEndian` — a number that is written and read with one width is cut to it.
* `Written` — the bytes of a file after a number has been written over them.
  `Written.getElem?_eq` gives each of them, and `Written.byte` those after a single byte.
* `PortFile.read_file`, `PortFile.write_file` — a read within the file succeeds, and so does a
  write; `PortFile.read_byte` — the register at a byte.
-/

set_option autoImplicit false

namespace SwitchThermal

open Text (Bytes)

/-! ## Numbers as bytes -/

theorem length_littleEndian (width value : Nat) : (littleEndian width value).length = width := by
  induction width generalizing value with
  | zero => rfl
  | succ w ih => simp [littleEndian, ih]

theorem ofLittleEndian_littleEndian (width value : Nat) :
    ofLittleEndian (littleEndian width value) = value % 256 ^ width := by
  induction width generalizing value with
  | zero => simp [littleEndian, ofLittleEndian, Nat.mod_one]
  | succ w ih =>
    have low : (UInt8.ofNat (value % 256)).toNat = value % 256 := by
      simp [UInt8.toNat_ofNat']
    rw [littleEndian, ofLittleEndian, ih, low, Nat.pow_succ', Nat.mod_mul]

theorem getElem?_littleEndian (width value i : Nat) :
    (littleEndian width value)[i]? =
      if i < width then some (UInt8.ofNat (value / 256 ^ i)) else none := by
  induction width generalizing value i with
  | zero => simp [littleEndian]
  | succ w ih =>
    cases i with
    | zero =>
      have low : UInt8.ofNat (value % 256) = UInt8.ofNat value := by
        apply UInt8.toNat_inj.1
        simp [UInt8.toNat_ofNat']
      simp [littleEndian, low]
    | succ i =>
      have quotient : value / 256 / 256 ^ i = value / 256 ^ (i + 1) := by
        rw [Nat.div_div_eq_div_mul, Nat.pow_succ']
      simp [littleEndian, ih, quotient]

/-! ## Bytes in place -/

namespace Runs

variable {r : Runs} {address width : Nat}

theorem slice?_of_reach (reach : address + width ≤ r.size) :
    r.slice? address width = some ((r.toBytes.drop address).take width) := by
  have long : ((r.toBytes.drop address).take width).length = width := by
    have size := length_toBytes r
    simp
    omega
  unfold slice?
  rw [toBytes_take, toBytes_drop, if_pos long]

/-- The bytes of a single run are all the same. -/
theorem getElem?_single {count : Nat} {v : UInt8} {i : Nat} (h : i < count) :
    (toBytes [(count, v)])[i]? = some v := by
  simp [toBytes, h]

end Runs

/-! ## Bytes that are written over -/

/-- The bytes of a file after a number has been written over them: its low bytes stand at the
address, zeros fill a gap before it, and all other bytes are kept. -/
structure Written (old : Bytes) (address width value : Nat) (new : Bytes) : Prop where
  size : new.length = max old.length (address + width)
  here : ∀ i, address ≤ i → i < address + width →
    new[i]? = some (UInt8.ofNat (value / 256 ^ (i - address)))
  kept : ∀ i < old.length, i < address ∨ address + width ≤ i → new[i]? = old[i]?
  gap : ∀ i, old.length ≤ i → i < address → new[i]? = some 0

theorem Runs.written_overwrite (r : Runs) (address width value : Nat) :
    Written r.toBytes address width value
      (r.overwrite address (littleEndian width value)).toBytes := by
  have long := length_littleEndian width value
  -- what stands before the address has its length, whether it has been filled up or cut
  have before : (r.toBytes.take address ++
      List.replicate (address - r.toBytes.length) (0 : UInt8)).length = address := by
    simp
    omega
  rw [toBytes_overwrite, long]
  refine ⟨?size, ?here, ?kept, ?gap⟩
  case size =>
    simp [long]
    omega
  case here =>
    intro i from_address to_end
    rw [List.append_assoc, List.getElem?_append_right (by omega), before,
      List.getElem?_append_left (by omega), getElem?_littleEndian, if_pos (by omega)]
  case kept =>
    intro i within outside
    by_cases low : i < address
    · rw [List.append_assoc, List.append_assoc, List.getElem?_append_left (by simp; omega),
        List.getElem?_take, if_pos low]
    · rw [List.getElem?_append_right (by simp [long]; omega), List.getElem?_drop]
      congr 1
      simp [long]
      omega
  case gap =>
    intro i past low
    rw [List.append_assoc, List.getElem?_append_left (by omega),
      List.getElem?_append_right (by simp; omega), List.getElem?_replicate, if_pos]
    simp
    omega

namespace Written

variable {old new : Bytes} {address width value : Nat}

/-- Each byte after the write. -/
theorem getElem?_eq (h : Written old address width value new) (i : Nat) :
    new[i]? = if address ≤ i ∧ i < address + width then
        some (UInt8.ofNat (value / 256 ^ (i - address)))
      else if i < old.length then old[i]? else if i < address then some 0 else none := by
  split
  · rename_i inside
    exact h.here i inside.1 inside.2
  · rename_i outside
    split
    · rename_i within
      exact h.kept i within (by omega)
    · rename_i past
      split
      · rename_i low
        exact h.gap i (by omega) low
      · have size := h.size
        exact List.getElem?_eq_none (by omega)

/-- The bytes after a register of one byte has been written within the file. -/
theorem byte (h : Written old address 1 value new) (inside : address < old.length) (i : Nat) :
    new[i]? = if i = address then some (UInt8.ofNat value) else old[i]? := by
  by_cases here : i = address
  · rw [if_pos here, h.here i (by omega) (by omega), here, Nat.sub_self, Nat.pow_zero, Nat.div_one]
  · rw [if_neg here, h.getElem?_eq, if_neg (by omega)]
    split
    · rfl
    · rename_i past
      rw [if_neg (by omega), List.getElem?_eq_none (by omega)]

end Written

/-! ## Accesses -/

namespace PortFile

variable {t : FileTree} {path : TreePath} {content : Runs} {executable : Bool}
  {base offset width : Nat}

/-- A read within a port file succeeds. -/
theorem read_file (file : t.look path = .ok (.file content executable))
    (allowed : 1 ≤ width ∧ width ≤ 4) (reach : base + offset + width ≤ content.size) :
    read t path base offset width =
      .ok (ofLittleEndian ((content.toBytes.drop (base + offset)).take width)) := by
  have found : readValue t path (base + offset) width =
      .ok (ofLittleEndian ((content.toBytes.drop (base + offset)).take width)) := by
    rw [readValue, file]
    simp only [value, Runs.slice?_of_reach reach]
  rw [read, checkWidth, if_pos allowed, found]
  rfl

/-- A write to a port file succeeds, and overwrites its bytes. -/
theorem write_file (file : t.look path = .ok (.file content executable))
    (allowed : 1 ≤ width ∧ width ≤ 4) (value : Nat) :
    ∃ t', write t path base offset width value = .ok t' ∧ t'.look path =
      .ok (.file (content.overwrite (base + offset) (littleEndian width value)) executable) := by
  obtain ⟨p, located, node⟩ := FileTree.look_eq_ok_iff.1 file
  have aside : t.node? p ≠ some .directory := by
    rw [node]
    nofun
  refine ⟨_, ?_, FileTree.look_setNode located aside _⟩
  have written : writeBytes t path (base + offset) (littleEndian width value) =
      .ok (t.setNode p
        (.file (content.overwrite (base + offset) (littleEndian width value)) executable)) := by
    rw [writeBytes, located]
    simp only [node]
  rw [write, checkWidth, if_pos allowed, written]
  rfl

/-- The register at a byte of a port file. -/
theorem read_byte {v : UInt8} (file : t.look path = .ok (.file content executable))
    (byte : content.toBytes[base + offset]? = some v) : read t path base offset 1 = .ok v.toNat := by
  obtain ⟨within, here⟩ := List.getElem?_eq_some_iff.1 byte
  have reach : base + offset + 1 ≤ content.size := by
    rw [← Runs.length_toBytes]
    omega
  rw [read_file file (by decide) reach, List.drop_eq_getElem_cons within, here]
  simp [ofLittleEndian]

end PortFile

end SwitchThermal
