import SwitchThermal.Text.Utf8

/-!
# Runs of equal bytes

The content of a file as runs: how often, and which byte. A long stretch of one byte, such as the
gap that a write past the end of a file leaves, is one run.

* `Runs.toBytes` — the bytes that the runs stand for; everything else is stated through it.
* `Runs.size`, `Runs.take`, `Runs.drop` — length, start and end of the bytes, without spelling them
  out.
* `Runs.overwrite` — bytes written at an address; a gap past the end is filled with zeros.
* `Runs.slice?` — the bytes at an address, if there are enough of them.
-/

set_option autoImplicit false

namespace SwitchThermal

open Text (Bytes)

/-- Bytes as runs: how often, and which byte. -/
abbrev Runs := List (Nat × UInt8)

namespace Runs

/-- The bytes of the runs. -/
def toBytes (r : Runs) : Bytes :=
  r.flatMap fun e => List.replicate e.1 e.2

/-- Bytes as runs of one each. -/
def ofBytes (bs : Bytes) : Runs :=
  bs.map fun b => (1, b)

/-- The number of bytes. -/
def size : Runs → Nat
  | [] => 0
  | (c, _) :: rest => c + size rest

/-- The first bytes. -/
def take : Nat → Runs → Runs
  | _, [] => []
  | n, (c, b) :: rest => if n ≤ c then [(n, b)] else (c, b) :: take (n - c) rest

/-- All but the first bytes. -/
def drop : Nat → Runs → Runs
  | _, [] => []
  | n, (c, b) :: rest => if n < c then (c - n, b) :: rest else drop (n - c) rest

/-- The content with bytes written at an address. -/
def overwrite (r : Runs) (address : Nat) (bytes : Bytes) : Runs :=
  r.take address ++ [(address - r.size, 0)] ++ ofBytes bytes ++ r.drop (address + bytes.length)

/-- The bytes at an address, if the content reaches that far. -/
def slice? (r : Runs) (address width : Nat) : Option Bytes :=
  let bytes := ((r.drop address).take width).toBytes
  if bytes.length = width then some bytes else none

theorem toBytes_ofBytes (bs : Bytes) : (ofBytes bs).toBytes = bs := by
  induction bs with
  | nil => rfl
  | cons b rest ih => simpa [toBytes, ofBytes] using ih

theorem toBytes_append (r q : Runs) : toBytes (r ++ q) = toBytes r ++ toBytes q :=
  List.flatMap_append

theorem toBytes_cons (c : Nat) (b : UInt8) (r : Runs) :
    toBytes ((c, b) :: r) = List.replicate c b ++ toBytes r := rfl

theorem length_toBytes (r : Runs) : r.toBytes.length = r.size := by
  induction r with
  | nil => rfl
  | cons e rest ih =>
    obtain ⟨c, b⟩ := e
    simp [toBytes_cons, size, ih]

theorem toBytes_take (n : Nat) (r : Runs) : (r.take n).toBytes = r.toBytes.take n := by
  induction r generalizing n with
  | nil => simp [take, toBytes]
  | cons e rest ih =>
    obtain ⟨c, b⟩ := e
    rw [take]
    split
    · rename_i h
      simp [toBytes, List.take_append, List.take_replicate, Nat.min_eq_left h,
        Nat.sub_eq_zero_of_le h]
    · rename_i h
      rw [toBytes_cons, toBytes_cons, ih, List.take_append, List.take_replicate,
        Nat.min_eq_right (by omega), List.length_replicate]

theorem toBytes_drop (n : Nat) (r : Runs) : (r.drop n).toBytes = r.toBytes.drop n := by
  induction r generalizing n with
  | nil => simp [drop, toBytes]
  | cons e rest ih =>
    obtain ⟨c, b⟩ := e
    rw [drop]
    split
    · rename_i h
      rw [toBytes_cons, toBytes_cons, List.drop_append, List.drop_replicate,
        List.length_replicate, Nat.sub_eq_zero_of_le (Nat.le_of_lt h), List.drop_zero]
    · rename_i h
      rw [toBytes_cons, ih, List.drop_append, List.drop_replicate, List.length_replicate,
        Nat.sub_eq_zero_of_le (Nat.le_of_not_lt h), List.replicate_zero, List.nil_append]

theorem toBytes_overwrite (r : Runs) (address : Nat) (bytes : Bytes) :
    (r.overwrite address bytes).toBytes =
      r.toBytes.take address ++ List.replicate (address - r.toBytes.length) 0 ++ bytes ++
        r.toBytes.drop (address + bytes.length) := by
  simp only [overwrite, toBytes_append, toBytes_take, toBytes_drop, toBytes_ofBytes,
    length_toBytes]
  simp [toBytes]

end Runs

end SwitchThermal
