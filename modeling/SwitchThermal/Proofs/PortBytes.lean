import SwitchThermal.Proofs.PortRegisters

/-!
# The bytes of a port file

What reads and writes of registers come to on a plain file, byte by byte, wherever the registers
are: within the file, at its end or past it.

* `numberAt` — the number at an address. `Written.numberAt_self`, `Written.numberAt_apart` and
  `Written.numberAt_before` say what becomes of it in a write.
* `PlainFile` — a path leads to a file with these bytes. `PlainFile.read_iff` and `PlainFile.write`
  are the two accesses.
* `Apart` — ranges of bytes that do not overlap. `Written.comm` says that writes to such ranges may
  change places.
* `PortAccess`, `port_accesses` — the laws of reading and writing.
* `gap_read_after_write` — a write past the end of a file makes a register before it readable.
-/

set_option autoImplicit false

namespace SwitchThermal

open Text (Bytes)

/-! ## Numbers at an address -/

theorem ofLittleEndian_lt (bytes : Bytes) : ofLittleEndian bytes < 256 ^ bytes.length := by
  induction bytes with
  | nil => simp [ofLittleEndian]
  | cons b rest ih =>
    have low : b.toNat < 256 := b.toNat_lt
    rw [ofLittleEndian, List.length_cons, Nat.pow_succ]
    omega

/-- The number that the bytes at an address denote, least significant first. -/
def numberAt (bytes : Bytes) (address width : Nat) : Nat :=
  ofLittleEndian ((bytes.drop address).take width)

theorem numberAt_lt (bytes : Bytes) (address width : Nat) :
    numberAt bytes address width < 256 ^ width := by
  have short : ((bytes.drop address).take width).length ≤ width := List.length_take_le _ _
  calc numberAt bytes address width < 256 ^ ((bytes.drop address).take width).length :=
        ofLittleEndian_lt _
    _ ≤ 256 ^ width := Nat.pow_le_pow_right (by decide) short

/-- Only the bytes at the address count. -/
theorem numberAt_congr {old new : Bytes} {address width : Nat}
    (same : ∀ i, address ≤ i → i < address + width → new[i]? = old[i]?) :
    numberAt new address width = numberAt old address width := by
  have bytes : (new.drop address).take width = (old.drop address).take width := by
    apply List.ext_getElem?
    intro k
    rw [List.getElem?_take, List.getElem?_take, List.getElem?_drop, List.getElem?_drop]
    split
    · exact same (address + k) (by omega) (by omega)
    · rfl
  rw [numberAt, bytes, numberAt]

/-- A number is found where its bytes are. -/
theorem numberAt_of_bytes {bytes : Bytes} {address width value : Nat}
    (here : ∀ i, address ≤ i → i < address + width →
      bytes[i]? = some (UInt8.ofNat (value / 256 ^ (i - address)))) :
    numberAt bytes address width = value % 256 ^ width := by
  have found : (bytes.drop address).take width = littleEndian width value := by
    apply List.ext_getElem?
    intro k
    rw [List.getElem?_take, List.getElem?_drop, getElem?_littleEndian]
    split
    · rw [here (address + k) (by omega) (by omega), Nat.add_sub_cancel_left]
    · rfl
  rw [numberAt, found, ofLittleEndian_littleEndian]

/-! ## Numbers after a write -/

/-- Two ranges of bytes do not overlap. -/
def Apart (a w b u : Nat) : Prop := a + w ≤ b ∨ b + u ≤ a

/-- A file that is filled up with zeros. -/
def padded (bytes : Bytes) (size : Nat) : Bytes :=
  bytes ++ List.replicate (size - bytes.length) 0

namespace Written

variable {old : Bytes} {a w v b u z : Nat}

/-- What is written reads back, cut to its width. -/
theorem numberAt_self {new : Bytes} (h : Written old a w v new) :
    numberAt new a w = v % 256 ^ w :=
  numberAt_of_bytes h.here

/-- Within the file, a write changes no number that is apart from it. -/
theorem numberAt_apart {new : Bytes} (h : Written old a w v new) (apart : Apart a w b u)
    (within : b + u ≤ old.length) : numberAt new b u = numberAt old b u := by
  refine numberAt_congr fun i low high => h.kept i (by omega) ?_
  unfold Apart at apart
  omega

/-- Before the address it leaves what has been there, and zeros. -/
theorem numberAt_before {new : Bytes} (h : Written old a w v new) (before : b + u ≤ a) :
    numberAt new b u = numberAt (padded old a) b u := by
  refine numberAt_congr fun i low high => ?_
  unfold padded
  by_cases within : i < old.length
  · rw [h.kept i within (by omega), List.getElem?_append_left within]
  · rw [h.gap i (by omega) (by omega), List.getElem?_append_right (by omega),
      List.getElem?_replicate, if_pos (by omega)]

/-- Two writes that are apart may change places. -/
theorem comm {new new' final final' : Bytes} (apart : Apart a w b u)
    (first : Written old a w v new) (second : Written new b u z final)
    (first' : Written old b u z new') (second' : Written new' a w v final') : final = final' := by
  have size := first.size
  have size' := first'.size
  unfold Apart at apart
  apply List.ext_getElem?
  intro i
  rw [second.getElem?_eq, second'.getElem?_eq, first.getElem?_eq, first'.getElem?_eq]
  by_cases inA : a ≤ i ∧ i < a + w
  · rw [if_neg (by omega), if_pos (by omega), if_pos inA, if_pos inA]
  · by_cases inB : b ≤ i ∧ i < b + u
    · rw [if_pos inB, if_neg inA, if_pos (by omega), if_pos inB]
    · rw [if_neg inB, if_neg inA, if_neg inA, if_neg inB]
      grind

end Written

/-! ## Accesses -/

/-- A path leads to a file with these bytes. -/
def PlainFile (t : FileTree) (path : TreePath) (bytes : Bytes) : Prop :=
  ∃ content executable, t.look path = .ok (.file content executable) ∧ content.toBytes = bytes

namespace PortFile

variable {t : FileTree} {path : TreePath} {bytes : Bytes} {base offset width value : Nat}

/-- The answer to a read. -/
abbrev readAnswer (path : TreePath) (base offset width : Nat) (t : FileTree) : Except Fault Nat :=
  (bus path (.read base offset width) t).answer

/-- The answer to a write. -/
abbrev writeAnswer (path : TreePath) (base offset width value : Nat) (t : FileTree) :
    Except Fault Unit :=
  (bus path (.write base offset width value) t).answer

/-- The tree after a write. -/
abbrev afterWrite (path : TreePath) (base offset width value : Nat) (t : FileTree) : FileTree :=
  (bus path (.write base offset width value) t).next

theorem readAnswer_eq (path : TreePath) (base offset width : Nat) (t : FileTree) :
    readAnswer path base offset width t = read t path base offset width := by
  unfold readAnswer bus
  cases found : read t path base offset width with
  | ok v => simp only [found]
  | error e => simp only [found, Reply.quiet]

/-- A read changes nothing. -/
theorem next_read (path : TreePath) (base offset width : Nat) (t : FileTree) :
    (bus path (.read base offset width) t).next = t := by
  unfold bus
  cases found : read t path base offset width with
  | ok v => simp only [found]
  | error e => simp only [found, Reply.quiet]

/-- A read past the end of the file fails. -/
theorem read_past {content : Runs} {executable : Bool}
    (file : t.look path = .ok (.file content executable)) (allowed : 1 ≤ width ∧ width ≤ 4)
    (past : content.size < base + offset + width) :
    read t path base offset width = .error (.unreadableRegister base offset (.readDevice .short)) := by
  have short : content.slice? (base + offset) width = none := by
    have length : ((content.toBytes.drop (base + offset)).take width).length ≠ width := by
      have size := Runs.length_toBytes content
      simp
      omega
    unfold Runs.slice?
    rw [Runs.toBytes_take, Runs.toBytes_drop]
    exact if_neg length
  have missed : readValue t path (base + offset) width = .error (.readDevice .short) := by
    rw [readValue, file]
    simp only [PortFile.value, short]
  rw [read, checkWidth, if_pos allowed, missed]
  rfl

end PortFile

namespace PlainFile

open PortFile

variable {t : FileTree} {path : TreePath} {bytes : Bytes} {width : Nat}

/-- A read succeeds if the file reaches that far, and yields the number at the address. -/
theorem read_iff (h : PlainFile t path bytes) (allowed : 1 ≤ width ∧ width ≤ 4)
    (base offset v : Nat) : readAnswer path base offset width t = .ok v ↔
      base + offset + width ≤ bytes.length ∧ v = numberAt bytes (base + offset) width := by
  obtain ⟨content, executable, file, rfl⟩ := h
  rw [readAnswer_eq, Runs.length_toBytes]
  by_cases reach : base + offset + width ≤ content.size
  · rw [read_file file allowed reach, Except.ok.injEq]
    simp [reach, numberAt, eq_comm]
  · rw [read_past file allowed (Nat.not_le.1 reach)]
    simp [reach]

theorem read_fails (h : PlainFile t path bytes) (allowed : 1 ≤ width ∧ width ≤ 4)
    {base offset : Nat} (past : bytes.length < base + offset + width) :
    ∃ e, readAnswer path base offset width t = .error e := by
  cases found : readAnswer path base offset width t with
  | ok v =>
    have reach := ((h.read_iff allowed base offset v).1 found).1
    omega
  | error e => exact ⟨e, rfl⟩

/-- A write succeeds, and leaves a file with the number written over its bytes. -/
theorem write (h : PlainFile t path bytes) (allowed : 1 ≤ width ∧ width ≤ 4)
    (base offset value : Nat) :
    writeAnswer path base offset width value t = .ok () ∧
      ∃ new, PlainFile (afterWrite path base offset width value t) path new ∧
        Written bytes (base + offset) width value new := by
  obtain ⟨content, executable, file, rfl⟩ := h
  obtain ⟨t', written, file'⟩ : ∃ t', PortFile.write t path base offset width value = .ok t' ∧
      t'.look path = .ok
        (.file (content.overwrite (base + offset) (littleEndian width value)) executable) :=
    write_file file allowed value
  have reply : bus path (.write base offset width value) t =
      ⟨.ok (), [.portWritten base offset value], t'⟩ := by
    simp only [bus, written]
  rw [writeAnswer, afterWrite, reply]
  exact ⟨rfl, _, ⟨_, executable, file', rfl⟩, Runs.written_overwrite content _ width value⟩

end PlainFile

/-! ## The laws of the accesses -/

section Laws

open PortFile

variable {t : FileTree} {path : TreePath} {bytes : Bytes} {base offset width value : Nat}
  {base' offset' width' value' : Nat}

/-- What two accesses that are apart have to do with each other: a write at the first place, and an
access at the second one. -/
structure ApartAccesses (t : FileTree) (path : TreePath) (bytes : Bytes)
    (base offset width value base' offset' width' value' : Nat) : Prop where
  /-- Within the file, the write does not change what is read. -/
  within : base' + offset' + width' ≤ bytes.length →
    readAnswer path base' offset' width' (afterWrite path base offset width value t) =
      readAnswer path base' offset' width' t
  /-- Past its end the read fails, and goes on to fail unless the write fills the gap up with
  zeros. -/
  past : bytes.length < base' + offset' + width' →
    (∃ e, readAnswer path base' offset' width' t = .error e) ∧
    ∀ v, readAnswer path base' offset' width' (afterWrite path base offset width value t) = .ok v ↔
      base' + offset' + width' ≤ base + offset ∧
        v = numberAt (padded bytes (base + offset)) (base' + offset') width'
  /-- Two writes leave the same bytes in either order. -/
  writes : ∃ final,
    PlainFile (afterWrite path base' offset' width' value'
      (afterWrite path base offset width value t)) path final ∧
    PlainFile (afterWrite path base offset width value
      (afterWrite path base' offset' width' value' t)) path final

/-- The laws of the accesses to a register of an allowed width. -/
structure PortAccess (t : FileTree) (path : TreePath) (bytes : Bytes)
    (base offset width value : Nat) : Prop where
  /-- A write succeeds, and writes the number over the bytes of the file. -/
  written : writeAnswer path base offset width value t = .ok () ∧
    ∃ new, PlainFile (afterWrite path base offset width value t) path new ∧
      Written bytes (base + offset) width value new
  /-- A read succeeds if the file reaches that far. -/
  read : ∀ v, readAnswer path base offset width t = .ok v ↔
    base + offset + width ≤ bytes.length ∧ v = numberAt bytes (base + offset) width
  bounded : ∀ v, readAnswer path base offset width t = .ok v → v < 256 ^ width
  unchanged : (bus path (.read base offset width) t).next = t
  /-- What is written reads back, also past the end of the file. -/
  reads_back : readAnswer path base offset width (afterWrite path base offset width value t) =
    .ok (value % 256 ^ width)
  apart : ∀ base' offset' width' value', 1 ≤ width' ∧ width' ≤ 4 →
    Apart (base + offset) width (base' + offset') width' →
    ApartAccesses t path bytes base offset width value base' offset' width' value'

theorem apartAccesses (file : PlainFile t path bytes) (allowed : 1 ≤ width ∧ width ≤ 4)
    (allowed' : 1 ≤ width' ∧ width' ≤ 4)
    (apart : Apart (base + offset) width (base' + offset') width') :
    ApartAccesses t path bytes base offset width value base' offset' width' value' := by
  obtain ⟨-, new, file₁, first⟩ := file.write allowed base offset value
  obtain ⟨-, new', file₁', first'⟩ := file.write allowed' base' offset' value'
  obtain ⟨-, final, file₂, second⟩ := file₁.write allowed' base' offset' value'
  obtain ⟨-, final', file₂', second'⟩ := file₁'.write allowed base offset value
  have size := first.size
  refine ⟨fun within => ?within, fun past => ⟨file.read_fails allowed' past, fun v => ?past⟩, ?writes⟩
  case within =>
    have reach : base' + offset' + width' ≤ new.length := by omega
    have before := (file.read_iff allowed' base' offset' _).2 ⟨within, rfl⟩
    have after := (file₁.read_iff allowed' base' offset' _).2 ⟨reach, rfl⟩
    rw [after, before, first.numberAt_apart apart within]
  case past =>
    -- what is apart and past the old end, but not past the new one, lies before the write
    have place : base' + offset' + width' ≤ new.length ↔
        base' + offset' + width' ≤ base + offset := by
      unfold Apart at apart
      omega
    rw [file₁.read_iff allowed', place]
    exact and_congr_right fun before => by rw [first.numberAt_before before]
  case writes =>
    rw [first.comm apart second first' second'] at file₂
    exact ⟨final', file₂, file₂'⟩

/-- **The laws of reading and writing registers in a plain file**, of any content and at any
address, and for any number. Registers of another width are refused. -/
theorem port_accesses (t : FileTree) (path : TreePath) (bytes : Bytes)
    (file : PlainFile t path bytes) (base offset width value : Nat) :
    (1 ≤ width ∧ width ≤ 4 → PortAccess t path bytes base offset width value) ∧
    (¬ (1 ≤ width ∧ width ≤ 4) →
      bus path (.read base offset width) t = .quiet (.error (.registerWidth width)) t ∧
      bus path (.write base offset width value) t = .quiet (.error (.registerWidth width)) t) := by
  constructor
  · intro allowed
    obtain ⟨accepted, new, file', written⟩ := file.write allowed base offset value
    have read := file.read_iff allowed base offset
    refine ⟨⟨accepted, new, file', written⟩, read, fun v found => ?bounded, next_read .., ?back,
      fun _ _ _ _ allowed' apart => apartAccesses file allowed allowed' apart⟩
    case bounded =>
      rw [((read v).1 found).2]
      exact numberAt_lt bytes _ width
    case back =>
      have size := written.size
      refine (file'.read_iff allowed base offset _).2 ⟨by omega, ?_⟩
      exact written.numberAt_self.symm
  · intro refused
    have width_refused : checkWidth width = .error (.registerWidth width) := if_neg refused
    have unread : read t path base offset width = .error (.registerWidth width) := by
      rw [PortFile.read, width_refused]
      rfl
    have unwritten : write t path base offset width value = .error (.registerWidth width) := by
      rw [PortFile.write, width_refused]
      rfl
    exact ⟨by simp only [bus, unread], by simp only [bus, unwritten]⟩

/-- A port file of two bytes. -/
def shortPort : FileTree :=
  ⟨[(["port"], .file [(2, 0xab)] false)]⟩

theorem shortPort_plain : PlainFile shortPort (.ofText "/port") [0xab, 0xab] :=
  ⟨[(2, 0xab)], false, rfl, rfl⟩

/-- A number that is written past the end of a file, over nothing, reads back. -/
theorem port_accesses_past_end :
    PlainFile shortPort (.ofText "/port") [0xab, 0xab] ∧ (1 ≤ 4 ∧ 4 ≤ 4) ∧
    readAnswer (.ofText "/port") 3 2 4 (afterWrite (.ofText "/port") 3 2 4 0x12345678 shortPort) =
      .ok (0x12345678 % 256 ^ 4) :=
  ⟨shortPort_plain, by decide,
    ((port_accesses shortPort (.ofText "/port") [0xab, 0xab] shortPort_plain 3 2 4
      0x12345678).1 (by decide)).reads_back⟩

/-- **A write past the end of a file makes a register before it readable**, though the two do not
overlap. -/
theorem gap_read_after_write :
    PlainFile shortPort (.ofText "/port") [0xab, 0xab] ∧ Apart (0 + 5) 1 (0 + 3) 1 ∧
    readAnswer (.ofText "/port") 0 3 1 shortPort =
      .error (.unreadableRegister 0 3 (.readDevice .short)) ∧
    readAnswer (.ofText "/port") 0 3 1 (afterWrite (.ofText "/port") 0 5 1 7 shortPort) = .ok 0 :=
  ⟨shortPort_plain, .inr (by decide), rfl, rfl⟩

end Laws

end SwitchThermal
