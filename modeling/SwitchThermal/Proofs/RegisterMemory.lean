import SwitchThermal.FileTree
import SwitchThermal.Proofs.Sweep
import SwitchThermal.Register.Memory

/-!
# Registers in memory

What holds of a board whose registers are in memory, with the shutdown latch as one of them.

* `MemoryRegisters.get_write` — a register holds what was last written to it.
* `OnMemory` — the registers of a board are in memory, and only its accesses change them.
* `Query.writesStatus`, `Query.KeepsLatch` — the accesses that write the board status, and those that
  do so only to latch the shutdown.
* `OnMemory.status_after`, `OnMemory.latched_after` — accesses that do not write the status leave it
  alone, and those that keep the latch do not release it.
-/

set_option autoImplicit false

namespace SwitchThermal

/-! ## Registers -/

namespace MemoryRegisters

variable {m m' : MemoryRegisters} {base offset width value : Nat}

theorem get_congr (h : m'.values = m.values) (base offset : Nat) :
    m'.get base offset = m.get base offset := by
  unfold get
  rw [h]

theorem get_set (m : MemoryRegisters) (base offset value base' offset' : Nat) :
    (m.set base offset value).get base' offset' =
      if (base', offset') = (base, offset) then value else m.get base' offset' := by
  unfold get set
  split
  · rename_i here
    rw [here, List.lookup_cons_self]
    rfl
  · rename_i elsewhere
    have other : ((base', offset') == (base, offset)) = false := beq_false_of_ne elsewhere
    rw [List.lookup_cons, other]
    exact congrArg (·.getD 0xff) (FileTree.lookup_filter_ne m.values elsewhere)

/-- A write that succeeds changes the one register. -/
theorem get_write (h : m.write base offset width value = .ok m') (base' offset' : Nat) :
    m'.get base' offset' =
      if (base', offset') = (base, offset) then value else m.get base' offset' := by
  obtain ⟨-, -, h⟩ := bind_eq_ok h
  split at h
  · cases h
  · cases h
    exact get_set m base offset value base' offset'

/-- A read that succeeds yields the value of the register. -/
theorem read_eq_ok (h : m.read base offset width = .ok value) : value = m.get base offset := by
  obtain ⟨-, -, h⟩ := bind_eq_ok h
  split at h
  · cases h
  · cases h
    rfl

theorem bus_write_ok (h : m.write base offset width value = .ok m') :
    bus (.write base offset width value) m = .quiet (.ok ()) m' := by
  simp only [bus, h]

theorem bus_write_error {e : Fault} (h : m.write base offset width value = .error e) :
    bus (.write base offset width value) m = .quiet (.error e) m := by
  simp only [bus, h]

/-- The board status. -/
def status (m : MemoryRegisters) : Nat :=
  m.get Watchdog.base Watchdog.statusOffset

/-- Has the shutdown latched? -/
def Latched (m : MemoryRegisters) : Prop :=
  Watchdog.isLatched m.status = true

theorem Latched.of_values (h : m.Latched) (same : m'.values = m.values) : m'.Latched := by
  unfold Latched status at h ⊢
  rw [get_congr same]
  exact h

end MemoryRegisters

/-! ## Boards -/

variable {σ : Type} {b : Board σ} {registers : σ → MemoryRegisters} {w : σ}

/-- The registers of the board are in memory. Only its own accesses change their values; which of
them fail may change at any time. -/
structure OnMemory (registers : σ → MemoryRegisters) (b : Board σ) : Prop where
  answer : ∀ q w, (b (.register q) w).answer = (MemoryRegisters.bus q (registers w)).answer
  next : ∀ q w, (registers (b (.register q) w).next).values =
    (MemoryRegisters.bus q (registers w)).next.values
  apart : ∀ q w, (∀ r, q ≠ .register r) → (registers (b q w).next).values = (registers w).values

/-- Does the access write the board status? -/
def Query.writesStatus : Query → Bool
  | .register (.write base offset _ _) =>
    decide ((base, offset) = (Watchdog.base, Watchdog.statusOffset))
  | _ => false

/-- The access writes the status only to latch the shutdown. -/
def Query.KeepsLatch (q : Query) : Prop :=
  q.writesStatus = true → q = latchAccess

theorem Query.KeepsLatch.of_unwritten {q : Query} (h : q.writesStatus = false) : q.KeepsLatch := by
  intro writes
  rw [h] at writes
  cases writes

namespace OnMemory

/-- The status that is read is the one in memory. -/
theorem status_read (h : OnMemory registers b) {status : Nat}
    (read : (b (.register Watchdog.statusQuery) w).answer = .ok status) :
    status = (registers w).status := by
  rw [h.answer] at read
  exact MemoryRegisters.read_eq_ok read

theorem status_next (h : OnMemory registers b) {q : Query} (unwritten : q.writesStatus = false)
    (w : σ) : (registers (b q w).next).status = (registers w).status := by
  cases q with
  | controlFile path =>
    exact MemoryRegisters.get_congr (h.apart _ w fun r hr => by cases hr) _ _
  | device d => exact MemoryRegisters.get_congr (h.apart _ w fun r hr => by cases hr) _ _
  | register r =>
    refine (MemoryRegisters.get_congr (h.next r w) _ _).trans ?_
    cases r with
    | read => rfl
    | write base offset width value =>
      cases written : (registers w).write base offset width value with
      | error e =>
        rw [MemoryRegisters.bus_write_error written]
        rfl
      | ok m =>
        have elsewhere : (base, offset) ≠ (Watchdog.base, Watchdog.statusOffset) :=
          of_decide_eq_false unwritten
        rw [MemoryRegisters.bus_write_ok written]
        exact (MemoryRegisters.get_write written _ _).trans (if_neg elsewhere.symm)

/-- Accesses that do not write the status leave it alone. -/
theorem status_after (h : OnMemory registers b) {qs : List Query}
    (unwritten : ∀ q ∈ qs, q.writesStatus = false) (w : σ) :
    (registers (b.after w qs)).status = (registers w).status := by
  induction qs generalizing w with
  | nil => rfl
  | cons q qs ih =>
    obtain ⟨here, later⟩ := List.forall_mem_cons.1 unwritten
    rw [Board.after_cons, ih later, h.status_next here]

theorem latched_iff_after (h : OnMemory registers b) {qs : List Query}
    (unwritten : ∀ q ∈ qs, q.writesStatus = false) :
    (registers (b.after w qs)).Latched ↔ (registers w).Latched := by
  unfold MemoryRegisters.Latched
  rw [h.status_after unwritten]

/-- The write that latches the shutdown does so, if the memory takes it. -/
theorem latched_of_written (h : OnMemory registers b) {m : MemoryRegisters}
    (written : (registers w).write Watchdog.base Watchdog.statusOffset Watchdog.width 0xfb = .ok m) :
    (registers (b latchAccess w).next).Latched := by
  have next := h.next (Watchdog.writeQuery Watchdog.statusOffset 0xfb) w
  rw [Watchdog.writeQuery, MemoryRegisters.bus_write_ok written] at next
  have stored : m.status = 0xfb := (MemoryRegisters.get_write written _ _).trans (if_pos rfl)
  have latched : m.Latched := by
    unfold MemoryRegisters.Latched
    rw [stored]
    decide
  exact latched.of_values next

/-- The write that latches the shutdown does so, if it succeeds. -/
theorem latched_of_accepted (h : OnMemory registers b)
    (accepted : (b latchAccess w).answer = .ok ()) :
    (registers (b latchAccess w).next).Latched := by
  cases written : (registers w).write Watchdog.base Watchdog.statusOffset Watchdog.width 0xfb with
  | error e =>
    have answer : (.ok () : Except Fault Unit) = (MemoryRegisters.bus
        (.write Watchdog.base Watchdog.statusOffset Watchdog.width 0xfb) (registers w)).answer :=
      accepted.symm.trans (h.answer _ w)
    rw [MemoryRegisters.bus_write_error written] at answer
    cases answer
  | ok m => exact h.latched_of_written written

/-- An access that keeps the latch does not release it. -/
theorem latched_next (h : OnMemory registers b) {q : Query} (keeps : q.KeepsLatch)
    (latched : (registers w).Latched) :
    (registers (b q w).next).Latched := by
  cases writes : q.writesStatus with
  | false =>
    unfold MemoryRegisters.Latched at latched ⊢
    rw [h.status_next writes]
    exact latched
  | true =>
    obtain rfl := keeps writes
    cases written : (registers w).write Watchdog.base Watchdog.statusOffset Watchdog.width 0xfb with
    | error e =>
      have kept := h.next (Watchdog.writeQuery Watchdog.statusOffset 0xfb) w
      rw [Watchdog.writeQuery, MemoryRegisters.bus_write_error written] at kept
      exact latched.of_values kept
    | ok m => exact h.latched_of_written written

theorem latched_after (h : OnMemory registers b) {qs : List Query}
    (keep : ∀ q ∈ qs, q.KeepsLatch) (latched : (registers w).Latched) :
    (registers (b.after w qs)).Latched := by
  induction qs generalizing w with
  | nil => exact latched
  | cons q qs ih =>
    obtain ⟨here, later⟩ := List.forall_mem_cons.1 keep
    exact ih later (h.latched_next here latched)

end OnMemory

end SwitchThermal
