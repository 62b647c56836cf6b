import SwitchThermal.Bench.Trial
import SwitchThermal.Proofs.Duty
import SwitchThermal.Proofs.PanelRun
import SwitchThermal.Proofs.PortRegisters
import SwitchThermal.Proofs.RegisterMemory
import SwitchThermal.Proofs.Requests

/-!
# Port file and memory are interchangeable

The registers of a board can be kept in a port file, byte by byte, or in memory, as whole numbers.
To the control loop and to the panel the two are the same, since all that they access is one byte
wide.

* `Board.Agree`, `Agree.run` — boards that answer alike in related states, and programs on them.
* `Mirrors` — registers in memory that show the bytes of a port file; `Mirrors.step` is one access.
* `Request.registers` — the registers that requests access are those of the board.
* `buses_interchangeable` — every row comes to the same on both kinds of registers.
-/

set_option autoImplicit false

namespace SwitchThermal

variable {σ σ' τ ρ α : Type}

/-! ## Boards that answer alike -/

/-- The boards answer the accesses of a kind alike in related states, and leave related states. -/
def Board.Agree (R : σ → σ' → Prop) (P : Query → Prop) (b : Board σ) (b' : Board σ') : Prop :=
  ∀ q w w', P q → R w w' → (b q w).answer = (b' q w').answer ∧ R (b q w).next (b' q w').next

/-- **A program cannot tell boards apart that answer its accesses alike.** -/
theorem Board.Agree.run {R : σ → σ' → Prop} {P : Query → Prop} {b : Board σ} {b' : Board σ'}
    (agree : Board.Agree R P b b') (p : Program α) {w : σ} {w' : σ'} (related : R w w')
    (only : ∀ q ∈ Program.queries (p.run b w).trace, P q) :
    (p.run b w).Matches R Eq (p.run b' w') := by
  induction p generalizing w w' with
  | done a => exact ⟨rfl, related, rfl⟩
  | note n rest ih =>
    have rest := ih related only
    exact ⟨rest.value, rest.world, rest.answers⟩
  | ask q k ih =>
    simp only [Program.run, Program.queries_append, Program.queries_map_noted, List.nil_append,
      Program.queries_asked, List.forall_mem_cons] at only
    obtain ⟨answer, next⟩ := agree q w w' only.1 related
    have rest := ih (b q w).answer next only.2
    rw [answer] at rest
    refine ⟨?_, ?_, ?_⟩
    · simp only [Program.run, answer]
      exact rest.value
    · simp only [Program.run, answer]
      exact rest.world
    · simp only [Program.run, answer, answers_append, answers_noted, List.nil_append]
      exact congrArg (Entry.asked q _ :: ·) rest.answers

/-! ## Requests -/

/-- A request accesses the registers of the watchdog and of the latch only. -/
theorem Request.registers (request : Request) (c : Controller) (s : ControlState) (b : Board σ)
    (w : σ) {q : RegisterQuery}
    (hq : .register q ∈ Program.queries ((request.program c s).run b w).trace) :
    q ∈ Watchdog.queries := by
  cases request with
  | pass =>
    obtain ⟨r, s', qs, course, hpass⟩ := Controller.pass_course c b w s
    rw [program, (Program.Yields.map hpass _).queries] at hq
    exact course.registers hq
  | panel =>
    obtain ⟨r, qs, updates, hupdate⟩ := Panel.update_updates b w
    rw [program, (hupdate.map _).queries] at hq
    rcases updates.accesses _ hq with watches | status
    · cases watches
    · cases status
      decide

/-! ## Registers that mirror a port file -/

/-- The registers of the board are below this offset. -/
def Watchdog.bound : Nat := 0xcc

/-- The access is to a register of the board, one byte wide, and the value of a write fits. -/
def RegisterQuery.onBoard : RegisterQuery → Bool
  | .read base offset width =>
    base == Watchdog.base && decide (offset < Watchdog.bound) && width == 1
  | .write base offset width value =>
    base == Watchdog.base && decide (offset < Watchdog.bound) && width == 1 && decide (value < 256)

theorem onBoard_queries : ∀ q ∈ Watchdog.queries, q.onBoard = true := by decide

/-- The registers in memory show the bytes of the port file at a path, and none of them fails. -/
structure Mirrors (path : TreePath) (t : FileTree) (m : MemoryRegisters) : Prop where
  file : ∃ content executable, t.look path = .ok (.file content executable) ∧
    Watchdog.base + Watchdog.bound ≤ content.size ∧
    ∀ offset < Watchdog.bound, content.toBytes[Watchdog.base + offset]?.map UInt8.toNat =
      some (m.get Watchdog.base offset)
  healthy : m.failing = []

namespace MemoryRegisters

variable {m : MemoryRegisters} {base offset width value : Nat}

theorem read_healthy (healthy : m.failing = []) (allowed : 1 ≤ width ∧ width ≤ 4) :
    m.read base offset width = .ok (m.get base offset) := by
  rw [read, checkWidth, if_pos allowed, healthy]
  rfl

theorem write_healthy (healthy : m.failing = []) (allowed : 1 ≤ width ∧ width ≤ 4) :
    m.write base offset width value =
      .ok { m.set base offset value with writes := m.writes ++ [⟨base, offset, value⟩] } := by
  rw [write, checkWidth, if_pos allowed, healthy]
  rfl

end MemoryRegisters

namespace Mirrors

variable {path : TreePath} {t : FileTree} {m : MemoryRegisters} {offset value : Nat}

/-- A register of the board reads the same in both. -/
theorem read (h : Mirrors path t m) (known : offset < Watchdog.bound) :
    PortFile.read t path Watchdog.base offset 1 = .ok (m.get Watchdog.base offset) ∧
      m.read Watchdog.base offset 1 = .ok (m.get Watchdog.base offset) := by
  obtain ⟨content, executable, file, -, bytes⟩ := h.file
  obtain ⟨v, byte, shown⟩ := Option.map_eq_some_iff.1 (bytes offset known)
  rw [← shown]
  refine ⟨PortFile.read_byte file byte, ?_⟩
  rw [shown]
  exact MemoryRegisters.read_healthy h.healthy (by decide)

/-- A write of a byte goes well on both sides, and leaves them alike. -/
theorem write (h : Mirrors path t m) (known : offset < Watchdog.bound) (fits : value < 256) :
    ∃ t' m', PortFile.write t path Watchdog.base offset 1 value = .ok t' ∧
      m.write Watchdog.base offset 1 value = .ok m' ∧ Mirrors path t' m' := by
  obtain ⟨content, executable, file, reach, bytes⟩ := h.file
  obtain ⟨t', written, file'⟩ : ∃ t', PortFile.write t path Watchdog.base offset 1 value = .ok t' ∧
      t'.look path = .ok (.file (content.overwrite (Watchdog.base + offset) (littleEndian 1 value))
        executable) :=
    PortFile.write_file file (by decide) value
  have overwritten := content.written_overwrite (Watchdog.base + offset) 1 value
  have inside : Watchdog.base + offset < content.toBytes.length := by
    rw [Runs.length_toBytes]
    omega
  have written' : m.write Watchdog.base offset 1 value =
      .ok { m.set Watchdog.base offset value with
        writes := m.writes ++ [⟨Watchdog.base, offset, value⟩] } :=
    MemoryRegisters.write_healthy h.healthy (by decide)
  refine ⟨t', _, written, written', ⟨_, _, file', ?_, ?_⟩, h.healthy⟩
  · have size := overwritten.size
    rw [Runs.length_toBytes, Runs.length_toBytes] at size
    omega
  · intro offset' known'
    rw [overwritten.byte inside, MemoryRegisters.get_write written']
    by_cases here : offset' = offset
    · subst here
      simp [Nat.mod_eq_of_lt fits]
    · rw [if_neg (by omega), if_neg (by simpa using here)]
      exact bytes offset' known'

/-- **One access** to a register of the board. -/
theorem step (h : Mirrors path t m) {q : RegisterQuery} (known : q.onBoard = true) :
    (PortFile.bus path q t).answer = (MemoryRegisters.bus q m).answer ∧
      Mirrors path (PortFile.bus path q t).next (MemoryRegisters.bus q m).next := by
  cases q with
  | read base offset width =>
    obtain ⟨⟨rfl, inside⟩, rfl⟩ : (base = Watchdog.base ∧ offset < Watchdog.bound) ∧ width = 1 := by
      simpa [RegisterQuery.onBoard] using known
    obtain ⟨port, memory⟩ := h.read inside
    simp only [PortFile.bus, MemoryRegisters.bus, port, memory]
    exact ⟨rfl, h⟩
  | write base offset width value =>
    obtain ⟨⟨⟨rfl, inside⟩, rfl⟩, fits⟩ : ((base = Watchdog.base ∧ offset < Watchdog.bound) ∧
        width = 1) ∧ value < 256 := by
      simpa [RegisterQuery.onBoard] using known
    obtain ⟨t', m', port, memory, mirrors⟩ := h.write inside fits
    simp only [PortFile.bus, MemoryRegisters.bus, port, memory]
    exact ⟨rfl, mirrors⟩

end Mirrors

/-! ## Boards with exchanged registers -/

/-- The board of some devices and control files with registers that are kept apart from them. -/
def Board.withRegisters (devices : Devices τ) (controlFile : String → τ → Except Fault String)
    (bus : RegisterBus ρ) : Board (τ × ρ) :=
  .assemble (devices.focus Prod.fst fun w platform => (platform, w.2))
    (bus.focus Prod.snd fun w registers => (w.1, registers)) fun path w => controlFile path w.1

/-- The same platform, and registers in memory that mirror a port file. -/
structure SamePlatform (path : TreePath) (w : τ × FileTree) (w' : τ × MemoryRegisters) : Prop where
  platform : w.1 = w'.1
  registers : Mirrors path w.2 w'.2

variable {path : TreePath}

/-- The accesses to other registers than those of the board are left out. -/
theorem agree_withRegisters (devices : Devices τ) (controlFile : String → τ → Except Fault String)
    (path : TreePath) : Board.Agree (SamePlatform path)
    (fun q => ∀ r, q = .register r → r.onBoard = true)
    (.withRegisters devices controlFile (PortFile.bus path))
    (.withRegisters devices controlFile MemoryRegisters.bus) := by
  rintro q ⟨platform, t⟩ ⟨platform', m⟩ known ⟨rfl, mirrors⟩
  cases q with
  | controlFile file => exact ⟨rfl, rfl, mirrors⟩
  | device d => exact ⟨rfl, rfl, mirrors⟩
  | register r =>
    obtain ⟨answer, next⟩ := mirrors.step (known r rfl)
    exact ⟨answer, rfl, next⟩

/-- What comes of a request on both boards. -/
structure Interchanged (path : TreePath) (o : Outcome (τ × FileTree) (Response × ControlState))
    (o' : Outcome (τ × MemoryRegisters) (Response × ControlState)) : Prop where
  response : o.value.1 = o'.value.1
  control : o.value.2 = o'.value.2
  platform : o.world.1 = o'.world.1
  /-- The same accesses are made, to devices and to registers, and answered alike. -/
  accesses : answers o.trace = answers o'.trace
  /-- All registers of the board read the same afterwards. -/
  registers : ∀ offset < Watchdog.bound, ∃ v,
    PortFile.read o.world.2 path Watchdog.base offset 1 = .ok v ∧
      o'.world.2.read Watchdog.base offset 1 = .ok v

/-- **One request** on both boards. -/
theorem run_interchanged (devices : Devices τ) (controlFile : String → τ → Except Fault String)
    (c : Controller) (request : Request) {s s' : ControlState} {w : τ × FileTree}
    {w' : τ × MemoryRegisters} (same : s = s') (related : SamePlatform path w w') :
    ((request.program c s).run (.withRegisters devices controlFile (PortFile.bus path)) w).Matches
      (SamePlatform path) (SameResponse Eq)
      ((request.program c s').run (.withRegisters devices controlFile MemoryRegisters.bus) w') := by
  subst same
  have matched := (agree_withRegisters devices controlFile path).run (request.program c s) related
  obtain ⟨value, world, answers⟩ := matched <| by
    rintro q hq r rfl
    exact onBoard_queries r (request.registers c s _ _ hq)
  exact ⟨⟨congrArg Prod.fst value, congrArg Prod.snd value⟩, world, answers⟩

theorem Interchanged.of_matches {o : Outcome (τ × FileTree) (Response × ControlState)}
    {o' : Outcome (τ × MemoryRegisters) (Response × ControlState)}
    (h : o.Matches (SamePlatform path) (SameResponse Eq) o') : Interchanged path o o' where
  response := h.value.response
  control := h.value.control
  platform := h.world.platform
  accesses := h.answers
  registers _ known := ⟨_, h.world.registers.read known⟩

/-- What happens to the platform alone is the same on both boards. -/
theorem sameRequest_withRegisters (x : Request × (τ → τ)) :
    SameRequest (SamePlatform path) (x.1, Prod.map x.2 id) (x.1, Prod.map x.2 id) where
  request := rfl
  meanwhile _ _ related := ⟨congrArg x.2 related.platform, related.registers⟩

/-- **Port file and memory are interchangeable.** Whatever is requested, and whatever happens to the
platform meanwhile, comes to the same with registers in a port file and with registers in memory
that mirror it. -/
theorem buses_interchangeable (c : Controller) (devices : Devices τ)
    (controlFile : String → τ → Except Fault String) {path : TreePath} {t : FileTree}
    {m : MemoryRegisters} (mirrors : Mirrors path t m) (s : ControlState) (platform : τ)
    (requests : List (Request × (τ → τ))) :
    List.Forall₂ (Interchanged path)
      (c.serve (.withRegisters devices controlFile (PortFile.bus path)) s (platform, t)
        (requests.map fun x => (x.1, Prod.map x.2 id)))
      (c.serve (.withRegisters devices controlFile MemoryRegisters.bus) s (platform, m)
        (requests.map fun x => (x.1, Prod.map x.2 id))) := by
  have rows : List.Forall₂ (SameRequest (SamePlatform path))
      (requests.map fun x => (x.1, Prod.map x.2 id))
      (requests.map fun x => (x.1, Prod.map x.2 id)) := by
    rw [List.forall₂_map_left_iff, List.forall₂_map_right_iff, List.forall₂_same]
    exact fun x _ => sameRequest_withRegisters x
  exact (Controller.serve_matches (run_interchanged devices controlFile c) rfl ⟨rfl, mirrors⟩
    rows).imp fun _ _ => .of_matches

section Trial

open Bench

/-- A port file with all its bits set. -/
def blankPort : FileTree :=
  ⟨[(["port"], .file [(0x25cc, 0xff)] false)]⟩

/-- Memory that was never written mirrors it. -/
theorem mirrors_blankPort : Mirrors (.ofText "/port") blankPort .fresh where
  file := by
    refine ⟨[(0x25cc, 0xff)], false, by decide, by decide, fun offset known => ?_⟩
    have inside : Watchdog.base + offset < 0x25cc := Nat.add_lt_add_left known 0x2500
    rw [Runs.getElem?_single inside]
    rfl
  healthy := rfl

/-- A pass over a bench with its first core at 101 °C, and an update of the panel. -/
def heatedRequests : List (Request × (Records → Records)) :=
  [(.pass, fun r => r.edit (.heat .cpuCore0 101000)), (.panel, id)]

/-- No control file can be read. -/
def missingControl (path : String) (_ : Records) : Except Fault String :=
  .error (.internal path)

/-- What they come to on the bench at 80 % with some registers. -/
def serveHeated {ρ : Type} (bus : RegisterBus ρ) (registers : ρ) :
    List (Outcome (Records × ρ) (Response × ControlState)) :=
  trialController.serve (.withRegisters Records.devices missingControl bus) .fresh
    (.healthy 80, registers) (heatedRequests.map fun x => (x.1, Prod.map x.2 id))

/-- The pass triggers the shutdown on both boards. -/
theorem buses_interchangeable_at_101 :
    Mirrors (.ofText "/port") blankPort .fresh ∧
      (serveHeated (PortFile.bus (.ofText "/port")) blankPort).head?.map (fun o => o.value.1) =
        some (.pass (.ok (.shutdownTriggered .cpuCore0 101000 100000))) ∧
      List.Forall₂ (Interchanged (.ofText "/port"))
        (serveHeated (PortFile.bus (.ofText "/port")) blankPort)
        (serveHeated MemoryRegisters.bus .fresh) :=
  ⟨mirrors_blankPort, by rfl, buses_interchangeable trialController Records.devices missingControl
    mirrors_blankPort .fresh (.healthy 80) heatedRequests⟩

end Trial

end SwitchThermal
