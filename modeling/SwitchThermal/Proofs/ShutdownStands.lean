import Mathlib.Data.List.Chain
import SwitchThermal.Bench.Trial
import SwitchThermal.Proofs.Calls
import SwitchThermal.Proofs.LatchedOnce
import SwitchThermal.Proofs.RegisterMemory
import SwitchThermal.Proofs.WatchdogFirst

/-!
# A triggered shutdown stands

On a board whose registers are in memory, the shutdown that a pass has triggered is found by every
later call: passes do nothing but set full speed, and the panel shows it.

* `Controller.Course.keepsLatch` — a pass writes the status only to latch the shutdown.
* `Controller.Course.triggered`, `Controller.Course.standing` — a pass that triggers the shutdown, and
  one that finds it.
* `Stands` — the control state and the registers after the shutdown has been triggered.
* `Goes.triggered`, `Goes.standing` — calls of all kinds make it stand and leave it standing.
* `InARow` — calls that share the control state and the registers.
* `shutdown_stands` — along every row of calls, a triggered shutdown is permanent and visible.
-/

set_option autoImplicit false

namespace SwitchThermal

variable {σ : Type} {c : Controller} {b : Board σ} {w : σ} {s s' : ControlState}
  {registers : σ → MemoryRegisters} {qs : List Query}

/-! ## What passes and updates write -/

theorem WatchAccess.unwritten {q : Query} (h : WatchAccess q) : q.writesStatus = false := by
  cases h <;> rfl

theorem Panel.Updates.keepsLatch {r : Except Fault LedReport} (h : Panel.Updates b w r qs) :
    ∀ q ∈ qs, q.KeepsLatch := by
  intro q hq
  rcases h.accesses q hq with watches | rfl
  · exact .of_unwritten watches.unwritten
  · exact .of_unwritten rfl

theorem Panel.Updates.unset {r : Except Fault LedReport} (h : Panel.Updates b w r qs) (f : Fan)
    (v : Nat) : speedAccess f v ∉ qs := by
  intro hv
  rcases h.accesses _ hv with watches | status
  · cases watches
  · cases status

/-- What is accessed after the pass of a period. -/
theorem keepsLatch_of_rest {r : Except Fault LedReport} {us rs : List Query}
    (update : Panel.Updates b w r us) (scan : ∀ q ∈ rs, WatchAccess q) :
    ∀ q ∈ us ++ rs, q.KeepsLatch :=
  List.forall_mem_append.2 ⟨update.keepsLatch, fun q hq => .of_unwritten (scan q hq).unwritten⟩

namespace Controller

variable {r : Except Halt PassReport}

theorem StartAccess.unwritten {q : Query} (h : c.StartAccess q) : q.writesStatus = false := by
  cases h with
  | settings | sensor | status => rfl
  | arm r hr =>
    have others : ∀ r ∈ Watchdog.armQueries, (Query.register r).writesStatus = false := by decide
    exact others r hr

theorem Starts.unwritten {r : Except Halt Unit} {s₁ : ControlState}
    (h : c.Starts b w s r s₁ qs) : ∀ q ∈ qs, q.writesStatus = false :=
  fun q hq => (h.access q hq).unwritten

/-- **A pass writes the status only to latch the shutdown.** -/
theorem Course.keepsLatch (h : c.Course b w s r s' qs) : ∀ q ∈ qs, q.KeepsLatch := by
  have own : ∀ q ∈ Watchdog.queries, (Query.register q).writesStatus = true →
      Query.register q = latchAccess := by decide
  intro q hq writes
  cases q with
  | register r => exact own r (h.registers hq) writes
  | controlFile | device => cases writes

end Controller

/-! ## What a pass finds in memory -/

namespace OnMemory

variable {table : BandTable}

/-- The status of a round is the one in memory. -/
theorem round_status (h : OnMemory registers b) {status : Nat}
    (read : (b.round table w).status = .ok status) : status = (registers w).status := by
  rw [h.status_read read]
  exact h.status_next rfl w

theorem latched_of_round (h : OnMemory registers b) (latched : (b.round table w).Latched) :
    (registers w).Latched := by
  obtain ⟨-, status, read, latched⟩ := latched
  unfold MemoryRegisters.Latched
  rw [← h.round_status read]
  exact latched

theorem not_awake (h : OnMemory registers b) (latched : (registers w).Latched) :
    ¬ (b.round table w).Awake := by
  rintro ⟨-, status, read, unlatched⟩
  rw [h.round_status read, show _ = true from latched] at unlatched
  cases unlatched

/-- A latch that succeeds is in memory. -/
theorem latched_of_latch (h : OnMemory registers b) (latched : (b.latch w).1 = .ok ()) :
    (registers (b.after w (b.latch w).2)).Latched := by
  cases unprotected : (b unprotectAccess w).answer with
  | error e =>
    rw [Board.latch_refused unprotected] at latched
    cases latched
  | ok u =>
    rw [Board.latch_unprotected unprotected] at latched ⊢
    exact h.latched_of_accepted latched

end OnMemory

/-- The shutdown stands: the controller runs, and the latch is in memory. -/
structure Stands (m : MemoryRegisters) (s : ControlState) (reported : Bool) : Prop where
  started : s.initialised = true
  on : s.enabled = true
  latched : m.Latched
  reported : s.shutdownReported = reported

/-- A shutdown that has been reported is in memory. -/
def Backed (m : MemoryRegisters) (s : ControlState) : Prop :=
  s.shutdownReported = true → m.Latched

theorem Stands.after {reported : Bool} (h : Stands (registers w) s reported)
    (memory : OnMemory registers b) (keep : ∀ q ∈ qs, q.KeepsLatch) :
    Stands (registers (b.after w qs)) s reported :=
  { h with latched := memory.latched_after keep h.latched }

theorem Backed.after (h : Backed (registers w) s) (memory : OnMemory registers b)
    (keep : ∀ q ∈ qs, q.KeepsLatch) : Backed (registers (b.after w qs)) s :=
  fun reported => memory.latched_after keep (h reported)

namespace Controller

variable {r : Except Halt PassReport} {reported : Bool}

/-- What a pass comes to that triggers the shutdown. -/
theorem Ends.of_triggered {x : Sensor} {mcelsius threshold : Int}
    (h : c.Ends b w s (.ok (.shutdownTriggered x mcelsius threshold)) s' qs) :
    s.enabled = true ∧ (b.round c.table w).Awake ∧
      ∃ first, qs = first ++ (b.latch (b.after w first)).2 ∧
        (b.latch (b.after w first)).1 = .ok () := by
  generalize hr : (.ok (.shutdownTriggered x mcelsius threshold) : Except Halt PassReport) = r at h
  cases h with
  | disabled | unrefreshed | statusUnreadable | standing | fullSpeed | fullSpeedRefused
  | fanUnreadable => cases hr
  | managed on clear rest =>
    refine ⟨on, clear.toAwake, ?_⟩
    cases rest with
    | @tripped before after x reading =>
      refine ⟨accessesTo before x, rfl, ?_⟩
      cases latched : (b.latch (b.after w (accessesTo before x))).1 with
      | ok u => rfl
      | error e =>
        rw [latched] at hr
        cases hr
    | overflow | kept | applied | refused => cases hr

section Memory

variable (memory : OnMemory registers b)
include memory

/-- A reported shutdown stays in memory. -/
theorem Course.backed (h : c.Course b w s r s' qs) (backed : Backed (registers w) s) :
    Backed (registers (b.after w qs)) s' := by
  intro reported
  refine memory.latched_after h.keepsLatch ?_
  rcases h.reported_iff.1 reported with before | first
  · exact backed before
  · cases h with
    | vain start => cases first
    | done start ends =>
      rw [first] at ends
      exact (memory.latched_iff_after start.unwritten).1
        (memory.latched_of_round ends.of_first.2.1)

/-- **A pass that triggers the shutdown makes it stand**, unreported. -/
theorem Course.triggered {x : Sensor} {mcelsius threshold : Int}
    (h : c.Course b w s (.ok (.shutdownTriggered x mcelsius threshold)) s' qs)
    (backed : Backed (registers w) s) : Stands (registers (b.after w qs)) s' false := by
  have unchanged : s'.shutdownReported = s.shutdownReported := by
    rw [Bool.eq_iff_iff, h.reported_iff]
    exact or_iff_left nofun
  cases h with
  | done start ends =>
    obtain ⟨on, awake, first, rfl, latched⟩ := ends.of_triggered
    refine ⟨ends.initialised.trans start.flags.1, ends.enabled.trans on, ?_, ?_⟩
    · rw [Board.after_append, Board.after_append]
      exact memory.latched_of_latch latched
    · rw [unchanged, Bool.eq_false_iff]
      intro reported
      have latched := (memory.latched_iff_after start.unwritten).2 (backed reported)
      exact memory.not_awake latched awake

/-- **A pass that finds the shutdown standing** sets full speed at most, and is one of two things: it
fails, or it reports the shutdown, which it leaves reported. -/
theorem Course.standing (h : c.Course b w s r s' qs) (stands : Stands (registers w) s reported) :
    (∀ f v, speedAccess f v ∈ qs → v = c.params.full) ∧
      ((∃ e, r = .error (.fault e)) ∧ Stands (registers (b.after w qs)) s' reported ∨
        r = .ok (.shutdownLatched (!reported)) ∧ Stands (registers (b.after w qs)) s' true) := by
  have latched := memory.latched_after h.keepsLatch stands.latched
  obtain ⟨started, on, before, rfl⟩ := stands
  have unset {v : Nat} {f : Fan} : speedAccess f v ∉ dutyAccesses := by simp [dutyAccesses]
  cases h with
  | vain start => cases (start.of_initialised started).1
  | done start ends =>
    obtain ⟨-, rfl, rfl⟩ := start.of_initialised started
    rw [List.nil_append] at latched ⊢
    cases ends with
    | disabled off =>
      rw [on] at off
      cases off
    | unrefreshed =>
      refine ⟨fun f v hv => ?_, .inl ⟨⟨_, rfl⟩, started, on, latched, rfl⟩⟩
      cases List.mem_singleton.1 hv
    | statusUnreadable =>
      exact ⟨fun f v hv => absurd hv unset, .inl ⟨⟨_, rfl⟩, started, on, latched, rfl⟩⟩
    | standing _ _ reported =>
      refine ⟨fun f v hv => absurd hv unset, .inr ⟨?_, started, on, latched, reported⟩⟩
      rw [reported]
      rfl
    | fullSpeed _ _ unreported accepted follow =>
      refine ⟨fun f v hv => ?_, .inr ⟨?_, started, on, latched, rfl⟩⟩
      · rcases List.mem_cons.1 ((List.mem_append.1 hv).resolve_left unset) with heq | hv
        · cases heq
          rfl
        · exact (follow _ hv).percentage_eq
      · rw [unreported]
        rfl
    | fullSpeedRefused =>
      refine ⟨fun f v hv => ?_, .inl ⟨⟨_, rfl⟩, started, on, latched, rfl⟩⟩
      cases List.mem_singleton.1 ((List.mem_append.1 hv).resolve_left unset)
      rfl
    | fanUnreadable _ awake => exact absurd awake (memory.not_awake before)
    | managed _ clear => exact absurd clear.toAwake (memory.not_awake before)

end Memory

end Controller

/-! ## Calls -/

/-- A panel that is updated while the shutdown is in memory shows the system LED red. -/
theorem Panel.Updates.system_red_of_latched {r : Except Fault LedReport}
    (memory : OnMemory registers b) (h : Panel.Updates b w r qs) (latched : (registers w).Latched)
    {leds : LedReport} (done : r.toOption = some leds) : leds.mode? .system = some .red := by
  cases r with
  | error e => cases done
  | ok r =>
    cases done
    refine h.system_red fun before status watches read => ?_
    rw [memory.status_read read, memory.status_after fun q hq => (watches q hq).unwritten]
    exact latched

/-- A call does nothing but to set full speed, and to show the shutdown on the panel. -/
structure CallEnd.Quiet (c : Controller) (done : CallEnd) (qs : List Query) : Prop where
  bounded : done.overflow = none
  speeds : ∀ f v, speedAccess f v ∈ qs → v = c.params.full
  panel : ∀ leds, done.leds = some leds → leds.mode? .system = some .red

section Goes

variable {a : Activity} {done : CallEnd} {reported : Bool} (memory : OnMemory registers b)
include memory

/-- A reported shutdown stays in memory. -/
theorem Goes.backed (h : Goes c b w s a done qs) (backed : Backed (registers w) s) :
    Backed (registers (b.after w qs)) done.control := by
  cases h with
  | pass course =>
    rw [CallEnd.control_ofPass]
    exact course.backed memory backed
  | panel update => exact backed.after memory update.keepsLatch
  | period course update scan =>
    rw [Board.after_append, CallEnd.control_ofPass]
    exact (course.backed memory backed).after memory (keepsLatch_of_rest update scan)
  | stopped course => exact course.backed memory backed

/-- **A call that triggers the shutdown makes it stand**, unreported, and shows it. -/
theorem Goes.triggered (h : Goes c b w s a done qs) {x : Sensor} {mcelsius threshold : Int}
    (triggered : done.pass = some (.shutdownTriggered x mcelsius threshold))
    (backed : Backed (registers w) s) :
    Stands (registers (b.after w qs)) done.control false ∧
      ∀ leds, done.leds = some leds → leds.mode? .system = some .red := by
  cases h with
  | @pass r s' _ course =>
    rcases r with (e | e) | report <;> cases triggered
    exact ⟨course.triggered memory backed, nofun⟩
  | panel => cases triggered
  | @period rails outcome s' r qs us rs course update scan =>
    rcases outcome with e | report <;> cases triggered
    have stands := course.triggered memory backed
    rw [Board.after_append]
    exact ⟨stands.after memory (keepsLatch_of_rest update scan),
      fun leds => update.system_red_of_latched memory stands.latched⟩
  | stopped => cases triggered

/-- **A call that finds the shutdown standing** is quiet and leaves it standing. If a pass succeeds
in it, this is reported. -/
theorem Goes.standing (h : Goes c b w s a done qs) (stands : Stands (registers w) s reported) :
    done.Quiet c qs ∧
      (done.pass = none ∧ Stands (registers (b.after w qs)) done.control reported ∨
        done.pass = some (.shutdownLatched (!reported)) ∧
          Stands (registers (b.after w qs)) done.control true) := by
  cases h with
  | pass course =>
    obtain ⟨speeds, ⟨⟨e, rfl⟩, later⟩ | ⟨rfl, later⟩⟩ := course.standing memory stands
    · exact ⟨⟨rfl, speeds, nofun⟩, .inl ⟨rfl, later⟩⟩
    · exact ⟨⟨rfl, speeds, nofun⟩, .inr ⟨rfl, later⟩⟩
  | panel update =>
    exact ⟨⟨rfl, fun f v hv => absurd hv (update.unset f v),
        fun leds => update.system_red_of_latched memory stands.latched⟩,
      .inl ⟨rfl, stands.after memory update.keepsLatch⟩⟩
  | @period rails outcome s' r qs us rs course update scan =>
    have rest := keepsLatch_of_rest update scan
    have shown : ∀ leds, r.toOption = some leds → leds.mode? .system = some .red :=
      fun leds => update.system_red_of_latched memory
        (memory.latched_after course.keepsLatch stands.latched)
    have unset : ∀ f v, speedAccess f v ∉ us ++ rs := fun f v hv =>
      (List.mem_append.1 hv).elim (update.unset f v) fun hv => by cases scan _ hv
    obtain ⟨speeds, ways⟩ := course.standing memory stands
    have speeds : ∀ f v, speedAccess f v ∈ qs ++ (us ++ rs) → v = c.params.full :=
      fun f v hv => speeds f v ((List.mem_append.1 hv).resolve_right (unset f v))
    rw [Board.after_append]
    generalize outcome.mapError Halt.fault = r at ways
    rcases ways with ⟨⟨e, rfl⟩, later⟩ | ⟨rfl, later⟩
    · exact ⟨⟨rfl, speeds, shown⟩, .inl ⟨rfl, later.after memory rest⟩⟩
    · exact ⟨⟨rfl, speeds, shown⟩, .inr ⟨rfl, later.after memory rest⟩⟩
  | stopped course =>
    obtain ⟨-, ⟨⟨e, fault⟩, -⟩ | ⟨report, -⟩⟩ := course.standing memory stands
    · cases fault
    · cases report

end Goes

/-! ## Rows of calls -/

/-- The next call finds the control state that this one hands on, and the values that it leaves in
the registers. -/
structure Follows (registers : σ → MemoryRegisters) (x y : Call c b) : Prop where
  state : y.before = x.done.control
  values : (registers y.world).values = (registers x.left).values

/-- Calls from a fresh control state, one after another. Apart from the values in the registers, the
board may be changed between two of them. -/
structure InARow (registers : σ → MemoryRegisters) (xs : List (Call c b)) : Prop where
  fresh : ∀ x ∈ xs.head?, x.before = .fresh
  chain : xs.IsChain (Follows registers)

variable {x y : Call c b} {earlier later xs : List (Call c b)} {reported : Bool}

theorem Backed.of_values {m m' : MemoryRegisters} (h : Backed m s) (same : m'.values = m.values) :
    Backed m' s :=
  fun reported => (h reported).of_values same

theorem Stands.of_values {m m' : MemoryRegisters} (h : Stands m s reported)
    (same : m'.values = m.values) : Stands m' s reported :=
  { h with latched := h.latched.of_values same }

/-- Along a row, a reported shutdown is in memory. -/
theorem InARow.backed (h : InARow registers xs) (memory : OnMemory registers b) :
    ∀ x ∈ xs, Backed (registers x.world) x.before := by
  refine h.chain.induction _ _ (fun x y follows before => ?step) fun nonempty => ?start
  case step =>
    obtain ⟨qs, hgoes, left, -⟩ := x.goes
    have after := hgoes.backed memory before
    rw [← left, ← follows.state] at after
    exact after.of_values follows.values
  case start =>
    have fresh := h.fresh _ (List.head_mem_head? nonempty)
    intro reported
    rw [fresh] at reported
    cases reported

/-- The reports of the passes in a row of calls, as far as they succeed. -/
def passReports (xs : List (Call c b)) : List PassReport :=
  xs.filterMap fun x => x.done.pass

theorem passReports_cons (x : Call c b) (xs : List (Call c b)) :
    passReports (x :: xs) = x.done.pass.toList ++ passReports xs := by
  unfold passReports
  rw [List.filterMap_cons]
  cases x.done.pass <;> rfl

/-- The reports of passes that find the shutdown standing: the first one says so. -/
def standingReports : Bool → Nat → List PassReport
  | _, 0 => []
  | reported, n + 1 => .shutdownLatched (!reported) :: standingReports true n

theorem standingReports_true (n : Nat) :
    standingReports true n = List.replicate n (.shutdownLatched false) := by
  induction n with
  | zero => rfl
  | succ n ih => rw [standingReports, ih, List.replicate_succ]; rfl

/-- **The calls after one that leaves the shutdown standing.** -/
theorem quiet_after (memory : OnMemory registers b)
    (chain : (x :: later).IsChain (Follows registers))
    (stands : Stands (registers x.left) x.done.control reported) :
    (∀ y ∈ later, y.done.Quiet c (Program.queries y.trace)) ∧
      ∃ n, passReports later = standingReports reported n := by
  induction later generalizing x reported with
  | nil => exact ⟨List.forall_mem_nil _, 0, rfl⟩
  | cons y later ih =>
    obtain ⟨follows, chain⟩ := List.isChain_cons_cons.1 chain
    obtain ⟨qs, hgoes, left, accesses⟩ := y.goes
    rw [← follows.state] at stands
    obtain ⟨quiet, ways⟩ := hgoes.standing memory (stands.of_values follows.values)
    rw [← accesses] at quiet
    rw [← left] at ways
    rcases ways with ⟨none, stands⟩ | ⟨report, stands⟩
    · obtain ⟨quietLater, n, reports⟩ := ih chain stands
      refine ⟨List.forall_mem_cons.2 ⟨quiet, quietLater⟩, n, ?_⟩
      rw [passReports_cons, none, reports]
      rfl
    · obtain ⟨quietLater, n, reports⟩ := ih chain stands
      refine ⟨List.forall_mem_cons.2 ⟨quiet, quietLater⟩, n + 1, ?_⟩
      rw [passReports_cons, report, reports]
      rfl

/-- The shutdown that a call has triggered stands in the calls that follow. -/
structure ShutdownStands (x : Call c b) (later : List (Call c b)) : Prop where
  /-- All passes that succeed report it, the first one of them for the first time. -/
  reports : passReports later = [] ∨
    ∃ n, passReports later = .shutdownLatched true :: List.replicate n (.shutdownLatched false)
  /-- The others fail, but none of them overflows. -/
  bounded : ∀ y ∈ later, y.done.overflow = none
  speeds : ∀ y ∈ later, ∀ f v, speedAccess f v ∈ Program.queries y.trace → v = c.params.full
  /-- Updates of the panel show it from the call on that has triggered it. -/
  panel : ∀ y ∈ x :: later, ∀ leds, y.done.leds = some leds → leds.mode? .system = some .red

/-- **A triggered shutdown is permanent and visible**, in every row of passes, updates of the panel
and periods from a fresh state: whatever the devices do, and whichever registers fail. -/
theorem shutdown_stands (memory : OnMemory registers b)
    (row : InARow registers (earlier ++ x :: later))
    (triggered : ∃ sensor mcelsius threshold,
      x.done.pass = some (.shutdownTriggered sensor mcelsius threshold)) :
    ShutdownStands x later := by
  obtain ⟨sensor, mcelsius, threshold, triggered⟩ := triggered
  have backed := row.backed memory x (List.mem_append_right _ List.mem_cons_self)
  obtain ⟨qs, hgoes, left, -⟩ := x.goes
  obtain ⟨stands, shown⟩ := hgoes.triggered memory triggered backed
  rw [← left] at stands
  obtain ⟨quiet, n, reports⟩ := quiet_after memory row.chain.right_of_append stands
  refine ⟨?_, fun y hy => (quiet y hy).bounded, fun y hy => (quiet y hy).speeds,
    List.forall_mem_cons.2 ⟨shown, fun y hy => (quiet y hy).panel⟩⟩
  rw [reports]
  cases n with
  | zero => exact .inl rfl
  | succ n => exact .inr ⟨n, congrArg _ (standingReports_true n)⟩

section Trial

open Bench

/-- The registers of the bench of records are in memory. -/
theorem onMemory_board (devices : World.DeviceChoice) :
    OnMemory World.registers (World.board devices .memory) where
  answer _ _ := rfl
  next _ _ := rfl
  apart q w other := by
    cases q with
    | controlFile path => rfl
    | register r => exact absurd rfl (other r)
    | device d => cases devices <;> rfl

/-- A period that finds the second core at 101 degrees. -/
def hotPeriod : Call trialController trialBoard :=
  ⟨.period .fresh, .patched 80 [.heat .cpuCore1 101000], .fresh⟩

/-- An update of the panel after it, on a bench where the sensor has cooled down. -/
def cooledPanel : Call trialController trialBoard :=
  ⟨.panel, { World.patched 80 [] with registers := hotPeriod.left.registers },
    hotPeriod.done.control⟩

/-- A pass after that, with its timer failing. -/
def failingPass : Call trialController trialBoard :=
  ⟨.pass, { cooledPanel.left with registers := cooledPanel.left.registers.failAt 0xc7 },
    cooledPanel.done.control⟩

/-- A period after that, with all registers working. -/
def latePeriod : Call trialController trialBoard :=
  ⟨.period .fresh,
    { failingPass.left with registers := { failingPass.left.registers with failing := [] } },
    failingPass.done.control⟩

/-- The shutdown stands on the bench, although the sensor has cooled down and a pass fails. -/
theorem shutdown_stands_at_101 :
    hotPeriod.done.pass = some (.shutdownTriggered .cpuCore1 101000 100000) ∧
      ShutdownStands hotPeriod [cooledPanel, failingPass, latePeriod] := by
  have triggered : hotPeriod.done.pass = some (.shutdownTriggered .cpuCore1 101000 100000) := rfl
  have row : InARow World.registers ([] ++ [hotPeriod, cooledPanel, failingPass, latePeriod]) := by
    refine ⟨fun x hx => ?_, .cons_cons ⟨rfl, rfl⟩ (.cons_cons ⟨rfl, rfl⟩ (.cons_cons ⟨rfl, rfl⟩
      (.singleton _)))⟩
    cases hx
    rfl
  exact ⟨triggered, shutdown_stands (onMemory_board .records) row ⟨_, _, _, triggered⟩⟩

/-- The failing pass reports nothing, so the period after it is the first to report the latch. -/
example : passReports [cooledPanel, failingPass, latePeriod] = [.shutdownLatched true] := rfl

end Trial

end SwitchThermal
