import SwitchThermal.Bench.Trial
import SwitchThermal.Proofs.AttributeFiles
import SwitchThermal.Proofs.Calls
import SwitchThermal.Proofs.Demand
import SwitchThermal.Proofs.Failures
import SwitchThermal.Proofs.SpeedRules

/-!
# Speeds that the hardware accepts

The attribute tree takes speeds from 60 % to 100 % only. On a board whose devices are attribute
files a pass asks for no other one, whatever the files hold: the decay has no upper bound of its
own, but the speed that it starts from is at most 111 %.

* `OnRegisters` — the registers of a board are in memory, in a port file or behind a helper program.
* `Params.Settable` — the parameters keep the speeds in range.
* `Controller.demand_settable` — so a demanded speed is in range.
* `accepted_speeds` — a pass asks for speeds in range, is refused them only by a failing file,
  leaves them in the speed attribute, and ends with no fault but an internal one; so the status of a
  period is 0 or -20.
-/

set_option autoImplicit false

namespace SwitchThermal

variable {σ : Type} {b : Board σ} {c : Controller} {w : σ} {s : ControlState} {root : TreePath}

/-! ## Registers -/

/-- The answer is one that registers in memory, in a port file or behind a helper program give. -/
inductive RegisterAnswer (q : RegisterQuery) : Except Fault q.Payload → Prop where
  | memory (registers : MemoryRegisters) : RegisterAnswer q (MemoryRegisters.bus q registers).answer
  | port (path : TreePath) (tree : FileTree) : RegisterAnswer q (PortFile.bus path q tree).answer
  | helper {τ : Type} (program : String) (start : List String → τ → HelperRun × τ) (state : τ) :
      RegisterAnswer q (HelperBus.bus program start q state).answer

/-- The registers of the board are in memory, in a port file or behind a helper program. -/
def OnRegisters (b : Board σ) : Prop :=
  ∀ q w, RegisterAnswer q (b (.register q) w).answer

theorem kind_of_width {width : Nat} {e : Fault} (h : checkWidth width = .error e) :
    e.kind = .internal := by
  unfold checkWidth at h
  split at h
  · cases h
  · cases h
    rfl

theorem MemoryRegisters.kind_of_fault {q : RegisterQuery} {registers : MemoryRegisters} {e : Fault}
    (h : (MemoryRegisters.bus q registers).answer = .error e) : e.kind = .internal := by
  cases q with
  | read base offset width =>
    rcases bind_eq_error h with refused | ⟨-, -, h⟩
    · exact kind_of_width refused
    · split at h
      · cases h
        rfl
      · cases h
  | write base offset width value =>
    unfold MemoryRegisters.bus at h
    cases written : registers.write base offset width value with
    | ok registers =>
      simp only [written] at h
      cases h
    | error e' =>
      simp only [written] at h
      cases h
      rcases bind_eq_error written with refused | ⟨-, -, h⟩
      · exact kind_of_width refused
      · split at h
        · cases h
          rfl
        · cases h

theorem PortFile.kind_of_fault {path : TreePath} {q : RegisterQuery} {tree : FileTree} {e : Fault}
    (h : (PortFile.bus path q tree).answer = .error e) : e.kind = .internal := by
  cases q with
  | read base offset width =>
    unfold PortFile.bus at h
    cases value : PortFile.read tree path base offset width with
    | ok value =>
      simp only [value] at h
      cases h
    | error e' =>
      simp only [value] at h
      cases h
      rcases bind_eq_error value with refused | ⟨-, -, h⟩
      · exact kind_of_width refused
      · split at h
        · cases h
        · cases h
          rfl
  | write base offset width value =>
    unfold PortFile.bus at h
    cases written : PortFile.write tree path base offset width value with
    | ok tree =>
      simp only [written] at h
      cases h
    | error e' =>
      simp only [written] at h
      cases h
      rcases bind_eq_error written with refused | ⟨-, -, h⟩
      · exact kind_of_width refused
      · split at h
        · cases h
        · cases h
          rfl

theorem HelperBus.kind_of_answer {program : String} {run : HelperRun} {q : RegisterQuery}
    {e : Fault} (h : HelperBus.answer program run q = .error e) : e.kind = .internal := by
  cases q with
  | read base offset width =>
    rw [HelperBus.answer] at h
    split at h
    · cases h
    · cases h
      rfl
  | write base offset width value =>
    rw [HelperBus.answer] at h
    split at h
    · cases h
    · cases h
      rfl

theorem HelperBus.kind_of_fault {τ : Type} {program : String}
    {start : List String → τ → HelperRun × τ} {q : RegisterQuery} {state : τ} {e : Fault}
    (h : (HelperBus.bus program start q state).answer = .error e) : e.kind = .internal := by
  unfold HelperBus.bus at h
  cases width : checkWidth (HelperBus.accessWidth q) with
  | error e' =>
    simp only [width] at h
    cases h
    exact kind_of_width width
  | ok u =>
    simp only [width] at h
    exact kind_of_answer h

/-- A failing register access is an internal fault. -/
theorem RegisterAnswer.kind {q : RegisterQuery} {e : Fault} (h : RegisterAnswer q (.error e)) :
    e.kind = .internal := by
  generalize answer : (.error e : Except Fault q.Payload) = a at h
  cases h with
  | memory registers => exact MemoryRegisters.kind_of_fault answer.symm
  | port path tree => exact PortFile.kind_of_fault answer.symm
  | helper program start state => exact HelperBus.kind_of_fault answer.symm

/-! ## Demanded speeds -/

/-- The parameters keep all speeds between 60 % and 100 %. -/
structure Params.Settable (p : Params) : Prop where
  floor : 60 ≤ p.floor
  full : p.floor ≤ p.full
  scale : p.full ≤ 100
  decay : p.decayFactor ≤ 90

/-- Full speed is in range. -/
theorem Params.Settable.full_range {p : Params} (h : p.Settable) : 60 ≤ p.full ∧ p.full ≤ 100 :=
  ⟨Nat.le_trans h.floor h.full, h.scale⟩

theorem Params.standard_settable : Params.standard.Settable where
  floor := by decide
  full := by decide
  scale := by decide
  decay := by decide

namespace Controller

variable {current v : Nat} {samples : Readings} {R : Round}

/-- The decay starts from a bounded speed, all other rules end at the floor or at full speed. -/
theorem target_settable (params : c.params.Settable) (bounded : current ≤ 111) {band : Band}
    (h : c.target band current samples s = .ok (some v)) : 60 ≤ v ∧ v ≤ 100 := by
  have full := params.full_range
  obtain ⟨floor, ordered, -, decay⟩ := params
  cases band with
  | desired => cases h
  | low =>
    rcases decay_cases h with ⟨none, -⟩ | ⟨-, -, -, speed⟩
    · cases none
    · have slower : current * c.params.decayFactor ≤ 111 * 90 := Nat.mul_le_mul bounded decay
      obtain rfl := Option.some.inj speed
      omega
  | high =>
    obtain raised := Except.ok.inj h
    split at raised
    · obtain rfl := Option.some.inj raised
      omega
    · cases raised
  | veryHigh =>
    rcases escalate_cases h with ⟨none, -⟩ | ⟨none, -⟩ | ⟨factor, scaled, speed, -⟩
    · cases none
    · cases none
    · obtain rfl := Option.some.inj speed
      omega
  | critical =>
    obtain ⟨-, rfl⟩ := override_eq_some (Except.ok.inj h)
    exact full

theorem command_settable (params : c.params.Settable) (bounded : R.speed ≤ 111)
    (h : c.command R s = .ok (some v)) : 60 ≤ v ∧ v ≤ 100 := by
  unfold command chosen at h
  split at h
  · obtain ⟨-, rfl⟩ := override_eq_some (Except.ok.inj h)
    exact params.full_range
  · exact target_settable params bounded h

/-- **A demanded speed is one that the chassis fans can be set to.** -/
theorem demand_settable {d : Demand} (params : c.params.Settable) (bounded : R.speed ≤ 111)
    (h : c.demand R s = some d) : 60 ≤ d.percentage ∧ d.percentage ≤ 100 := by
  obtain ⟨-, -, ⟨-, hd⟩ | ⟨-, -, hd⟩⟩ := demand_met h
  · obtain ⟨-, rfl⟩ := fullSpeedDemand_eq_some hd
    exact params.full_range
  · obtain ⟨v, hv, rfl⟩ := commandDemand_eq_some hd
    exact command_settable params bounded hv

end Controller

/-! ## Periods -/

/-- The status of a period is that of its pass. -/
theorem Period.status_of_run {t : Turn c b} {rails : RailMonitor} {report : PeriodReport}
    (h : ((Period.run c ⟨t.before, rails⟩).run b t.world).value.1 = .ok report) :
    (∃ pass, t.result = .ok pass ∧ report.status = 0) ∨
      ∃ e, t.result = .error (.fault e) ∧ report.status = e.status := by
  obtain ⟨qs, -, pass⟩ := t.course
  have reported (outcome : Except Fault PassReport)
      (ended : t.result = outcome.mapError Halt.fault) :
      report.status = (passOutcome outcome).2 := by
    rw [ended] at pass
    have run := yields_run outcome pass
      (yields_afterPass outcome (Program.yields_run ..) (Program.yields_run b _ rails.scan))
    rw [run.value] at h
    cases h
    rfl
  rcases ended : t.result with (e | e) | r
  · exact .inr ⟨e, rfl, reported (.error e) ended⟩
  · rw [ended] at pass
    rw [(yields_run_overflow rails pass).value] at h
    cases h
  · exact .inl ⟨r, rfl, reported (.ok r) ended⟩

/-! ## Passes -/

/-- What comes of the speeds that a pass asks for, on attribute files below a root. -/
structure AcceptedSpeeds (root : TreePath) (files : σ → FileTree) (t : Turn c b) : Prop where
  /-- Every speed that is asked for is one that the chassis fans can be set to. -/
  range : ∀ v, speedAccess .primary v ∈ Program.queries t.trace → 60 ≤ v ∧ v ≤ 100
  /-- So only a file that cannot be written refuses it. -/
  refused : ∀ v e, .asked (speedAccess .primary v) (.error e) ∈ t.trace →
    ∃ cause, e = .unwritableFile (AttributeTree.speedPath root).text cause
  /-- Once a speed has been accepted, the speed attribute holds a number on the scale. -/
  written : ∀ u rest v, t.trace = u ++ rest → .asked (speedAccess .primary v) (.ok ()) ∈ u →
    ∃ n : Nat, 153 ≤ n ∧ n ≤ 255 ∧
      Attribute.readText (files (b.after t.world (Program.queries u)))
        (AttributeTree.speedPath root) = .ok (toString n)
  /-- A fault at the end of the pass is an internal one. -/
  internal : ∀ e, t.result = .error (.fault e) → e.kind = .internal
  /-- The status of a period with this pass, unless it overflows. -/
  status : ∀ rails report,
    ((Period.run c ⟨t.before, rails⟩).run b t.world).value.1 = .ok report →
      report.status = 0 ∨ report.status = -20

section Pass

variable {files : σ → FileTree} {t : Turn c b}

theorem Turn.requested_settable (onFiles : OnFiles root files b) (params : c.params.Settable)
    {v : Nat} (h : speedAccess .primary v ∈ Program.queries t.trace) : 60 ≤ v ∧ v ≤ 100 := by
  obtain ⟨d, demand, rfl⟩ := t.demanded h
  exact Controller.demand_settable params (Round.speed_le onFiles.overAttributes _ _) demand

/-- An answer in the trace of a pass is one of the board. -/
theorem Turn.answered {q : Query} {a : Except Fault q.Payload} (h : .asked q a ∈ t.trace) :
    q ∈ Program.queries t.trace ∧ ∃ w, (b q w).answer = a := by
  obtain ⟨qs, -, hpass⟩ := t.course
  have recorded : .asked q a ∈ b.record t.world qs := by
    rw [← show answers t.trace = _ from hpass.answers]
    exact mem_answers.2 h
  obtain ⟨before, answer⟩ := Board.answered_of_recorded recorded
  refine ⟨?_, _, answer⟩
  rw [show Program.queries t.trace = qs from hpass.trace]
  exact Board.made_of_recorded recorded

theorem Turn.refused_by_file (onFiles : OnFiles root files b) (params : c.params.Settable) {v : Nat}
    {e : Fault} (h : .asked (speedAccess .primary v) (.error e) ∈ t.trace) :
    ∃ cause, e = .unwritableFile (AttributeTree.speedPath root).text cause := by
  obtain ⟨made, w, answer⟩ := Turn.answered h
  rw [onFiles.answer, AttributeTree.devices_setFan] at answer
  cases set : AttributeTree.setFan (files w) root .primary v with
  | ok tree =>
    rw [set] at answer
    cases answer
  | error e' =>
    rw [set] at answer
    cases answer
    exact AttributeTree.refused_by_file (t.requested_settable onFiles params made) set

/-- A fatal access fails with an internal fault. -/
theorem Turn.kind_of_fatal (onFiles : OnFiles root files b) (onRegisters : OnRegisters b)
    (params : c.params.Settable) {q : Query} {e : Fault} (h : .asked q (.error e) ∈ t.trace)
    (fatal : q.fatal = true) : e.kind = .internal := by
  obtain ⟨-, w, answer⟩ := Turn.answered h
  cases q with
  | controlFile path => cases fatal
  | register q =>
    have given := onRegisters q w
    rw [answer] at given
    exact given.kind
  | device q =>
    cases q with
    | sensor x | supply p | rail r | setLed led mode => cases fatal
    | fan f =>
      rw [onFiles.answer] at answer
      exact AttributeTree.kind_of_unreadable answer
    | setFan f v =>
      obtain rfl : f = .primary := of_decide_eq_true fatal
      obtain ⟨cause, rfl⟩ := t.refused_by_file onFiles params h
      rfl

end Pass

/-- **A pass asks only for speeds that the hardware accepts**, on attribute files that may hold
anything and registers that may fail, from every control state. -/
theorem accepted_speeds {files : σ → FileTree} (onFiles : OnFiles root files b)
    (onRegisters : OnRegisters b) (params : c.params.Settable) (t : Turn c b) :
    AcceptedSpeeds root files t := by
  have internal : ∀ e, t.result = .error (.fault e) → e.kind = .internal := by
    intro e fault
    obtain ⟨u, q, v, split, fatal, -⟩ := Turn.fatal_of_fault fault
    refine t.kind_of_fatal onFiles onRegisters params ?_ fatal
    rw [split]
    exact List.mem_append_right _ List.mem_cons_self
  refine ⟨fun v => t.requested_settable onFiles params,
    fun v e => t.refused_by_file onFiles params, ?written, internal, ?status⟩
  case written =>
    intro u rest v split accepted
    have made : speedAccess .primary v ∈ Program.queries t.trace := by
      refine (Turn.answered (a := .ok ()) ?_).1
      rw [split]
      exact List.mem_append_left _ accepted
    obtain ⟨least, greatest⟩ := t.requested_settable onFiles params made
    obtain ⟨before, follow, view, accesses, answer, following⟩ :=
      t.accesses_of_accepted split accepted
    refine ⟨v * AttributeTree.speedScale / 100, ?_, ?_, ?_⟩
    · unfold AttributeTree.speedScale
      omega
    · unfold AttributeTree.speedScale
      omega
    · rw [accesses, Board.after_append, Board.after_cons, onFiles.after_follow following]
      exact onFiles.speed_set answer
  case status =>
    intro rails report h
    rcases Period.status_of_run h with ⟨pass, -, fine⟩ | ⟨e, fault, failed⟩
    · exact .inl fine
    · rw [failed, Fault.status, internal e fault]
      exact .inr rfl

section Trial

open Bench

/-- The bench with attribute files is on them. -/
theorem onFiles_board (root : TreePath) (registers : World.RegisterChoice) :
    OnFiles root World.tree (World.board (.attributes root) registers) where
  answer _ _ := rfl
  next _ _ := rfl

/-- Its registers are of the three kinds. -/
theorem onRegisters_board (devices : World.DeviceChoice) (registers : World.RegisterChoice) :
    OnRegisters (World.board devices registers) := by
  intro q w
  cases registers with
  | memory => exact .memory w.registers
  | port path => exact .port path w.tree
  | helper program => exact .helper program (World.start program) w

/-- A pass on a bench whose first core is at 75 °C. -/
def climbingTurn : Turn trialController attributeBoard :=
  ⟨.bare .cpuCore0 75000, .fresh⟩

/-- The steady climb from 80 % is accepted. -/
theorem accepted_speeds_at_75 :
    climbingTurn.result.toOption =
        some (.managed .veryHigh (some ⟨.cpuCore0, 75000⟩) false false (some 88)) ∧
      AcceptedSpeeds (.ofText "/bsp") World.tree climbingTurn := by
  refine ⟨by decide +kernel, ?_⟩
  exact accepted_speeds (onFiles_board _ _) (onRegisters_board _ _) Params.standard_settable _

end Trial

end SwitchThermal
