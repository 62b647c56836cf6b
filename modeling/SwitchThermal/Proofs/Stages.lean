import SwitchThermal.Proofs.AcceptedSpeeds
import SwitchThermal.Proofs.Calls
import SwitchThermal.Proofs.RailFiles

/-!
# The stages of a period

A period is a pass, an update of the LEDs and a scan of the rails on one board, and each finds what
the ones before it have written. Still none disturbs the next: a failed pass skips and changes
nothing, and the rails do not notice what has been set.

* `Tick` — one period of a row; `Tick.pass`, `Tick.panel` and `Tick.scan` are its stages, each on
  the board as the one before it has left it.
* `Tick.Composed` — what the report of a period says, stage by stage.
* `Tick.reports_iff`, `Tick.composed` — only an overflow keeps a period from having a report, and
  every report is composed like this.
* `Controller.periods` — the periods of a row.
* `stages_apart` — two rows whose rails agree.
-/

set_option autoImplicit false

namespace SwitchThermal

variable {σ τ : Type} {c c' : Controller} {b : Board σ} {b' : Board τ}

/-! ## The read of the status -/

/-- An update of the panel reads the status once, and it has a report if and only if the read
succeeds. -/
theorem Panel.Updates.status_read {w : σ} {r : Except Fault LedReport} {qs : List Query}
    (h : Updates b w r qs) : ∃ before answer later,
      b.record w qs = before ++ .asked (.register Watchdog.statusQuery) answer :: later ∧
        (∀ q ∈ Program.queries before ++ Program.queries later, WatchAccess q) ∧
        (r.toOption.isSome = true ↔ ∃ status, answer = .ok status) := by
  cases h with
  | @unreadable e before watches unreadable =>
    refine ⟨b.record w before, .error e, [], ?_, ?_, iff_of_false Bool.false_ne_true nofun⟩
    · rw [Board.record_append, Board.record_cons, unreadable]
      rfl
    · rw [Program.queries_record, Program.queries_nil, List.append_nil]
      exact watches
  | @lit status mode others before later watches read elsewhere red follow =>
    have parts : b.record w (before ++ .register Watchdog.statusQuery :: later) =
        b.record w before ++ .asked (.register Watchdog.statusQuery) (.ok status) ::
          b.record (b (.register Watchdog.statusQuery) (b.after w before)).next later := by
      rw [Board.record_append, Board.record_cons, read]
    refine ⟨_, _, _, parts, ?_, iff_of_true rfl ⟨status, rfl⟩⟩
    rw [Program.queries_record, Program.queries_record]
    exact List.forall_mem_append.2 ⟨watches, follow⟩

theorem Fault.status_ne_zero (e : Fault) : e.status ≠ 0 := by
  unfold status
  cases e.kind <;> decide

/-! ## Periods -/

/-- A period of a controller on a board, by what it finds. -/
structure Tick (c : Controller) (b : Board σ) where
  world : σ
  before : PeriodState

namespace Tick

/-- What comes of the period. -/
def outcome (t : Tick c b) : Outcome σ (Except Overflow PeriodReport × PeriodState) :=
  (Period.run c t.before).run b t.world

def result (t : Tick c b) : Except Overflow PeriodReport :=
  t.outcome.value.1

/-- The state that the period hands on. -/
def after (t : Tick c b) : PeriodState :=
  t.outcome.value.2

def trace (t : Tick c b) : List Entry :=
  t.outcome.trace

/-- The pass of the period. -/
def pass (t : Tick c b) : Turn c b :=
  ⟨t.world, t.before.control⟩

/-- An update of the panel, on the board as the pass leaves it. -/
def panel (t : Tick c b) : Outcome σ (Except Fault LedReport) :=
  Panel.update.run.run b t.pass.outcome.world

/-- A scan of the rails, on the board as the update of the panel leaves it. -/
def scan (t : Tick c b) : RailScan b :=
  ⟨t.before.rails, t.panel.world⟩

/-- What a report is composed of. -/
structure Composed (t : Tick c b) (report : PeriodReport) : Prop where
  /-- The stages run one after another, whatever comes of the pass. -/
  stages : answers t.trace =
    answers t.pass.trace ++ (answers t.panel.trace ++ answers t.scan.outcome.trace)
  passed : ∀ r, t.pass.result = .ok r → report.pass = some r ∧ report.status = 0
  failed : ∀ e, t.pass.result = .error (.fault e) → report.pass = none ∧ report.status = e.status
  status : report.pass.isSome = true ↔ report.status = 0
  /-- The LEDs are those of the update of the panel alone. -/
  leds : report.leds = t.panel.value.toOption
  /-- They are missing exactly if the status cannot be read, which is read once. -/
  lit : ∃ before answer later,
    answers t.panel.trace =
        before ++ .asked (.register Watchdog.statusQuery) answer :: later ∧
      (∀ q ∈ Program.queries before ++ Program.queries later, WatchAccess q) ∧
      (report.leds.isSome = true ↔ ∃ status, answer = .ok status)
  alarms : report.railAlarms = t.scan.alarms

/-- The report of a period whose pass ends with this outcome. -/
def reportOf (t : Tick c b) (outcome : Except Fault PassReport) : PeriodReport :=
  ⟨outcome.toOption, t.panel.value.toOption, t.scan.alarms, (Period.passOutcome outcome).2⟩

theorem pass_yields (t : Tick c b) : Pass.Yields b t.world t.before.control c.pass t.pass.result
    t.pass.after (Program.queries t.pass.trace) := ⟨rfl, rfl⟩

theorem panel_yields (t : Tick c b) : Program.Yields b t.pass.outcome.world Panel.update.run
    t.panel.value (Program.queries t.panel.trace) := ⟨rfl, rfl⟩

theorem scan_yields (t : Tick c b) : Program.Yields b t.panel.world t.before.rails.scan
    (t.scan.alarms, t.scan.after) (Program.queries t.scan.outcome.trace) := ⟨rfl, rfl⟩

/-- The update of the panel finds what the pass has left. -/
theorem pass_world (t : Tick c b) :
    t.pass.outcome.world = b.after t.world (Program.queries t.pass.trace) :=
  t.pass_yields.world

/-- The scan finds what the update of the panel has left. -/
theorem panel_world (t : Tick c b) :
    t.panel.world = b.after t.pass.outcome.world (Program.queries t.panel.trace) :=
  t.panel_yields.world

/-- **The stages of a period**, after a pass that does not overflow. -/
theorem yields (t : Tick c b) {outcome : Except Fault PassReport}
    (h : t.pass.result = outcome.mapError Halt.fault) :
    Program.Yields b t.world (Period.run c t.before)
      (.ok (t.reportOf outcome), ⟨t.pass.after, t.scan.after⟩)
      (Program.queries t.pass.trace ++
        (Program.queries t.panel.trace ++ Program.queries t.scan.outcome.trace)) := by
  have pass := t.pass_yields
  rw [h] at pass
  have scan := t.scan_yields
  rw [panel_world] at scan
  have rest := Period.yields_afterPass outcome t.panel_yields scan
  rw [pass_world] at rest
  exact Period.yields_run outcome pass rest

/-- An overflow of its pass ends a period. -/
theorem result_of_overflow {t : Tick c b} {e : Overflow}
    (h : t.pass.result = .error (.overflow e)) : t.result = .error e := by
  have pass := t.pass_yields
  rw [h] at pass
  exact congrArg Prod.fst (Period.yields_run_overflow t.before.rails pass).value

theorem result_of_outcome {t : Tick c b} {outcome : Except Fault PassReport}
    (h : t.pass.result = outcome.mapError Halt.fault) : t.result = .ok (t.reportOf outcome) :=
  congrArg Prod.fst (t.yields h).value

/-- A pass has an outcome or overflows. -/
theorem pass_cases (t : Tick c b) :
    (∃ outcome : Except Fault PassReport, t.pass.result = outcome.mapError Halt.fault) ∨
      ∃ e, t.pass.result = .error (.overflow e) := by
  rcases h : t.pass.result with (e | e) | report
  · exact .inl ⟨.error e, rfl⟩
  · exact .inr ⟨e, rfl⟩
  · exact .inl ⟨.ok report, rfl⟩

/-- Only an overflow of its pass keeps a period from having a report. -/
theorem reports_iff (t : Tick c b) :
    (∃ report, t.result = .ok report) ↔ ∀ e, t.pass.result ≠ .error (.overflow e) := by
  rcases t.pass_cases with ⟨outcome, h⟩ | ⟨e, h⟩
  · refine iff_of_true ⟨_, result_of_outcome h⟩ fun e overflow => ?_
    rw [h] at overflow
    cases outcome <;> cases overflow
  · refine iff_of_false ?_ fun calm => calm e h
    rintro ⟨report, reported⟩
    rw [result_of_overflow h] at reported
    cases reported

theorem composed_of_outcome {t : Tick c b} {outcome : Except Fault PassReport}
    (h : t.pass.result = outcome.mapError Halt.fault) : t.Composed (t.reportOf outcome) where
  stages := by
    have split : answers t.trace = b.record t.world _ := (t.yields h).answers
    have pass : answers t.pass.trace = b.record t.world _ := t.pass_yields.answers
    have update : answers t.panel.trace = b.record t.pass.outcome.world _ :=
      t.panel_yields.answers
    have scan : answers t.scan.outcome.trace = b.record t.panel.world _ := t.scan_yields.answers
    rw [split, Board.record_append, Board.record_append, ← pass_world, ← panel_world, pass, update,
      scan]
  passed r hr := by
    rw [h] at hr
    cases outcome <;> cases hr
    exact ⟨rfl, rfl⟩
  failed e he := by
    rw [h] at he
    cases outcome <;> cases he
    exact ⟨rfl, rfl⟩
  status := by
    cases outcome with
    | ok r => exact iff_of_true rfl rfl
    | error e => exact iff_of_false Bool.false_ne_true e.status_ne_zero
  leds := rfl
  lit := by
    -- an update makes one read of a register, so the read below is that one
    obtain ⟨r, qs, updates, update⟩ := Panel.update_updates b t.pass.outcome.world
    obtain ⟨before, answer, later, parts, watches, lit⟩ := updates.status_read
    refine ⟨before, answer, later, update.answers.trans parts, watches, ?_⟩
    rw [← lit, ← update.value]
    rfl
  alarms := rfl

/-- **Every report is composed of its stages.** -/
theorem composed {t : Tick c b} {report : PeriodReport} (h : t.result = .ok report) :
    t.Composed report := by
  rcases t.pass_cases with ⟨outcome, hpass⟩ | ⟨e, hpass⟩
  · rw [result_of_outcome hpass] at h
    obtain rfl := Except.ok.inj h
    exact composed_of_outcome hpass
  · rw [result_of_overflow hpass] at h
    cases h

variable {root root' : TreePath} {files : σ → FileTree} {files' : τ → FileTree}

/-- The scan of a period finds what the attributes of the rails held at its start. -/
theorem railTexts_scan (onFiles : OnFiles root files b) (aside : RailsAside root files b)
    (t : Tick c b) : AttributeTree.railTexts root (files t.scan.world) =
      AttributeTree.railTexts root (files t.world) := by
  have found : t.scan.world = t.panel.world := rfl
  rw [found, panel_world, onFiles.railTexts_after aside, pass_world, onFiles.railTexts_after aside]

/-- **Periods that find the same rails raise the same alarms.** -/
theorem alarms_congr (onFiles : OnFiles root files b) (aside : RailsAside root files b)
    (onFiles' : OnFiles root' files' b') (aside' : RailsAside root' files' b') {t : Tick c b}
    {u : Tick c' b'} {report report' : PeriodReport}
    (same : AttributeTree.railTexts root (files t.world) =
      AttributeTree.railTexts root' (files' u.world))
    (h : t.result = .ok report) (h' : u.result = .ok report') :
    report.railAlarms = report'.railAlarms := by
  rw [(composed h).alarms, (composed h').alarms]
  refine RailScan.alarms_congr onFiles onFiles' ?_
  rw [railTexts_scan onFiles aside, railTexts_scan onFiles' aside', same]

end Tick

/-! ## Periods in a row -/

/-- The periods on a board in the given states, one after another. -/
def Controller.periods (c : Controller) (b : Board σ) : PeriodState → List σ → List (Tick c b)
  | _, [] => []
  | s, w :: ws => ⟨w, s⟩ :: periods c b (Tick.after (c := c) (b := b) ⟨w, s⟩) ws

/-- **The stages of a period do not disturb each other.** Two rows of periods whose rails agree at
the start of each period raise the same alarms, whatever else is different: the controllers, what
has happened before, the other files, the registers and their failures. And each period has a report
unless its pass overflows, of which each part is what its stage alone gives on the board that it
finds; so the LEDs depend only on what the pass has left. -/
theorem stages_apart (c c' : Controller) {root root' : TreePath} {files : σ → FileTree}
    {files' : τ → FileTree} (onFiles : OnFiles root files b) (aside : RailsAside root files b)
    (onFiles' : OnFiles root' files' b') (aside' : RailsAside root' files' b') {ws : List σ}
    {ws' : List τ} (same : List.Forall₂ (fun w w' => AttributeTree.railTexts root (files w) =
      AttributeTree.railTexts root' (files' w')) ws ws') (s s' : PeriodState) :
    (∀ (k : Nat) (t : Tick c b) (u : Tick c' b') (report report' : PeriodReport),
        (c.periods b s ws)[k]? = some t → (c'.periods b' s' ws')[k]? = some u →
        t.result = .ok report → u.result = .ok report' →
          report.railAlarms = report'.railAlarms) ∧
      ∀ t : Tick c b,
        ((∃ report, t.result = .ok report) ↔ ∀ e, t.pass.result ≠ .error (.overflow e)) ∧
          ∀ report, t.result = .ok report → t.Composed report ∧
            ∀ (d : Controller) (u : Tick d b) (report' : PeriodReport), u.result = .ok report' →
              u.pass.outcome.world = t.pass.outcome.world → report'.leds = report.leds := by
  refine ⟨?alarms, fun t => ⟨t.reports_iff, fun report h => ⟨Tick.composed h, ?leds⟩⟩⟩
  case alarms =>
    -- each period is told by the board that it finds, so the induction only walks along the rows,
    -- whatever states they hand on
    intro k
    induction same generalizing s s' k with
    | nil =>
      intro t u report report' ht
      cases ht
    | cons here _ ih =>
      intro t u report report' ht hu
      cases k with
      | zero =>
        cases ht
        cases hu
        exact Tick.alarms_congr onFiles aside onFiles' aside' here
      | succ k => exact ih _ _ k t u report report' ht hu
  case leds =>
    intro d u report' h' left
    rw [(Tick.composed h').leds, (Tick.composed h).leds, Tick.panel, Tick.panel, left]

section Trial

open Bench

/-- Registers in memory are no files. -/
theorem railsAside_memory (root : TreePath) :
    RailsAside root World.tree (World.board (.attributes root) .memory) where
  register _ _ := rfl
  controlFile _ _ := rfl

/-- A bench with a single rail, that is to be between 900 mV and 1100 mV, and some other files. -/
def railWorld (others : List (Place × Node)) : World where
  tree :=
    ⟨(["bsp"], .directory) :: (["bsp", "voltage"], .directory) ::
      numberFile ["voltage", Rail.sys.stem ++ "_in"] 899 ::
      numberFile ["voltage", Rail.sys.stem ++ "_min"] 900 ::
      numberFile ["voltage", Rail.sys.stem ++ "_max"] 1100 :: others⟩

/-- A board without files, that shows a rail by the second period. -/
def idleWorlds : List World :=
  [{}, railWorld []]

/-- The same rail, on a board that is too hot and whose status can never be read. -/
def troubledWorlds : List World :=
  let registers := MemoryRegisters.fresh.failAt Watchdog.statusOffset
  let core := numberFile ["thermal", Sensor.cpuCore0.fileName] 101000
  [{ registers }, { railWorld [(["bsp", "thermal"], .directory), core] with registers }]

/-- What the second period of a row reports. -/
def secondReport (s : PeriodState) (ws : List World) : Option PeriodReport :=
  (trialController.periods attributeBoard s ws)[1]?.bind fun t => t.result.toOption

/-- A pass that is switched off succeeds, and one that cannot read the status fails. The rail is
alarmed all the same. -/
theorem stages_apart_in_trouble :
    ∃ r r', secondReport { control := { initialised := true } } idleWorlds = some r ∧
      secondReport {} troubledWorlds = some r' ∧ r.railAlarms = r'.railAlarms ∧
      r.railAlarms = [⟨.sys, 899, ⟨900, 1100⟩⟩] ∧ r.leds.isSome = true ∧ r'.leds = none ∧
      r.status = 0 ∧ r'.status = -20 := by
  have idle : (secondReport { control := { initialised := true } } idleWorlds).map
      (fun r => (r.railAlarms, r.leds.isSome, r.status)) =
        some ([⟨.sys, 899, ⟨900, 1100⟩⟩], true, 0) := by
    decide +kernel
  have troubled : (secondReport {} troubledWorlds).map (fun r => (r.leds, r.status)) =
      some (none, -20) := by
    decide +kernel
  have rails : ∀ w w', idleWorlds[1]? = some w → troubledWorlds[1]? = some w' → ∀ r ∈ Rail.all,
      AttributeTree.railTexts (.ofText "/bsp") w.tree r =
        AttributeTree.railTexts (.ofText "/bsp") w'.tree r := by
    rintro _ _ ⟨⟩ ⟨⟩
    decide +kernel
  have alike : List.Forall₂ (fun w w' => AttributeTree.railTexts (.ofText "/bsp") (World.tree w) =
      AttributeTree.railTexts (.ofText "/bsp") (World.tree w')) idleWorlds troubledWorlds :=
    .cons rfl (.cons (funext fun r => rails _ _ rfl rfl r (Listed.mem_all r)) .nil)
  obtain ⟨alarmed, -⟩ := stages_apart trialController trialController (onFiles_board _ .memory)
    (railsAside_memory _) (onFiles_board _ .memory) (railsAside_memory _) alike
    { control := { initialised := true } } {}
  obtain ⟨r, reported, parts⟩ := Option.map_eq_some_iff.1 idle
  obtain ⟨r', reported', parts'⟩ := Option.map_eq_some_iff.1 troubled
  obtain ⟨t, ht, hr⟩ := Option.bind_eq_some_iff.1 reported
  obtain ⟨u, hu, hr'⟩ := Option.bind_eq_some_iff.1 reported'
  obtain ⟨alarms, parts⟩ := Prod.mk.inj parts
  obtain ⟨lit, fine⟩ := Prod.mk.inj parts
  obtain ⟨dark, failed⟩ := Prod.mk.inj parts'
  have ok_of {x : Except Overflow PeriodReport} {a : PeriodReport} (h : x.toOption = some a) :
      x = .ok a := by
    cases x <;> cases h
    rfl
  have same := alarmed 1 t u r r' ht hu (ok_of hr) (ok_of hr')
  exact ⟨r, r', reported, reported', same, alarms, lit, dark, fine, failed⟩

end Trial

end SwitchThermal
