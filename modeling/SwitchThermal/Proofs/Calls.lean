import SwitchThermal.Proofs.History
import SwitchThermal.Proofs.PanelRun

/-!
# Calls of all kinds in a row

A board is not only looked after by passes: the panel is updated between them, and a period does
both. A call is one of the three; calls in a row share the control state and the board.

* `Activity` — what is called; `Activity.program` is the program that it runs.
* `Call` — a call, by the board's state and the control state that it finds.
* `Goes` — how a call goes: a pass has a course, the panel is updated, and a period is a pass and an
  update unless the pass overflows.
* `Period.yields_run` — a period, put together from its pass and what follows it.
* `Call.goes` — every call goes in one of the ways.
-/

set_option autoImplicit false

namespace SwitchThermal

variable {σ : Type} {c : Controller} {b : Board σ} {w : σ} {s : ControlState}

/-! ## Calls -/

/-- What is called. -/
inductive Activity where
  | pass
  /-- An update of the panel. -/
  | panel
  | period (rails : RailMonitor)
  deriving DecidableEq, Repr

/-- How a call ends. A pass or an update that fails is missing. -/
structure CallEnd where
  control : ControlState
  pass : Option PassReport := none
  leds : Option LedReport := none
  overflow : Option Overflow := none
  deriving DecidableEq, Repr

namespace CallEnd

def ofPass : Except Halt PassReport × ControlState → CallEnd
  | (.ok report, s) => { control := s, pass := some report }
  | (.error (.fault _), s) => { control := s }
  | (.error (.overflow e), s) => { control := s, overflow := some e }

def ofPanel (s : ControlState) (r : Except Fault LedReport) : CallEnd :=
  { control := s, leds := r.toOption }

def ofPeriod : Except Overflow PeriodReport × PeriodState → CallEnd
  | (.ok report, s) => { control := s.control, pass := report.pass, leds := report.leds }
  | (.error e, s) => { control := s.control, overflow := some e }

@[simp] theorem control_ofPass (r : Except Halt PassReport) (s : ControlState) :
    (ofPass (r, s)).control = s := by
  rcases r with (e | e) | report <;> rfl

end CallEnd

/-- The program of a call. -/
def Activity.program (c : Controller) (s : ControlState) : Activity → Program CallEnd
  | .pass => CallEnd.ofPass <$> c.pass.run.run s
  | .panel => CallEnd.ofPanel s <$> Panel.update.run
  | .period rails => CallEnd.ofPeriod <$> Period.run c ⟨s, rails⟩

/-- A call on a board, by what it finds. -/
structure Call (c : Controller) (b : Board σ) where
  activity : Activity
  world : σ
  before : ControlState

namespace Call

/-- What comes of the call. -/
def outcome (x : Call c b) : Outcome σ CallEnd :=
  (x.activity.program c x.before).run b x.world

def done (x : Call c b) : CallEnd :=
  x.outcome.value

/-- The state in which the call leaves the board. -/
def left (x : Call c b) : σ :=
  x.outcome.world

def trace (x : Call c b) : List Entry :=
  x.outcome.trace

end Call

/-! ## How calls go -/

/-- How a call goes: with an end, after some accesses. -/
inductive Goes (c : Controller) (b : Board σ) (w : σ) (s : ControlState) :
    Activity → CallEnd → List Query → Prop where
  | pass {r : Except Halt PassReport} {s' : ControlState} {qs : List Query}
      (course : c.Course b w s r s' qs) : Goes c b w s .pass (.ofPass (r, s')) qs
  | panel {r : Except Fault LedReport} {qs : List Query} (update : Panel.Updates b w r qs) :
      Goes c b w s .panel (.ofPanel s r) qs
  /-- The rails are scanned after the panel has been updated. -/
  | period {rails : RailMonitor} {outcome : Except Fault PassReport} {s' : ControlState}
      {r : Except Fault LedReport} {qs us rs : List Query}
      (course : c.Course b w s (outcome.mapError Halt.fault) s' qs)
      (update : Panel.Updates b (b.after w qs) r us) (scan : ∀ q ∈ rs, WatchAccess q) :
      Goes c b w s (.period rails)
        { CallEnd.ofPass (outcome.mapError Halt.fault, s') with leds := r.toOption }
        (qs ++ (us ++ rs))
  /-- An overflow of its pass ends a period. -/
  | stopped {rails : RailMonitor} {e : Overflow} {s' : ControlState} {qs : List Query}
      (course : c.Course b w s (.error (.overflow e)) s' qs) :
      Goes c b w s (.period rails) (.ofPass (.error (.overflow e), s')) qs

/-- In a period, a panel that cannot be updated is passed over. -/
theorem Period.yields_updatePanel {r : Except Fault LedReport} {qs : List Query}
    (h : Program.Yields b w Panel.update.run r qs) :
    Program.Yields b w Period.updatePanel r.toOption qs := by
  refine h.bind_quiet ?_
  cases r with
  | ok report => exact .pure _
  | error e => exact (Program.Yields.tell _).bind_quiet (.pure _)

/-- The part of a period that follows its pass: an update of the panel, then a scan of the rails. -/
theorem Period.yields_afterPass (outcome : Except Fault PassReport) {rails rails' : RailMonitor}
    {r : Except Fault LedReport} {alarms : List RailAlarm} {us rs : List Query}
    (update : Program.Yields b w Panel.update.run r us)
    (scan : Program.Yields b (b.after w us) rails.scan (alarms, rails') rs) :
    Program.Yields b w (Period.afterPass outcome rails)
      (⟨outcome.toOption, r.toOption, alarms, (passOutcome outcome).2⟩, rails') (us ++ rs) := by
  -- the report is told by the outcome, so the last step is taken for each kind of outcome
  cases outcome <;> exact (Program.Yields.tell _).bind
    ((yields_updatePanel update).bind (scan.bind_quiet (.pure _)))

/-- A period goes on after a pass that does not overflow. -/
theorem Period.yields_run (outcome : Except Fault PassReport) {s' : ControlState}
    {rails rails' : RailMonitor} {report : PeriodReport} {qs rs : List Query}
    (pass : Pass.Yields b w s c.pass (outcome.mapError Halt.fault) s' qs)
    (rest : Program.Yields b (b.after w qs) (Period.afterPass outcome rails) (report, rails') rs) :
    Program.Yields b w (Period.run c ⟨s, rails⟩) (.ok report, ⟨s', rails'⟩) (qs ++ rs) := by
  cases outcome <;> exact Program.Yields.bind pass (rest.bind_quiet (.pure _))

/-- An overflow of its pass ends a period. -/
theorem Period.yields_run_overflow {e : Overflow} {s' : ControlState} {qs : List Query}
    (rails : RailMonitor) (pass : Pass.Yields b w s c.pass (.error (.overflow e)) s' qs) :
    Program.Yields b w (Period.run c ⟨s, rails⟩) (.error e, ⟨s', rails⟩) qs :=
  Program.Yields.bind_quiet pass (.pure _)

theorem goes_period (rails : RailMonitor) {s' : ControlState} {qs : List Query}
    (outcome : Except Fault PassReport)
    (course : c.Course b w s (outcome.mapError Halt.fault) s' qs)
    (hpass : Pass.Yields b w s c.pass (outcome.mapError Halt.fault) s' qs) :
    ∃ done all, Goes c b w s (.period rails) done all ∧
      Program.Yields b w (Activity.program c s (.period rails)) done all := by
  obtain ⟨r, us, updates, hupdate⟩ := Panel.update_updates b (b.after w qs)
  obtain ⟨alarms, rails', rs, hscan, hrs⟩ : ∃ alarms rails' rs,
      Program.Yields b (b.after (b.after w qs) us) rails.scan (alarms, rails') rs ∧
        ∀ q ∈ rs, WatchAccess q :=
    ⟨_, _, _, ⟨rfl, rfl⟩, (RailMonitor.scanOver_only Rail.all rails).queries b _⟩
  have ending : CallEnd.ofPeriod
      (.ok ⟨outcome.toOption, r.toOption, alarms, (Period.passOutcome outcome).2⟩, ⟨s', rails'⟩) =
      { CallEnd.ofPass (outcome.mapError Halt.fault, s') with leds := r.toOption } := by
    cases outcome <;> rfl
  have run := Period.yields_run outcome hpass (Period.yields_afterPass outcome hupdate hscan)
  exact ⟨_, _, .period course updates hrs, ending ▸ run.map _⟩

/-- **Every call goes in one of the ways.** -/
theorem Call.goes (x : Call c b) :
    ∃ qs, Goes c b x.world x.before x.activity x.done qs ∧ x.left = b.after x.world qs ∧
      Program.queries x.trace = qs := by
  obtain ⟨activity, w, s⟩ := x
  suffices h : ∃ done qs, Goes c b w s activity done qs ∧
      Program.Yields b w (activity.program c s) done qs by
    obtain ⟨done, qs, hgoes, hrun⟩ := h
    obtain rfl := hrun.value
    exact ⟨qs, hgoes, hrun.world, hrun.queries⟩
  obtain ⟨r, s', qs, course, hpass⟩ := Controller.pass_course c b w s
  cases activity with
  | pass => exact ⟨_, qs, .pass course, Program.Yields.map hpass _⟩
  | panel =>
    obtain ⟨r', us, updates, hupdate⟩ := Panel.update_updates b w
    exact ⟨_, us, .panel updates, hupdate.map _⟩
  | period rails =>
    rcases r with (e | e) | report
    · exact goes_period rails (.error e) course hpass
    · exact ⟨_, qs, .stopped course, (Period.yields_run_overflow rails hpass).map _⟩
    · exact goes_period rails (.ok report) course hpass

end SwitchThermal
