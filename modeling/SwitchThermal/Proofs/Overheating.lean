import SwitchThermal.Bench.Trial
import SwitchThermal.Proofs.Pass
import SwitchThermal.Proofs.SpeedRules

/-!
# Overheating is never missed

A sensor above the lower bound of its critical band either latches the shutdown or puts the pass
into the critical band, whatever else the board reports. The bands are open intervals, so a
temperature past the top of the critical band is in no band at all; what saves the board there is
that the shutdown limit of every sensor that steers the fans lies inside its critical band.

* `shutdown_inside_critical` — that fact of the tables.
* `overheated_trips_or_critical` — one overheated reading.
* `command_critical` — what a pass in the critical band commands.
* `Answered` — what a pass may do about an overheated sensor.
* `overheating_never_missed` — every pass that gets as far as the sensors.
-/

set_option autoImplicit false

namespace SwitchThermal

variable {σ : Type}

/-! ## The tables -/

/-- The shutdown limit of a sensor that steers the fans lies inside its critical band. -/
theorem shutdown_inside_critical : ∀ x ∈ BandTable.board.relevant,
    0 < (Limits.ofSensor x).shutdown ∧
      (BandTable.board.bands x).critical.low < (Limits.ofSensor x).shutdown ∧
      (Limits.ofSensor x).shutdown < (BandTable.board.bands x).critical.high := by
  decide

theorem Bands.classify_critical {bs : Bands} {m : Int} (h : bs.critical.contains m = true) :
    bs.classify m = some .critical := by
  unfold classify Band.hottestFirst
  exact List.find?_cons_of_pos h

/-- A reading above the lower bound of the critical band is above the shutdown limit or in the
critical band. -/
theorem overheated_trips_or_critical {x : Sensor} {r : SensorReading}
    (hx : x ∈ BandTable.board.relevant) (usable : r.usable = true)
    (limits : r.limits = .ofSensor x)
    (above : (BandTable.board.bands x).critical.low < r.mcelsius) :
    trips (x, .ok r) = true ∨ BandTable.board.classify x r.mcelsius = some .critical := by
  obtain ⟨pos, low, high⟩ := shutdown_inside_critical x hx
  by_cases hm : (Limits.ofSensor x).shutdown < r.mcelsius
  · left
    simp [trips, usable, limits, Limits.exceedsShutdown, pos, hm]
  · right
    refine Bands.classify_critical ?_
    have top : r.mcelsius < (BandTable.board.bands x).critical.high := by omega
    have active : (BandTable.board.bands x).critical.low <
        (BandTable.board.bands x).critical.high := by omega
    simp [Interval.contains, Interval.active, above, top, active]

/-! ## The pass -/

namespace Round

variable {R : Round} {table : BandTable} {x : Sensor} {r : SensorReading}

/-- One usable reading in the critical band puts the whole round there. -/
theorem band_critical (h : (x, .ok r) ∈ R.sensors) (usable : r.usable = true)
    (hband : table.classify x r.mcelsius = some .critical) : R.band table = .critical := by
  have not_below : ¬ (R.band table).rank ≤ 3 := by
    intro hle
    obtain ⟨-, hall⟩ := Sweep.rank_gather_le.1 hle
    have := hall x r h usable
    rw [hband] at this
    exact absurd this (by decide)
  cases hb : R.band table with
  | critical => rfl
  | low | desired | high | veryHigh =>
    rw [hb] at not_below
    exact absurd (by decide) not_below

end Round

/-- In the critical band the command is full speed, with or without a problem. -/
theorem command_critical {c : Controller} {R : Round} {s : ControlState}
    (h : R.band c.table = .critical) : c.command R s = .ok (c.override R.speed) := by
  unfold Controller.command Controller.chosen
  split
  · rfl
  · rw [show (R.sweep c.table).severity.band = .critical from h]
    rfl

theorem full_of_critical {c : Controller} {R : Round} {s : ControlState} {v : Nat}
    (h : R.band c.table = .critical) (change : c.command R s = .ok (some v)) :
    R.speed < c.params.full ∧ v = c.params.full := by
  rw [command_critical h] at change
  exact Controller.override_eq_some (Except.ok.inj change)

/-- The pass has stopped with the fault that an access was answered with. -/
def StoppedBy (q : Query) (t : List Entry) (r : Except Halt PassReport) : Prop :=
  ∃ e, .asked q (.error e) ∈ t ∧ r = .error (.fault e)

/-- What a pass does about an overheated sensor: it latches the shutdown, or sees the critical band
and sets full speed unless the fans run at it. -/
inductive Answered (full current : Nat) (t : List Entry) (r : Except Halt PassReport)
    (s' : ControlState) : Prop where
  | latched {x : Sensor} {m threshold : Int} (attempted : LatchAttempted t)
      (report : r = .ok (.shutdownTriggered x m threshold)) : Answered full current t r s'
  | latchRefused {q : RegisterQuery} (write : q ∈ Watchdog.latchQueries)
      (stopped : StoppedBy (.register q) t r) : Answered full current t r s'
  | fullSpeed {worst : Option Worst} {fans supplies : Bool} (slow : current < full)
      (noted : s'.previousBand = some .critical)
      (set : .asked (speedAccess .primary full) (.ok ()) ∈ t)
      (report : r = .ok (.managed .critical worst fans supplies (some full))) :
      Answered full current t r s'
  | fullSpeedRefused (slow : current < full) (noted : s'.previousBand = some .critical)
      (stopped : StoppedBy (speedAccess .primary full) t r) : Answered full current t r s'
  | kept {worst : Option Worst} {fans supplies : Bool} (fast : full ≤ current)
      (noted : s'.previousBand = some .critical)
      (unset : ∀ f v, speedAccess f v ∉ Program.queries t)
      (report : r = .ok (.managed .critical worst fans supplies none)) :
      Answered full current t r s'

theorem Round.report_critical {R : Round} {table : BandTable} (h : R.band table = .critical)
    (applied : Option Nat) : ∃ worst fans supplies,
      R.report table applied = .managed .critical worst fans supplies applied := by
  refine ⟨(R.sweep table).severity.worst, fanProblem (readings R.fans), supplyProblem R.supplies, ?_⟩
  rw [report, h]

section Critical

variable {c : Controller} {b : Board σ} {w : σ} {s s' : ControlState}
  {r : Except Halt PassReport} {qs : List Query}

/-- The only speed of a pass that is critical unless it trips is full speed. -/
theorem critical_speed (h : c.Managed b w s r s' qs)
    (critical : (∀ e ∈ (b.round c.table w).sensors, trips e = false) →
      (b.round c.table w).band c.table = .critical) {f : Fan} {v : Nat}
    (hv : speedAccess f v ∈ qs) : v = c.params.full := by
  have noSample : ¬ SampleAccess (speedAccess f v) := by
    intro h
    cases h
  cases h with
  | tripped split first trip =>
    rcases List.mem_append.1 hv with hv | hv
    · exact absurd (sample_of_accessesTo hv) noSample
    · obtain ⟨q, -, hq⟩ := latch_accesses hv
      cases hq
  | overflow calm exceeds => exact absurd (Controller.sample_of_round hv) noSample
  | kept calm keep => exact absurd (Controller.sample_of_round hv) noSample
  | applied calm change accepted follow =>
    obtain ⟨-, rfl⟩ := full_of_critical (critical calm) change
    rcases List.mem_append.1 hv with hv | hv
    · exact absurd (Controller.sample_of_round hv) noSample
    · rcases List.mem_cons.1 hv with heq | hv
      · cases heq
        rfl
      · exact (follow _ hv).percentage_eq
  | refused calm change refused =>
    obtain ⟨-, rfl⟩ := full_of_critical (critical calm) change
    rcases List.mem_append.1 hv with hv | hv
    · exact absurd (Controller.sample_of_round hv) noSample
    · cases List.mem_singleton.1 hv
      rfl

/-- A pass that is critical unless it trips answers its overheated sensor. -/
theorem critical_answered {t : List Entry} (h : c.Managed b w s r s' qs)
    (accesses : Program.queries t = qs)
    (recorded : ∀ q a, .asked q a ∈ b.record w qs → .asked q a ∈ t)
    (critical : (∀ e ∈ (b.round c.table w).sensors, trips e = false) →
      (b.round c.table w).band c.table = .critical) :
    Answered c.params.full (b.round c.table w).speed t r s' := by
  cases h with
  | @tripped before after x reading split first trip =>
    cases hl : (b.latch (b.after w (accessesTo before x))).1 with
    | ok u =>
      exact .latched (latchAttempted_of_latch accesses) rfl
    | error e =>
      obtain ⟨q, hq, hmem⟩ := latch_fault hl
      refine .latchRefused hq ⟨e, recorded _ _ ?_, rfl⟩
      rw [Board.record_append]
      exact List.mem_append_right _ hmem
  | overflow calm exceeds =>
    rw [command_critical (critical calm)] at exceeds
    cases exceeds
  | kept calm keep =>
    rw [command_critical (critical calm)] at keep
    obtain ⟨worst, fans, supplies, report⟩ := Round.report_critical (critical calm) none
    refine .kept (Controller.override_eq_none (Except.ok.inj keep)) (congrArg some (critical calm))
      (fun f v hv => ?_) (congrArg Except.ok report)
    rw [accesses] at hv
    cases Controller.sample_of_round hv
  | applied calm change accepted follow =>
    obtain ⟨slow, rfl⟩ := full_of_critical (critical calm) change
    obtain ⟨worst, fans, supplies, report⟩ :=
      Round.report_critical (critical calm) (some c.params.full)
    refine .fullSpeed slow (congrArg some (critical calm)) (recorded _ _ ?_)
      (congrArg Except.ok report)
    rw [Board.record_append, Board.record_cons, accepted]
    exact List.mem_append_right _ List.mem_cons_self
  | refused calm change refused =>
    obtain ⟨slow, rfl⟩ := full_of_critical (critical calm) change
    refine .fullSpeedRefused slow (congrArg some (critical calm)) ⟨_, recorded _ _ ?_, rfl⟩
    rw [Board.record_append, Board.record_cons, refused]
    exact List.mem_append_right _ List.mem_cons_self

end Critical

/-- **Overheating is never missed.** In a pass that gets as far as the sensors, a usable sensor above
the lower bound of its critical band is answered, and no speed but full speed is ever set. -/
theorem overheating_never_missed {c : Controller} {b : Board σ} {w : σ} {s : ControlState}
    {x : Sensor} {r : SensorReading} (table : c.table = .board) (params : c.params = .standard)
    (initialised : s.initialised = true) (enabled : s.enabled = true)
    (clear : (b.round c.table w).Clear) (hot : (x, .ok r) ∈ (b.round c.table w).sensors)
    (usable : r.usable = true) (limits : r.limits = .ofSensor x)
    (above : (c.table.bands x).critical.low < r.mcelsius) :
    Answered 100 (b.round c.table w).speed (c.pass.runOn b s w).trace
        (c.pass.runOn b s w).value.1 (c.pass.runOn b s w).value.2 ∧
      ∀ f v, speedAccess f v ∈ Program.queries (c.pass.runOn b s w).trace → v = 100 := by
  obtain ⟨result, s', qs, hends, hrun⟩ := c.pass_ends b w initialised
  have managed := hends.managed_of_clear enabled clear
  have seen := overheated_trips_or_critical (table ▸ mem_round_relevant hot) usable limits
    (table ▸ above)
  have critical : (∀ e ∈ (b.round c.table w).sensors, trips e = false) →
      (b.round c.table w).band c.table = .critical := by
    intro calm
    rcases seen with trip | hband
    · rw [calm _ hot] at trip
      cases trip
    · exact Round.band_critical hot usable (table ▸ hband)
  have full : c.params.full = 100 := by rw [params]; rfl
  rw [hrun.result, hrun.state, ← full]
  refine ⟨critical_answered managed hrun.trace hrun.recorded critical, fun f v hv => ?_⟩
  rw [hrun.trace] at hv
  exact critical_speed managed critical hv

open Bench in
/-- At 95 degrees, with the fans at 80 %, a core is in its critical band and below its shutdown
limit. -/
theorem overheating_never_missed_at_95 :
    let o := trialPass (running 5) (.patched 80 [.heat .cpuCore0 95000])
    Answered 100 80 o.trace o.value.1 o.value.2 ∧
      ∀ f v, speedAccess f v ∈ Program.queries o.trace → v = 100 :=
  overheating_never_missed (c := trialController) (b := trialBoard) (s := running 5)
    (w := .patched 80 [.heat .cpuCore0 95000]) (x := .cpuCore0)
    (r := ⟨.cpuCore0, true, false, 95000, .ofSensor .cpuCore0⟩) rfl rfl rfl rfl
    ⟨⟨rfl, _, rfl, rfl⟩, rfl⟩ List.mem_cons_self rfl rfl (by decide)

end SwitchThermal
