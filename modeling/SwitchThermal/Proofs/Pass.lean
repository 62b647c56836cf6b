import SwitchThermal.Proofs.Command
import SwitchThermal.Proofs.Survey
import SwitchThermal.Proofs.Sweep

/-!
# How a pass ends

The ways in which a pass of a started controller can end. Each is told by what the board answers in
the round and to the writes at its end, and says all that the pass comes to: the result, the control
state, and the accesses in order.

* `Controller.command` — the speed that a pass sets, as a function of the round and the state.
* `Controller.Managed` — the five ends of a pass that gets as far as the sensors.
* `Controller.Ends` — all ends; `Ends.managed_of_clear` says when it is one of the five.
* `Controller.pass_ends` — a pass of a started controller has one of the ends.
* `Controller.run_ends` — so has every other pass, unless it starts in vain.
-/

set_option autoImplicit false

namespace SwitchThermal

variable {σ : Type}

/-! ## What a pass has found -/

namespace Round

/-- What the sweep over the sensors finds. -/
def sweep (R : Round) (table : BandTable) : Sweep :=
  ({} : Sweep).gather table R.sensors

/-- The band that the sensors show. -/
def band (R : Round) (table : BandTable) : Band :=
  (R.sweep table).severity.band

/-- The state in which the sensors are read: one pass less to wait, and the readings of fans and
supplies remembered. -/
def surveyed (R : Round) (s : ControlState) : ControlState :=
  (s.tickCooldown.rememberFans (readings R.fans)).rememberSupplies (readings R.supplies)

/-- The state in which a speed is chosen: the band is noted too. -/
def noted (R : Round) (table : BandTable) (s : ControlState) : ControlState :=
  { R.surveyed s with previousBand := some (R.band table) }

/-- The records of the readable supplies. -/
def supplyRecords (R : Round) : List SupplyReading :=
  (readings R.supplies).map Prod.snd

/-- The report of a managed pass. -/
def report (R : Round) (table : BandTable) (applied : Option Nat) : PassReport :=
  .managed (R.band table) (R.sweep table).severity.worst (fanProblem (readings R.fans))
    (supplyProblem R.supplies) applied

end Round

namespace Controller

/-- The speed that a pass sets, from the survey, the sweep and the state. -/
def chosen (c : Controller) (problem : Bool) (current : Nat) (v : Sweep) (s : ControlState) :
    Except Overflow (Option Nat) :=
  if problem then .ok (c.override current) else c.target v.severity.band current v.samples s

/-- The speed that a pass sets, from the round and the state that the pass starts in. -/
def command (c : Controller) (R : Round) (s : ControlState) : Except Overflow (Option Nat) :=
  c.chosen R.problem R.speed (R.sweep c.table) (R.noted c.table s)

/-- Without a problem the band decides. -/
theorem command_of_healthy {c : Controller} {R : Round} {s : ControlState}
    (h : R.problem = false) :
    c.command R s =
      c.target (R.band c.table) R.speed (R.sweep c.table).samples (R.noted c.table s) := by
  rw [command, chosen, h]
  rfl

/-- A problem asks for full speed, whatever the band. -/
theorem command_of_problem {c : Controller} {R : Round} {s : ControlState}
    (h : R.problem = true) : c.command R s = .ok (c.override R.speed) := by
  rw [command, chosen, h]
  rfl

/-- The accesses of a pass up to the choice of a speed. -/
def roundAccesses (c : Controller) : List Query :=
  dutyAccesses ++ surveyAccesses ++ c.table.relevant.map sensorAccess

theorem sample_of_round {c : Controller} {q : Query} (h : q ∈ c.roundAccesses) :
    SampleAccess q := by
  rcases List.mem_append.1 h with h | h
  · rcases List.mem_append.1 h with h | h
    · exact sample_of_duty h
    · exact sample_of_survey h
  · obtain ⟨x, -, rfl⟩ := List.mem_map.1 h
    exact .sensor x

/-- A trip whose latch succeeds is reported as such. -/
theorem trip_eq_ok {x : Except Fault Unit} {report report' : PassReport}
    (h : ((x.mapError Halt.fault).map fun _ => report) = .ok report') : report' = report := by
  cases x with
  | error e => cases h
  | ok u =>
    cases h
    rfl

/-- A trip whose latch fails ends with a fault. -/
theorem trip_ne_overflow {x : Except Fault Unit} {report : PassReport} {e : Overflow} :
    ((x.mapError Halt.fault).map fun _ => report) ≠ .error (.overflow e) := by
  cases x <;> nofun

/-- How a pass ends that gets as far as the sensors: with a result and a control state, after some
accesses. -/
inductive Managed (c : Controller) (b : Board σ) (w : σ) (s : ControlState) :
    Except Halt PassReport → ControlState → List Query → Prop where
  /-- A sensor latches the shutdown. -/
  | tripped {before after : List (Sensor × Except Fault SensorReading)} {x : Sensor}
      {reading : SensorReading}
      (split : (b.round c.table w).sensors = before ++ (x, .ok reading) :: after)
      (first : ∀ e ∈ before, trips e = false) (trip : trips (x, .ok reading) = true) :
      Managed c b w s
        (((b.latch (b.after w (accessesTo before x))).1.mapError Halt.fault).map fun _ =>
          .shutdownTriggered x reading.mcelsius reading.limits.shutdown)
        ((b.round c.table w).surveyed s)
        (accessesTo before x ++ (b.latch (b.after w (accessesTo before x))).2)
  | overflow {e : Overflow} (calm : ∀ e ∈ (b.round c.table w).sensors, trips e = false)
      (exceeds : c.command (b.round c.table w) s = .error e) :
      Managed c b w s (.error (.overflow e)) ((b.round c.table w).noted c.table s) c.roundAccesses
  /-- The speed stays. -/
  | kept (calm : ∀ e ∈ (b.round c.table w).sensors, trips e = false)
      (keep : c.command (b.round c.table w) s = .ok none) :
      Managed c b w s (.ok ((b.round c.table w).report c.table none))
        ((b.round c.table w).noted c.table s) c.roundAccesses
  /-- A speed is set. -/
  | applied {percentage : Nat} {rest : List Query}
      (calm : ∀ e ∈ (b.round c.table w).sensors, trips e = false)
      (change : c.command (b.round c.table w) s = .ok (some percentage))
      (accepted : (b (speedAccess .primary percentage) (b.after w c.roundAccesses)).answer =
        .ok ())
      (follow : ∀ q ∈ rest,
        FollowAccess (.sampled (b.round c.table w).supplyRecords) percentage q) :
      Managed c b w s (.ok ((b.round c.table w).report c.table (some percentage)))
        (Actuator.settle c.params (some ((b.round c.table w).sweep c.table).samples)
          ((b.round c.table w).noted c.table s))
        (c.roundAccesses ++ speedAccess .primary percentage :: rest)
  | refused {percentage : Nat} {e : Fault}
      (calm : ∀ e ∈ (b.round c.table w).sensors, trips e = false)
      (change : c.command (b.round c.table w) s = .ok (some percentage))
      (refused : (b (speedAccess .primary percentage) (b.after w c.roundAccesses)).answer =
        .error e) :
      Managed c b w s (.error (.fault e)) ((b.round c.table w).noted c.table s)
        (c.roundAccesses ++ [speedAccess .primary percentage])

/-- How a pass of a started controller ends: with a result and a control state, after some
accesses. -/
inductive Ends (c : Controller) (b : Board σ) (w : σ) (s : ControlState) :
    Except Halt PassReport → ControlState → List Query → Prop where
  | disabled (off : s.enabled = false) : Ends c b w s (.ok .disabled) s []
  | unrefreshed {e : Fault} (on : s.enabled = true)
      (refused : (b.round c.table w).refresh = .error e) :
      Ends c b w s (.error (.fault e)) s [.register Watchdog.refreshQuery]
  | statusUnreadable {e : Fault} (on : s.enabled = true)
      (refreshed : (b.round c.table w).refresh = .ok ())
      (unreadable : (b.round c.table w).status = .error e) :
      Ends c b w s (.error (.fault e)) s.tickCooldown dutyAccesses
  /-- The shutdown has latched, and full speed has been set for it. -/
  | standing (on : s.enabled = true) (latched : (b.round c.table w).Latched)
      (reported : s.shutdownReported = true) :
      Ends c b w s (.ok (.shutdownLatched false)) s.tickCooldown dutyAccesses
  /-- The shutdown has latched, and full speed is set for it now. -/
  | fullSpeed {rest : List Query} (on : s.enabled = true) (latched : (b.round c.table w).Latched)
      (unreported : s.shutdownReported = false)
      (accepted : (b (speedAccess .primary c.params.full) (b.after w dutyAccesses)).answer = .ok ())
      (follow : ∀ q ∈ rest, FollowAccess .query c.params.full q) :
      Ends c b w s (.ok (.shutdownLatched true))
        { Actuator.settle c.params none s.tickCooldown with shutdownReported := true }
        (dutyAccesses ++ speedAccess .primary c.params.full :: rest)
  | fullSpeedRefused {e : Fault} (on : s.enabled = true) (latched : (b.round c.table w).Latched)
      (unreported : s.shutdownReported = false)
      (refused : (b (speedAccess .primary c.params.full) (b.after w dutyAccesses)).answer =
        .error e) :
      Ends c b w s (.error (.fault e)) s.tickCooldown
        (dutyAccesses ++ [speedAccess .primary c.params.full])
  | fanUnreadable {rs : List (Fan × FanReading)} {f : Fan} {e : Fault}
      {rest : List (Fan × Except Fault FanReading)} (on : s.enabled = true)
      (awake : (b.round c.table w).Awake)
      (unreadable : (b.round c.table w).fans = rs.map answered ++ (f, .error e) :: rest) :
      Ends c b w s (.error (.fault e)) (s.tickCooldown.rememberFans rs)
        (dutyAccesses ++ (rs.map (fun x => fanAccess x.1) ++ [fanAccess f]))
  | managed {r : Except Halt PassReport} {s' : ControlState} {qs : List Query}
      (on : s.enabled = true) (clear : (b.round c.table w).Clear) (rest : Managed c b w s r s' qs) :
      Ends c b w s r s' qs

/-- A clear round lets an enabled pass get as far as the sensors. -/
theorem Ends.managed_of_clear {c : Controller} {b : Board σ} {w : σ} {s s' : ControlState}
    {r : Except Halt PassReport} {qs : List Query} (h : c.Ends b w s r s' qs)
    (enabled : s.enabled = true) (clear : (b.round c.table w).Clear) : c.Managed b w s r s' qs := by
  have awake := clear.toAwake
  obtain ⟨⟨refreshed, status, read, unlatched⟩, readable⟩ := clear
  cases h with
  | disabled off =>
    rw [enabled] at off
    cases off
  | unrefreshed on refused =>
    rw [refreshed] at refused
    cases refused
  | statusUnreadable on refreshed unreadable =>
    rw [read] at unreadable
    cases unreadable
  | standing on latched | fullSpeed on latched | fullSpeedRefused on latched =>
    exact absurd awake latched.not_awake
  | fanUnreadable on awake unreadable =>
    rw [unreadable] at readable
    simp [allReadable, Except.isOk, Except.toBool] at readable
  | managed on clear rest => exact rest

/-! ## The parts of a pass -/

variable {c : Controller} {b : Board σ} {w : σ} {s : ControlState}

theorem yields_noteBand (v : Severity) :
    Pass.Yields b w s (noteBand v) (.ok ⟨⟩) { s with previousBand := some v.band } [] := by
  unfold noteBand
  refine .get_bind ?_
  split
  · exact .tell_bind (.modify _)
  · rename_i same
    have kept : { s with previousBand := some v.band } = s := by
      rw [← Decidable.not_not.1 same]
    rw [kept]
    exact .pure _

theorem yields_choose (problem : Bool) (current : Nat) (v : Sweep) :
    Pass.Yields b w s (c.choose problem current v)
      ((c.chosen problem current v s).mapError Halt.overflow) s [] := by
  unfold choose chosen
  split
  · exact .pure _
  · exact .get_bind (.tellAll_bind (.bounded _))

/-- The part after the sweep ends with an overflow, or keeps the speed, or sets one. -/
theorem conclude_ends {fans : FanSurvey} {supplies : SupplySurvey}
    (calm : ∀ e ∈ (b.round c.table w).sensors, trips e = false)
    (hspeed : fans.current = (b.round c.table w).speed)
    (hfans : fans.problem = fanProblem (readings (b.round c.table w).fans))
    (hsupplies : supplies.problem = supplyProblem (b.round c.table w).supplies)
    (hrecords : supplies.records = (b.round c.table w).supplyRecords) :
    ∃ r s' qs, c.Managed b w s r s' (c.roundAccesses ++ qs) ∧
      Pass.Yields b (b.after w c.roundAccesses) ((b.round c.table w).surveyed s)
        (c.conclude fans supplies ((b.round c.table w).sweep c.table)) r s' qs := by
  have chosen := yields_choose (c := c) (b := b) (w := b.after w c.roundAccesses)
    (s := (b.round c.table w).noted c.table s) (fans.problem || supplies.problem) fans.current
    ((b.round c.table w).sweep c.table)
  have command : c.chosen (fans.problem || supplies.problem) fans.current
      ((b.round c.table w).sweep c.table) ((b.round c.table w).noted c.table s) =
      c.command (b.round c.table w) s := by
    rw [hspeed, hfans, hsupplies]
    rfl
  have report : ∀ applied, PassReport.managed ((b.round c.table w).sweep c.table).severity.band
      ((b.round c.table w).sweep c.table).severity.worst fans.problem supplies.problem applied =
      (b.round c.table w).report c.table applied := by
    intro applied
    rw [hfans, hsupplies]
    rfl
  rw [command] at chosen
  unfold conclude
  cases hc : c.command (b.round c.table w) s with
  | error e =>
    rw [hc] at chosen
    refine ⟨_, _, [], by rw [List.append_nil]; exact .overflow calm hc, ?_⟩
    exact (yields_noteBand _).bind (.bind_error chosen)
  | ok speed =>
    rw [hc] at chosen
    cases speed with
    | none =>
      refine ⟨_, _, [], by rw [List.append_nil]; exact .kept calm hc, ?_⟩
      refine (yields_noteBand _).bind (chosen.bind ?_)
      rw [report]
      exact .pure _
    | some percentage =>
      cases ha : (b (speedAccess .primary percentage) (b.after w c.roundAccesses)).answer with
      | error e =>
        refine ⟨_, _, _, .refused calm hc ha, ?_⟩
        exact (yields_noteBand _).bind (chosen.bind (.bind_error (yields_setFans_refused ha)))
      | ok u =>
        obtain ⟨rest, follow, set⟩ := yields_setFans c.params (.sampled supplies.records)
          (some ((b.round c.table w).sweep c.table).samples) ((b.round c.table w).noted c.table s)
          ha
        rw [hrecords] at follow
        refine ⟨_, _, _, .applied calm hc ha follow, ?_⟩
        refine (yields_noteBand _).bind (chosen.bind (set.bind_quiet ?_))
        rw [report]
        exact .pure _

/-- A part that starts with both surveys, when the chassis fans are readable. -/
theorem yields_surveys {α : Type} (clear : (b.round c.table w).Clear) (s : ControlState)
    (f : FanSurvey → SupplySurvey → Pass α) :
    ∃ fans supplies, fans.current = (b.round c.table w).speed ∧
      fans.problem = fanProblem (readings (b.round c.table w).fans) ∧
      supplies.problem = supplyProblem (b.round c.table w).supplies ∧
      supplies.records = (b.round c.table w).supplyRecords ∧
      ∀ {r s' qs}, Pass.Yields b (b.after w (dutyAccesses ++ surveyAccesses))
          ((b.round c.table w).surveyed s) (f fans supplies) r s' qs →
        Pass.Yields b (b.after w dutyAccesses) s.tickCooldown
          (do f (← surveyFans) (← surveySupplies)) r s' (surveyAccesses ++ qs) := by
  obtain ⟨rs, hrs⟩ := allReadable_iff.1 clear.readable
  have found : readings (b.round c.table w).fans = rs := by
    rw [hrs, readings_map_answered]
  have polled : (b.round c.table w).supplies = b.pollSupplies PowerSupply.all
      (b.after (b.after w dutyAccesses) (Fan.chassisFans.map fanAccess)) := by
    rw [← Board.after_append]
    rfl
  obtain ⟨fans, hspeed, hfans, hsurvey⟩ := yields_surveyFans (s := s.tickCooldown) hrs
  obtain ⟨supplies, hsupplies, hrecords, hsurvey'⟩ := yields_surveySupplies (b := b)
    (w := b.after (b.after w dutyAccesses) (Fan.chassisFans.map fanAccess))
    (s := s.tickCooldown.rememberFans rs)
  rw [← polled] at hsupplies hrecords hsurvey'
  refine ⟨fans, supplies, ?_, ?_, hsupplies, hrecords, fun hf => ?_⟩
  · rw [hspeed, Round.speed, found]
  · rw [hfans, found]
  · rw [Round.surveyed, found, surveyAccesses, Board.after_append, Board.after_append] at hf
    rw [surveyAccesses, List.append_assoc]
    exact hsurvey.bind (hsurvey'.bind hf)

/-- A pass that finds no latched shutdown ends at an unreadable fan, with a trip, or with the part
after the sweep. -/
theorem manage_ends (on : s.enabled = true) (awake : (b.round c.table w).Awake) :
    ∃ r s' qs, c.Ends b w s r s' (dutyAccesses ++ qs) ∧
      Pass.Yields b (b.after w dutyAccesses) s.tickCooldown c.manage r s' qs := by
  rcases readable_or_fault (b.round c.table w).fans with ⟨rs, hrs⟩ | ⟨rs, f, e, rest, hrs⟩
  · have clear : (b.round c.table w).Clear := ⟨awake, allReadable_iff.2 ⟨rs, hrs⟩⟩
    obtain ⟨fans, supplies, hspeed, hfans, hsupplies, hrecords, surveys⟩ :=
      yields_surveys clear s c.respond
    rcases calm_or_trip (b.round c.table w).sensors with
      calm | ⟨before, x, reading, after, split, first, trip⟩
    · obtain ⟨r, s', qs, hends, hconclude⟩ :=
        conclude_ends calm hspeed hfans hsupplies hrecords
      rw [roundAccesses, List.append_assoc, List.append_assoc] at hends
      rw [roundAccesses, Board.after_append] at hconclude
      exact ⟨r, s', _, .managed on clear hends, surveys ((yields_sweepOver calm).bind hconclude)⟩
    · have hends := Managed.tripped (s := s) split first trip
      rw [accessesTo, Board.after_append, List.append_assoc, List.append_assoc] at hends
      exact ⟨_, _, _, .managed on clear hends,
        surveys (.bind_map (yields_sweepOver_trip split first trip) fun _ => rfl)⟩
  · refine ⟨_, _, _, .fanUnreadable on awake hrs, ?_⟩
    exact .bind_error (yields_surveyFans_fault hrs)

/-- A pass that finds a latched shutdown ends with a report, or refused. -/
theorem keepShutdown_ends (on : s.enabled = true) (latched : (b.round c.table w).Latched) :
    ∃ r s' qs, c.Ends b w s r s' (dutyAccesses ++ qs) ∧
      Pass.Yields b (b.after w dutyAccesses) s.tickCooldown c.keepShutdown r s' qs := by
  unfold keepShutdown
  cases hrep : s.shutdownReported with
  | true =>
    refine ⟨_, _, [], by rw [List.append_nil]; exact .standing on latched hrep, ?_⟩
    refine .get_bind ?_
    rw [if_pos (show s.tickCooldown.shutdownReported = true from hrep)]
    exact .pure _
  | false =>
    have unreported : ¬ s.tickCooldown.shutdownReported = true := by
      rw [show s.tickCooldown.shutdownReported = s.shutdownReported from rfl, hrep]
      decide
    cases ha : (b (speedAccess .primary c.params.full) (b.after w dutyAccesses)).answer with
    | error e =>
      refine ⟨_, _, _, .fullSpeedRefused on latched hrep ha, .get_bind ?_⟩
      rw [if_neg unreported]
      exact .tell_bind (.bind_error (yields_setFans_refused ha))
    | ok u =>
      obtain ⟨rest, follow, set⟩ := yields_setFans c.params .query none s.tickCooldown ha
      refine ⟨_, _, _, .fullSpeed on latched hrep ha follow, .get_bind ?_⟩
      rw [if_neg unreported]
      exact .tell_bind (set.bind_quiet (.modify_bind (.pure _)))

theorem yields_refresh (b : Board σ) (w : σ) :
    Program.Yields b w Watchdog.refresh.run (b (.register Watchdog.refreshQuery) w).answer
      [.register Watchdog.refreshQuery] :=
  Action.yields_tell_bind Action.yields_register

/-- A pass resets the watchdog and reads the status, and goes on by what it has read. -/
theorem yields_proceed {status : Nat} {r : Except Halt PassReport} {s' : ControlState}
    {qs : List Query} (on : s.enabled = true)
    (refreshed : (b.round c.table w).refresh = .ok ())
    (read : (b.round c.table w).status = .ok status)
    (rest : Pass.Yields b (b.after w dutyAccesses) s.tickCooldown
      (if Watchdog.isLatched status then c.keepShutdown else c.manage) r s' qs) :
    Pass.Yields b w s c.proceed r s' (dutyAccesses ++ qs) := by
  have refresh : Program.Yields b w Watchdog.refresh.run (.ok ())
      [.register Watchdog.refreshQuery] := by
    have run := yields_refresh b w
    rw [show (b (.register Watchdog.refreshQuery) w).answer = .ok () from refreshed] at run
    exact run
  have latched : Program.Yields b (b.after w [.register Watchdog.refreshQuery])
      Watchdog.latched.run (.ok (Watchdog.isLatched status)) [.register Watchdog.statusQuery] :=
    Action.yields_register_bind read (.pure _)
  unfold proceed
  refine .get_bind ?_
  rw [on]
  exact (Pass.Yields.perform refresh).bind (.modify_bind ((Pass.Yields.perform latched).bind rest))

/-- **After the start, a pass has one of the ends.** -/
theorem proceed_ends (c : Controller) (b : Board σ) (w : σ) (s : ControlState) :
    ∃ r s' qs, c.Ends b w s r s' qs ∧ Pass.Yields b w s c.proceed r s' qs := by
  unfold proceed
  cases on : s.enabled with
  | false =>
    refine ⟨_, _, _, .disabled on, .get_bind ?_⟩
    rw [on]
    exact .pure _
  | true =>
    have refresh := yields_refresh b w
    cases hrefresh : (b.round c.table w).refresh with
    | error e =>
      rw [show (b (.register Watchdog.refreshQuery) w).answer = .error e from hrefresh] at refresh
      refine ⟨_, _, _, .unrefreshed on hrefresh, .get_bind ?_⟩
      rw [on]
      exact .bind_error (.perform_error refresh)
    | ok u =>
      rw [show (b (.register Watchdog.refreshQuery) w).answer = .ok u from hrefresh] at refresh
      cases hstatus : (b.round c.table w).status with
      | error e =>
        refine ⟨_, _, _, .statusUnreadable on hrefresh hstatus, .get_bind ?_⟩
        rw [on]
        exact (Pass.Yields.perform refresh).bind (.modify_bind (.bind_error (.perform_error
          (Action.yields_register_bind_error hstatus))))
      | ok status =>
        have rest : ∃ r s' qs, c.Ends b w s r s' (dutyAccesses ++ qs) ∧
            Pass.Yields b (b.after w dutyAccesses) s.tickCooldown
              (if Watchdog.isLatched status then c.keepShutdown else c.manage) r s' qs := by
          cases hl : Watchdog.isLatched status with
          | true => exact keepShutdown_ends on ⟨hrefresh, status, hstatus, hl⟩
          | false => exact manage_ends on ⟨hrefresh, status, hstatus, hl⟩
        obtain ⟨r, s', qs, hends, hrest⟩ := rest
        exact ⟨r, s', _, hends, yields_proceed on hrefresh hstatus hrest⟩

/-! ## The start -/

/-- The accesses of a start. -/
inductive StartAccess (c : Controller) : Query → Prop where
  | settings : StartAccess c (.controlFile c.controlFile)
  | arm (q : RegisterQuery) (h : q ∈ Watchdog.armQueries) : StartAccess c (.register q)
  | status : StartAccess c (.register Watchdog.statusQuery)
  | sensor (x : Sensor) : StartAccess c (sensorAccess x)

/-- What a start changes of a state. -/
def Begun (s s' : ControlState) : Prop :=
  ∃ enabled initialised baseline,
    s' = { s with enabled := enabled, initialised := initialised, baseline := baseline }

theorem arm_only (c : Controller) : Program.Only c.StartAccess Watchdog.arm.run := by
  have register : ∀ q ∈ Watchdog.armQueries,
      Program.Only c.StartAccess (Action.register q).run :=
    fun q hq => .register (.arm q hq)
  unfold Watchdog.arm
  refine .action_bind (register _ (by decide)) fun _ => ?_
  refine .action_bind (register _ (by decide)) fun _ => ?_
  refine .action_bind (register _ (by decide)) fun _ => ?_
  exact .action_bind (register _ (by decide)) fun _ => trivial

theorem firstTemperatures_only (c : Controller) (l : List Sensor) :
    Program.Only c.StartAccess (firstTemperatures l) := by
  refine .foldlM (fun m x => ?_) l _
  refine .bind (.bind (.device (.sensor x)) fun answer => ?_) fun _ => .pure _
  cases answer with
  | ok r => exact .pure _
  | error e => exact .bind (.tell _) fun _ => .pure _

theorem readSettings_only (c : Controller) :
    Program.Only c.StartAccess (readSettings c.controlFile) := by
  refine ⟨.settings, fun answer => ?_⟩
  cases answer with
  | ok text => trivial
  | error e => trivial

theorem start_within (c : Controller) (s : ControlState) :
    Pass.Within c.StartAccess (Begun s) c.start := by
  unfold start
  refine .bind (.ofProgram (readSettings_only c)) fun settings => ?_
  refine .bind (.modify ?_) fun _ => .bind (.tell _) fun _ => ?_
  · rintro _ ⟨enabled, initialised, baseline, rfl⟩
    exact ⟨settings.enabled, initialised, baseline, rfl⟩
  split
  · exact .tell _
  refine .bind (.tell _) fun _ => .bind (.perform (arm_only c)) fun _ => ?_
  refine .bind (.perform (.action_bind (.register .status) fun _ => trivial)) fun latched => ?_
  split
  · refine .bind (.ofProgram (firstTemperatures_only c _)) fun samples => .modify ?_
    rintro _ ⟨enabled, initialised, baseline, rfl⟩
    exact ⟨enabled, initialised, baseline.overlay samples, rfl⟩
  · exact .pure _

/-- What a pass does before it is started: the accesses of a start, and nothing to the state but
the flags and the baseline. -/
theorem ensureStarted_within (c : Controller) (s : ControlState) :
    Pass.Within c.StartAccess (Begun s) c.ensureStarted := by
  unfold ensureStarted
  refine .get_bind fun _ => ?_
  split
  · refine .bind (.onFault (start_within c s)) fun _ => .modify ?_
    rintro _ ⟨enabled, initialised, baseline, rfl⟩
    exact ⟨enabled, true, baseline, rfl⟩
  · exact .pure _

/-! ## All passes -/

/-- **A pass of a started controller has one of the ends.** -/
theorem pass_ends (c : Controller) (b : Board σ) (w : σ) (hs : s.initialised = true) :
    ∃ r s' qs, c.Ends b w s r s' qs ∧ Pass.Yields b w s c.pass r s' qs := by
  obtain ⟨r, s', qs, hends, hproceed⟩ := proceed_ends c b w s
  refine ⟨r, s', qs, hends, ?_⟩
  have started : Pass.Yields b w s c.ensureStarted (.ok ⟨⟩) s [] := by
    unfold ensureStarted
    refine .get_bind ?_
    rw [hs]
    exact .pure _
  exact started.bind hproceed

/-- **Every pass** either starts in vain, or has one of the ends after the start. -/
theorem run_ends (c : Controller) (b : Board σ) (w : σ) (s : ControlState) :
    ∃ s₁ starts, Begun s s₁ ∧ (∀ q ∈ starts, c.StartAccess q) ∧
      ((∃ h, Pass.Yields b w s c.pass (.error h) s₁ starts) ∨
        ∃ r s' qs, c.Ends b (b.after w starts) s₁ r s' qs ∧
          Pass.Yields b w s c.pass r s' (starts ++ qs)) := by
  obtain ⟨r, s₁, starts, hstart, hstarts, hbegun⟩ :=
    (ensureStarted_within c s).yields b w s ⟨s.enabled, s.initialised, s.baseline, rfl⟩
  refine ⟨s₁, starts, hbegun, hstarts, ?_⟩
  cases r with
  | error h => exact .inl ⟨h, .bind_error hstart⟩
  | ok u =>
    obtain ⟨r, s', qs, hends, hproceed⟩ := proceed_ends c b (b.after w starts) s₁
    exact .inr ⟨r, s', qs, hends, hstart.bind hproceed⟩

end Controller

end SwitchThermal
