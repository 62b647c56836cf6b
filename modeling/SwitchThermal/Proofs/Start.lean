import SwitchThermal.Proofs.Bus
import SwitchThermal.Proofs.Pass

/-!
# How a pass starts

A pass of a controller that has not been started reads the control file and, if the algorithm is
enabled, arms the watchdog, reads the status and takes the first baseline. A start that fails leaves
the controller unstarted, so the next pass tries again.

* `Controller.settings` — what the control file decides at the start.
* `firstReadings` — the first baseline.
* `Controller.Starts` — all ways in which a pass can start, with the control state and the accesses.
* `Controller.Course` — a whole pass: a start in vain, or a start and then one of the ends.
* `Controller.pass_course` — every pass has a course.
-/

set_option autoImplicit false

namespace SwitchThermal

variable {σ : Type} {b : Board σ} {w : σ} {s : ControlState}

/-! ## The first baseline -/

/-- What the first baseline takes from an answer. -/
def firstValue : Except Fault SensorReading → Int
  | .ok r => r.mcelsius
  | .error _ => 0

/-- The first baseline, from the answers of the sensors. -/
def firstReadings (l : List (Sensor × Except Fault SensorReading)) : Readings :=
  l.foldl (fun m e => m.insert e.1 (firstValue e.2)) Cells.empty

theorem yields_firstTemperature (x : Sensor) :
    Program.Yields b w (firstTemperature x) (firstValue (b (sensorAccess x) w).answer)
      [sensorAccess x] := by
  refine (Program.Yields.query _).bind_quiet ?_
  cases (b (sensorAccess x) w).answer with
  | ok r => exact .pure _
  | error e => exact (Program.Yields.tell _).bind_quiet (.pure _)

theorem yields_foldlM_firstTemperature (l : List Sensor) (m : Readings) :
    Program.Yields b w (l.foldlM (fun m x => do return m.insert x (← firstTemperature x)) m)
      ((b.pollSensors l w).foldl (fun m e => m.insert e.1 (firstValue e.2)) m)
      (l.map sensorAccess) := by
  induction l generalizing w m with
  | nil => exact .pure m
  | cons x l ih =>
    have first : Program.Yields b w (do return m.insert x (← firstTemperature x))
        (m.insert x (firstValue (b (sensorAccess x) w).answer)) [sensorAccess x] :=
      (yields_firstTemperature x).bind_quiet (.pure _)
    rw [List.foldlM_cons]
    exact first.bind (ih _)

theorem yields_firstTemperatures (l : List Sensor) :
    Program.Yields b w (firstTemperatures l) (firstReadings (b.pollSensors l w))
      (l.map sensorAccess) :=
  yields_foldlM_firstTemperature l Cells.empty

/-! ## Arming -/

theorem yields_arm (b : Board σ) (w : σ) :
    Program.Yields b w Watchdog.arm.run (b.attempt w Watchdog.armQueries).1
      (b.attempt w Watchdog.armQueries).2 := by
  have quiet (w : σ) : Program.Yields b w (Action.tell .watchdogArmed).run (.ok ()) [] := ⟨rfl, rfl⟩
  exact Action.yields_attempt_cons (Action.yields_attempt_cons (Action.yields_attempt_cons
    (Action.yields_attempt_cons (quiet _))))

namespace Controller

variable {c : Controller}

/-! ## The ways to start -/

/-- The read of the control file. -/
abbrev settingsAccess (c : Controller) : Query := .controlFile c.controlFile

/-- What the control file decides; an unreadable one enables the algorithm. -/
def settings (c : Controller) (b : Board σ) (w : σ) : Settings :=
  match (b c.settingsAccess w).answer with
  | .ok text => Settings.parse text
  | .error _ => .standard

/-- The accesses up to the arming of the watchdog. -/
def armingAccesses (c : Controller) : List Query :=
  c.settingsAccess :: Watchdog.armQueries.map .register

/-- The accesses up to the first baseline. -/
def readyAccesses (c : Controller) : List Query :=
  c.armingAccesses ++ [.register Watchdog.statusQuery]

/-- How a pass starts: with a result and a control state, after some accesses. -/
inductive Starts (c : Controller) (b : Board σ) (w : σ) (s : ControlState) :
    Except Halt Unit → ControlState → List Query → Prop where
  | already (started : s.initialised = true) : Starts c b w s (.ok ()) s []
  /-- The control file disables the algorithm. -/
  | off (unstarted : s.initialised = false) (disabled : (c.settings b w).enabled = false) :
      Starts c b w s (.ok ()) { s with enabled := false, initialised := true } [c.settingsAccess]
  /-- The watchdog cannot be armed. -/
  | unarmed {e : Fault} (unstarted : s.initialised = false)
      (enabled : (c.settings b w).enabled = true)
      (refused : (b.attempt (b.after w [c.settingsAccess]) Watchdog.armQueries).1 = .error e) :
      Starts c b w s (.error (.fault e)) { s with enabled := true }
        (c.settingsAccess :: (b.attempt (b.after w [c.settingsAccess]) Watchdog.armQueries).2)
  | statusUnreadable {e : Fault} (unstarted : s.initialised = false)
      (enabled : (c.settings b w).enabled = true)
      (armed : (b.attempt (b.after w [c.settingsAccess]) Watchdog.armQueries).1 = .ok ())
      (unreadable : (b (.register Watchdog.statusQuery) (b.after w c.armingAccesses)).answer =
        .error e) :
      Starts c b w s (.error (.fault e)) { s with enabled := true } c.readyAccesses
  /-- The shutdown has latched, so no baseline is taken. -/
  | latched {status : Nat} (unstarted : s.initialised = false)
      (enabled : (c.settings b w).enabled = true)
      (armed : (b.attempt (b.after w [c.settingsAccess]) Watchdog.armQueries).1 = .ok ())
      (read : (b (.register Watchdog.statusQuery) (b.after w c.armingAccesses)).answer = .ok status)
      (latched : Watchdog.isLatched status = true) :
      Starts c b w s (.ok ()) { s with enabled := true, initialised := true } c.readyAccesses
  /-- The first baseline is taken. -/
  | sampled {status : Nat} (unstarted : s.initialised = false)
      (enabled : (c.settings b w).enabled = true)
      (armed : (b.attempt (b.after w [c.settingsAccess]) Watchdog.armQueries).1 = .ok ())
      (read : (b (.register Watchdog.statusQuery) (b.after w c.armingAccesses)).answer = .ok status)
      (unlatched : Watchdog.isLatched status = false) :
      Starts c b w s (.ok ())
        { s with
          enabled := true
          initialised := true
          baseline := s.baseline.overlay
            (firstReadings (b.pollSensors c.table.relevant (b.after w c.readyAccesses))) }
        (c.readyAccesses ++ c.table.relevant.map sensorAccess)

/-- A start in vain ends with a fault. -/
theorem Starts.fault {h : Halt} {s₁ : ControlState} {qs : List Query}
    (start : c.Starts b w s (.error h) s₁ qs) : ∃ e, h = .fault e := by
  cases start with
  | unarmed | statusUnreadable => exact ⟨_, rfl⟩

/-- A controller that has been started is not started again. -/
theorem Starts.of_initialised {r : Except Halt Unit} {s₁ : ControlState} {qs : List Query}
    (h : c.Starts b w s r s₁ qs) (started : s.initialised = true) :
    r = .ok () ∧ s₁ = s ∧ qs = [] := by
  cases h with
  | already => exact ⟨rfl, rfl, rfl⟩
  | off unstarted | unarmed unstarted | statusUnreadable unstarted | latched unstarted
  | sampled unstarted =>
    rw [started] at unstarted
    cases unstarted

theorem startAccess_of_ready {q : Query} (h : q ∈ c.readyAccesses) : c.StartAccess q := by
  rcases List.mem_append.1 h with h | h
  · rcases List.mem_cons.1 h with rfl | h
    · exact .settings
    · obtain ⟨r, hr, rfl⟩ := List.mem_map.1 h
      exact .arm r hr
  · obtain rfl := List.mem_singleton.1 h
    exact .status

theorem Starts.access {r : Except Halt Unit} {s₁ : ControlState} {qs : List Query}
    (h : c.Starts b w s r s₁ qs) : ∀ q ∈ qs, c.StartAccess q := by
  intro q hq
  cases h with
  | already => cases hq
  | off =>
    obtain rfl := List.mem_singleton.1 hq
    exact .settings
  | unarmed =>
    refine startAccess_of_ready (List.mem_append_left _ ?_)
    exact (List.cons_prefix_cons.2 ⟨rfl, b.attempt_initial _ _⟩).subset hq
  | statusUnreadable | latched => exact startAccess_of_ready hq
  | sampled =>
    rcases List.mem_append.1 hq with hq | hq
    · exact startAccess_of_ready hq
    · obtain ⟨x, -, rfl⟩ := List.mem_map.1 hq
      exact .sensor x

theorem yields_readSettings (c : Controller) (b : Board σ) (w : σ) :
    Program.Yields b w (readSettings c.controlFile) (c.settings b w) [c.settingsAccess] := by
  refine (Program.Yields.query _).bind_quiet ?_
  unfold settings
  cases (b c.settingsAccess w).answer with
  | ok text => exact .pure _
  | error e => exact (Program.Yields.tell _).bind_quiet (.pure _)

/-- The part of a start that follows an enabling control file. The start is still to be marked as
done if it succeeds. -/
theorem arming_starts (unstarted : s.initialised = false)
    (enabled : (c.settings b w).enabled = true) :
    ∃ r s₁ qs, Pass.Yields b (b.after w [c.settingsAccess]) { s with enabled := true }
        (do
          Pass.perform Watchdog.arm
          if !(← Pass.perform Watchdog.latched) then
            let samples ← Pass.ofProgram (firstTemperatures c.table.relevant)
            modify fun s => s.storeBaseline samples) r s₁ qs ∧
      c.Starts b w s r (if r.isOk then { s₁ with initialised := true } else s₁)
        (c.settingsAccess :: qs) := by
  have arm := yields_arm b (b.after w [c.settingsAccess])
  cases armed : (b.attempt (b.after w [c.settingsAccess]) Watchdog.armQueries).1 with
  | error e =>
    rw [armed] at arm
    exact ⟨.error (.fault e), { s with enabled := true }, _, .bind_error (.perform_error arm),
      .unarmed unstarted enabled armed⟩
  | ok u =>
    rw [armed, Board.attempt_snd armed] at arm
    cases read : (b (.register Watchdog.statusQuery) (b.after w c.armingAccesses)).answer with
    | error e =>
      exact ⟨.error (.fault e), { s with enabled := true }, _,
        (Pass.Yields.perform arm).bind (.bind_error (.perform_error
          (Action.yields_register_bind_error read))),
        .statusUnreadable unstarted enabled armed read⟩
    | ok status =>
      have asked : Program.Yields b (b.after w c.armingAccesses) Watchdog.latched.run
          (.ok (Watchdog.isLatched status)) [.register Watchdog.statusQuery] :=
        Action.yields_register_bind read (.pure _)
      cases latched : Watchdog.isLatched status with
      | true =>
        rw [latched] at asked
        exact ⟨.ok (), { s with enabled := true }, _,
          (Pass.Yields.perform arm).bind ((Pass.Yields.perform asked).bind_quiet (.pure _)),
          .latched unstarted enabled armed read latched⟩
      | false =>
        rw [latched] at asked
        have sampled := yields_firstTemperatures (b := b) (w := b.after w c.readyAccesses)
          c.table.relevant
        exact ⟨.ok (), ControlState.storeBaseline { s with enabled := true }
            (firstReadings (b.pollSensors c.table.relevant (b.after w c.readyAccesses))), _,
          (Pass.Yields.perform arm).bind ((Pass.Yields.perform asked).bind
            ((Pass.Yields.ofProgram sampled).bind_quiet (.modify _))),
          .sampled unstarted enabled armed read latched⟩

/-- A start that is still to be marked as done if it succeeds. -/
theorem start_starts (c : Controller) (b : Board σ) (w : σ) (unstarted : s.initialised = false) :
    ∃ r s₁ qs, Pass.Yields b w s c.start r s₁ qs ∧
      c.Starts b w s r (if r.isOk then { s₁ with initialised := true } else s₁) qs := by
  have settled : Pass.Yields b w s (Pass.ofProgram (readSettings c.controlFile))
      (.ok (c.settings b w)) s [c.settingsAccess] := .ofProgram (yields_readSettings c b w)
  unfold start
  cases enabled : (c.settings b w).enabled with
  | false =>
    refine ⟨.ok (), { s with enabled := false }, [c.settingsAccess],
      settled.bind_quiet (.modify_bind (.tell_bind ?_)), .off unstarted enabled⟩
    rw [enabled]
    exact .tell _
  | true =>
    obtain ⟨r, s₁, qs, harming, hstarts⟩ := arming_starts unstarted enabled
    refine ⟨r, s₁, _, settled.bind (.modify_bind (.tell_bind ?_)), hstarts⟩
    rw [enabled]
    exact .tell_bind harming

/-- **Every pass starts in one of the ways.** -/
theorem ensureStarted_starts (c : Controller) (b : Board σ) (w : σ) (s : ControlState) :
    ∃ r s' qs, c.Starts b w s r s' qs ∧ Pass.Yields b w s c.ensureStarted r s' qs := by
  unfold ensureStarted
  cases hs : s.initialised with
  | true =>
    refine ⟨_, _, _, .already hs, .get_bind ?_⟩
    rw [hs]
    exact .pure _
  | false =>
    obtain ⟨r, s₁, qs, hstart, hstarts⟩ := start_starts c b w hs
    refine ⟨r, _, qs, hstarts, .get_bind ?_⟩
    rw [hs]
    cases r with
    | error h => exact .bind_error hstart.onFault
    | ok u => exact hstart.onFault.bind_quiet (.modify _)

/-! ## Whole passes -/

/-- How a whole pass goes: it starts in vain, or it starts and then has one of the ends. -/
inductive Course (c : Controller) (b : Board σ) (w : σ) (s : ControlState) :
    Except Halt PassReport → ControlState → List Query → Prop where
  | vain {h : Halt} {s₁ : ControlState} {starts : List Query}
      (start : c.Starts b w s (.error h) s₁ starts) : Course c b w s (.error h) s₁ starts
  | done {s₁ s' : ControlState} {starts qs : List Query} {r : Except Halt PassReport}
      (start : c.Starts b w s (.ok ()) s₁ starts)
      (ends : c.Ends b (b.after w starts) s₁ r s' qs) : Course c b w s r s' (starts ++ qs)

/-- A pass by its parts: the start, and what follows it. -/
theorem pass_parts (c : Controller) (b : Board σ) (w : σ) (s : ControlState) :
    ∃ r₁ s₁ starts, c.Starts b w s r₁ s₁ starts ∧
      Pass.Yields b w s c.ensureStarted r₁ s₁ starts ∧
      ((∃ h, r₁ = .error h ∧ Pass.Yields b w s c.pass (.error h) s₁ starts) ∨
        r₁ = .ok () ∧ ∃ r s' qs, c.Ends b (b.after w starts) s₁ r s' qs ∧
          Pass.Yields b w s c.pass r s' (starts ++ qs)) := by
  obtain ⟨r₁, s₁, starts, hstarts, hstart⟩ := ensureStarted_starts c b w s
  refine ⟨r₁, s₁, starts, hstarts, hstart, ?_⟩
  cases r₁ with
  | error h => exact .inl ⟨h, rfl, .bind_error hstart⟩
  | ok u =>
    obtain ⟨r, s', qs, hends, hproceed⟩ := proceed_ends c b (b.after w starts) s₁
    exact .inr ⟨rfl, r, s', qs, hends, hstart.bind hproceed⟩

/-- **Every pass has a course.** -/
theorem pass_course (c : Controller) (b : Board σ) (w : σ) (s : ControlState) :
    ∃ r s' qs, c.Course b w s r s' qs ∧ Pass.Yields b w s c.pass r s' qs := by
  obtain ⟨r₁, s₁, starts, hstarts, -, ⟨h, rfl, hpass⟩ | ⟨rfl, r, s', qs, hends, hpass⟩⟩ :=
    pass_parts c b w s
  · exact ⟨_, _, _, .vain hstarts, hpass⟩
  · exact ⟨_, _, _, .done hstarts hends, hpass⟩

end Controller

end SwitchThermal
