import SwitchThermal.Bench.Trial
import SwitchThermal.Proofs.Pass

/-!
# When the shutdown is latched

The latch powers the board down until a power cycle: it must be written when a sensor passes its
shutdown limit, and never otherwise.

* `latch_of_ends` — the only end of a pass that touches the latch.
* `LatchedBy` — what a pass comes to that a sensor ends with the latch.
* `shutdown_latched_iff` — when a pass touches the latch, and what it then comes to.
-/

set_option autoImplicit false

namespace SwitchThermal

variable {σ : Type} {c : Controller} {b : Board σ} {w : σ} {s s' : ControlState}
  {r : Except Halt PassReport} {qs : List Query}

/-- A pass that touches the latch has been ended by a sensor above its shutdown limit. -/
theorem latch_of_ends {q : RegisterQuery} (h : c.Ends b w s r s' qs)
    (hq : q.writesLatch = true) (hmem : Query.register q ∈ qs) :
    s.enabled = true ∧ (b.round c.table w).Clear ∧
      ∃ before x reading after,
        (b.round c.table w).sensors = before ++ (x, .ok reading) :: after ∧
        (∀ e ∈ before, trips e = false) ∧ trips (x, .ok reading) = true ∧
        r = (((b.latch (b.after w (accessesTo before x))).1.mapError Halt.fault).map fun _ =>
          .shutdownTriggered x reading.mcelsius reading.limits.shutdown) ∧
        s' = (b.round c.table w).surveyed s ∧
        qs = accessesTo before x ++ (b.latch (b.after w (accessesTo before x))).2 := by
  have sample : ∀ {q'}, SampleAccess q' → q' ≠ .register q := by
    rintro q' hs rfl
    rw [hs.not_latch] at hq
    cases hq
  cases h with
  | disabled off => cases hmem
  | unrefreshed on refused =>
    exact absurd (List.mem_singleton.1 hmem).symm (sample .refresh)
  | statusUnreadable on refreshed unreadable => exact absurd rfl (sample (sample_of_duty hmem))
  | standing on latched reported => exact absurd rfl (sample (sample_of_duty hmem))
  | fullSpeed on latched unreported accepted follow =>
    rcases List.mem_append.1 hmem with hmem | hmem
    · exact absurd rfl (sample (sample_of_duty hmem))
    · rcases List.mem_cons.1 hmem with heq | hmem
      · cases heq
      · cases follow _ hmem
  | fullSpeedRefused on latched unreported refused =>
    rcases List.mem_append.1 hmem with hmem | hmem
    · exact absurd rfl (sample (sample_of_duty hmem))
    · cases List.mem_singleton.1 hmem
  | fanUnreadable on awake unreadable =>
    rcases List.mem_append.1 hmem with hmem | hmem
    · exact absurd rfl (sample (sample_of_duty hmem))
    · rcases List.mem_append.1 hmem with hmem | hmem
      · obtain ⟨e, -, he⟩ := List.mem_map.1 hmem
        cases he
      · cases List.mem_singleton.1 hmem
  | managed on clear rest =>
    refine ⟨on, clear, ?_⟩
    cases rest with
    | tripped split first trip => exact ⟨_, _, _, _, split, first, trip, rfl, rfl, rfl⟩
    | overflow calm exceeds => exact absurd rfl (sample (Controller.sample_of_round hmem))
    | kept calm keep => exact absurd rfl (sample (Controller.sample_of_round hmem))
    | applied calm change accepted follow =>
      rcases List.mem_append.1 hmem with hmem | hmem
      · exact absurd rfl (sample (Controller.sample_of_round hmem))
      · rcases List.mem_cons.1 hmem with heq | hmem
        · cases heq
        · cases follow _ hmem
    | refused calm change refused =>
      rcases List.mem_append.1 hmem with hmem | hmem
      · exact absurd rfl (sample (Controller.sample_of_round hmem))
      · cases List.mem_singleton.1 hmem

/-! ## What the pass comes to -/

/-- The sensors that are read, in order. -/
def sensorsRead (qs : List Query) : List Sensor :=
  qs.filterMap fun
    | .device (.sensor x) => some x
    | _ => none

theorem sensorsRead_append (qs rs : List Query) :
    sensorsRead (qs ++ rs) = sensorsRead qs ++ sensorsRead rs :=
  List.filterMap_append

theorem sensorsRead_sweep (before : List (Sensor × Except Fault SensorReading)) (x : Sensor) :
    sensorsRead (sweepAccesses before x) = before.map Prod.fst ++ [x] := by
  unfold sweepAccesses
  rw [sensorsRead_append]
  congr 1
  induction before with
  | nil => rfl
  | cons e before ih => exact congrArg (e.1 :: ·) ih

theorem sensorsRead_latch (b : Board σ) (w : σ) : sensorsRead (b.latch w).2 = [] := by
  rw [sensorsRead, List.filterMap_eq_nil_iff]
  intro q hq
  obtain ⟨q', -, rfl⟩ := latch_accesses hq
  rfl

/-- What a pass comes to that is ended by a sensor above its shutdown limit, after the answers of
the sensors before it. -/
structure LatchedBy (b : Board σ) (w : σ) (s : ControlState)
    (before : List (Sensor × Except Fault SensorReading)) (x : Sensor) (reading : SensorReading)
    (o : Outcome σ (Except Halt PassReport × ControlState)) : Prop where
  /-- No later sensor is read. -/
  read : sensorsRead (Program.queries o.trace) = before.map Prod.fst ++ [x]
  unset : ∀ f v, speedAccess f v ∉ Program.queries o.trace
  /-- The state stays but for the cooldown and the readings that messages are compared with. -/
  state : o.value.2 = { s with
    cooldown := s.cooldown - 1
    previousFans := o.value.2.previousFans
    previousSupplies := o.value.2.previousSupplies }
  triggered : (b unprotectAccess (b.after w (accessesTo before x))).answer = .ok () →
    (b latchAccess (b.after w (accessesTo before x ++ [unprotectAccess]))).answer = .ok () →
    o.value.1 = .ok (.shutdownTriggered x reading.mcelsius reading.limits.shutdown)
  unprotectRefused : ∀ e, (b unprotectAccess (b.after w (accessesTo before x))).answer = .error e →
    o.value.1 = .error (.fault e)
  latchRefused : (b unprotectAccess (b.after w (accessesTo before x))).answer = .ok () →
    ∀ e, (b latchAccess (b.after w (accessesTo before x ++ [unprotectAccess]))).answer = .error e →
    o.value.1 = .error (.fault e)

theorem latchedBy_of_trip {o : Outcome σ (Except Halt PassReport × ControlState)}
    {before : List (Sensor × Except Fault SensorReading)} {x : Sensor} {reading : SensorReading}
    (result : o.value.1 =
      ((b.latch (b.after w (accessesTo before x))).1.mapError Halt.fault).map fun _ =>
        .shutdownTriggered x reading.mcelsius reading.limits.shutdown)
    (state : o.value.2 = (b.round c.table w).surveyed s)
    (accesses : Program.queries o.trace =
      accessesTo before x ++ (b.latch (b.after w (accessesTo before x))).2) :
    LatchedBy b w s before x reading o := by
  refine ⟨?_, fun f v hmem => ?_, ?_, fun unprotected latched => ?_, fun e refused => ?_,
    fun unprotected e refused => ?_⟩
  · rw [accesses, sensorsRead_append, sensorsRead_latch, List.append_nil, accessesTo,
      sensorsRead_append, sensorsRead_sweep]
    rfl
  · rw [accesses] at hmem
    rcases List.mem_append.1 hmem with hmem | hmem
    · cases sample_of_accessesTo hmem
    · obtain ⟨q, -, hq⟩ := latch_accesses hmem
      cases hq
  · rw [state]
    rfl
  · rw [Board.after_append] at latched
    rw [result, Board.latch_unprotected unprotected,
      show (b latchAccess (b unprotectAccess (b.after w (accessesTo before x))).next).answer =
        .ok () from latched]
    rfl
  · rw [result, Board.latch_refused refused]
    rfl
  · rw [Board.after_append] at refused
    rw [result, Board.latch_unprotected unprotected,
      show (b latchAccess (b unprotectAccess (b.after w (accessesTo before x))).next).answer =
        .error e from refused]
    rfl

/-- **When the shutdown is latched.** A pass of a started controller touches the latch exactly when
it gets as far as the sensors and one of them is usable and above its shutdown limit; the first such
sensor then ends the pass. -/
theorem shutdown_latched_iff (c : Controller) (b : Board σ) (w : σ) {s : ControlState}
    (initialised : s.initialised = true) :
    (LatchAttempted (c.pass.runOn b s w).trace ↔
      s.enabled = true ∧ (b.round c.table w).Clear ∧
        ∃ x reading, (x, .ok reading) ∈ (b.round c.table w).sensors ∧ reading.usable = true ∧
          0 < reading.limits.shutdown ∧ reading.limits.shutdown < reading.mcelsius) ∧
    (LatchAttempted (c.pass.runOn b s w).trace →
      ∃ before x reading after,
        (b.round c.table w).sensors = before ++ (x, .ok reading) :: after ∧
        (∀ e ∈ before, trips e = false) ∧ trips (x, .ok reading) = true ∧
        LatchedBy b w s before x reading (c.pass.runOn b s w)) := by
  obtain ⟨r, s', qs, hends, hrun⟩ := c.pass_ends b w initialised
  have attempted : LatchAttempted (c.pass.runOn b s w).trace →
      ∃ q : RegisterQuery, q.writesLatch = true ∧ .register q ∈ qs := by
    rintro ⟨q, hq, hmem⟩
    rw [hrun.trace] at hmem
    exact ⟨q, hq, hmem⟩
  refine ⟨⟨fun h => ?_, ?_⟩, fun h => ?_⟩
  · obtain ⟨q, hq, hmem⟩ := attempted h
    obtain ⟨on, clear, before, x, reading, after, split, first, trip, -⟩ :=
      latch_of_ends hends hq hmem
    refine ⟨on, clear, x, reading, ?_, trips_iff.1 trip⟩
    rw [split]
    exact List.mem_append_right _ List.mem_cons_self
  · rintro ⟨enabled, clear, x, reading, hmem, trip⟩
    have trip : trips (x, .ok reading) = true := trips_iff.2 trip
    have notCalm : ¬ ∀ e ∈ (b.round c.table w).sensors, trips e = false := by
      intro calm
      rw [calm _ hmem] at trip
      cases trip
    cases hends.managed_of_clear enabled clear with
    | tripped split first trip' => exact latchAttempted_of_latch hrun.trace
    | overflow calm | kept calm | applied calm | refused calm => exact absurd calm notCalm
  · obtain ⟨q, hq, hmem⟩ := attempted h
    obtain ⟨-, -, before, x, reading, after, split, first, trip, result, state, accesses⟩ :=
      latch_of_ends hends hq hmem
    refine ⟨before, x, reading, after, split, first, trip, latchedBy_of_trip (c := c) ?_ ?_ ?_⟩
    · rw [hrun.result, result]
    · rw [hrun.state, state]
    · rw [hrun.trace, accesses]

open Bench in
/-- At 101 degrees the second core latches the shutdown. -/
theorem shutdown_latched_at_101 :
    let w := World.patched 80 [.heat .cpuCore1 101000]
    LatchAttempted (trialPass (running 5) w).trace ∧
      ∃ before x reading after,
        (trialBoard.round trialController.table w).sensors = before ++ (x, .ok reading) :: after ∧
        (∀ e ∈ before, trips e = false) ∧ trips (x, .ok reading) = true ∧
        LatchedBy trialBoard w (running 5) before x reading (trialPass (running 5) w) := by
  have clear : (trialBoard.round trialController.table
      (.patched 80 [.heat .cpuCore1 101000])).Clear := ⟨⟨rfl, _, rfl, rfl⟩, rfl⟩
  intro w
  obtain ⟨attempted_iff, latched⟩ := shutdown_latched_iff trialController trialBoard w
    (s := running 5) rfl
  have attempted : LatchAttempted (trialPass (running 5) w).trace :=
    attempted_iff.2 ⟨rfl, clear, .cpuCore1,
      ⟨.cpuCore1, true, false, 101000, .ofSensor .cpuCore1⟩,
      List.mem_cons_of_mem _ List.mem_cons_self, rfl, by decide, by decide⟩
  exact ⟨attempted, latched attempted⟩

end SwitchThermal
