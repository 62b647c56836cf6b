import SwitchThermal.Proofs.Round

/-!
# The sweep over the sensors

How the sweep ends, as a function of the answers that the board gives.

* `trips` — an answer that latches the shutdown; `Board.latch` is what the latch writes come to.
* `Sweep.gather` — the sweep with the usable readings of some answers added.
* `yields_sweepOver` — no answer trips: all sensors are read and their usable readings gathered.
* `yields_sweepOver_trip` — an answer trips: the first one that does ends the sweep with the latch.
* `Sweep.rank_gather_le` — the band of a sweep is the hottest one of its readings.
-/

set_option autoImplicit false

namespace SwitchThermal

variable {σ : Type} {b : Board σ} {table : BandTable}

/-! ## Answers -/

/-- Does the answer latch the shutdown? It does if it is a reading of a usable sensor above its
shutdown limit. -/
def trips (e : Sensor × Except Fault SensorReading) : Bool :=
  match e.2 with
  | .ok r => r.usable && r.limits.exceedsShutdown r.mcelsius
  | .error _ => false

/-- The readings of usable sensors. -/
def usableReadings (l : List (Sensor × Except Fault SensorReading)) :
    List (Sensor × SensorReading) :=
  (readings l).filter fun e => e.2.usable

theorem trips_iff {x : Sensor} {reading : SensorReading} :
    trips (x, .ok reading) = true ↔ reading.usable = true ∧ 0 < reading.limits.shutdown ∧
      reading.limits.shutdown < reading.mcelsius := by
  simp [trips, Limits.exceedsShutdown]

/-- Either no answer trips, or a first one does, and it is a reading. -/
theorem calm_or_trip (l : List (Sensor × Except Fault SensorReading)) :
    (∀ e ∈ l, trips e = false) ∨
      ∃ before x r after, l = before ++ (x, .ok r) :: after ∧
        (∀ e ∈ before, trips e = false) ∧ trips (x, .ok r) = true := by
  induction l with
  | nil => exact .inl (List.forall_mem_nil _)
  | cons e l ih =>
    cases htrip : trips e with
    | true =>
      obtain ⟨x, fault | r⟩ := e
      · cases htrip
      · exact .inr ⟨[], x, r, l, rfl, List.forall_mem_nil _, htrip⟩
    | false =>
      rcases ih with calm | ⟨before, x, r, after, rfl, hbefore, htrip'⟩
      · exact .inl (List.forall_mem_cons.2 ⟨htrip, calm⟩)
      · exact .inr ⟨e :: before, x, r, after, rfl,
          List.forall_mem_cons.2 ⟨htrip, hbefore⟩, htrip'⟩

theorem mem_usableReadings {l : List (Sensor × Except Fault SensorReading)} {x : Sensor}
    {r : SensorReading} : (x, r) ∈ usableReadings l ↔ (x, .ok r) ∈ l ∧ r.usable = true := by
  rw [usableReadings, List.mem_filter, mem_readings]

theorem usableReadings_cons (e : Sensor × Except Fault SensorReading)
    (l : List (Sensor × Except Fault SensorReading)) :
    usableReadings (e :: l) = usableReadings [e] ++ usableReadings l := by
  rw [usableReadings, readings_cons, List.filter_append, usableReadings, usableReadings]

/-- The sweep with the usable readings of some answers added. -/
def Sweep.gather (v : Sweep) (table : BandTable) (l : List (Sensor × Except Fault SensorReading)) :
    Sweep :=
  (usableReadings l).foldl (fun v e => v.add table e.2 e.1) v

theorem Sweep.gather_cons (v : Sweep) (e : Sensor × Except Fault SensorReading)
    (l : List (Sensor × Except Fault SensorReading)) :
    v.gather table (e :: l) = (v.gather table [e]).gather table l := by
  simp only [gather]
  rw [usableReadings_cons, List.foldl_append]

/-! ## The latch -/

/-- The write that lifts the protection of the latch. -/
abbrev unprotectAccess : Query :=
  .register (Watchdog.writeQuery Watchdog.protectOffset 0xfb)

/-- The write that latches. -/
abbrev latchAccess : Query :=
  .register (Watchdog.writeQuery Watchdog.statusOffset 0xfb)

/-- What the writes that latch the shutdown come to, and which of them are made. -/
def Board.latch (b : Board σ) (w : σ) : Except Fault Unit × List Query :=
  match (b unprotectAccess w).answer with
  | .error e => (.error e, [unprotectAccess])
  | .ok () => ((b latchAccess (b unprotectAccess w).next).answer, [unprotectAccess, latchAccess])

theorem Board.latch_refused {w : σ} {e : Fault} (h : (b unprotectAccess w).answer = .error e) :
    b.latch w = (.error e, [unprotectAccess]) := by
  unfold latch
  rw [h]

theorem Board.latch_unprotected {w : σ} (h : (b unprotectAccess w).answer = .ok ()) :
    b.latch w = ((b latchAccess (b unprotectAccess w).next).answer,
      [unprotectAccess, latchAccess]) := by
  unfold latch
  rw [h]
  rfl

theorem yields_latch (b : Board σ) (w : σ) :
    Program.Yields b w Watchdog.latch.run (b.latch w).1 (b.latch w).2 := by
  cases h : (b unprotectAccess w).answer with
  | error e =>
    rw [Board.latch_refused h]
    exact Action.yields_register_bind_error h
  | ok u =>
    rw [Board.latch_unprotected h]
    exact Action.yields_register_bind h Action.yields_register

/-- A write to the shutdown latch or to its protection has been attempted. -/
def LatchAttempted (t : List Entry) : Prop :=
  ∃ q : RegisterQuery, q.writesLatch = true ∧ .register q ∈ Program.queries t

theorem latch_accesses {w : σ} {q : Query} (h : q ∈ (b.latch w).2) :
    ∃ q' ∈ Watchdog.latchQueries, q = .register q' := by
  have both : ∀ q ∈ [unprotectAccess, latchAccess], ∃ q' ∈ Watchdog.latchQueries,
      q = .register q' := by
    intro q hq
    rcases List.mem_cons.1 hq with rfl | hq
    · exact ⟨_, List.mem_cons_self, rfl⟩
    · exact ⟨_, List.mem_cons_of_mem _ List.mem_cons_self, List.mem_singleton.1 hq⟩
  cases hw : (b unprotectAccess w).answer with
  | error e =>
    rw [Board.latch_refused hw] at h
    exact both q (List.mem_cons.2 (.inl (List.mem_singleton.1 h)))
  | ok u =>
    rw [Board.latch_unprotected hw] at h
    exact both q h

/-- A trace that ends in the latch writes attempts them. -/
theorem latchAttempted_of_latch {w : σ} {t : List Entry} {qs : List Query}
    (h : Program.queries t = qs ++ (b.latch w).2) : LatchAttempted t := by
  refine ⟨Watchdog.writeQuery Watchdog.protectOffset 0xfb, rfl, ?_⟩
  rw [h]
  refine List.mem_append_right _ ?_
  cases hw : (b unprotectAccess w).answer with
  | error e =>
    rw [Board.latch_refused hw]
    exact List.mem_cons_self
  | ok u =>
    rw [Board.latch_unprotected hw]
    exact List.mem_cons_self

/-- A latch that fails does so with the fault of one of its writes. -/
theorem latch_fault {w : σ} {e : Fault} (h : (b.latch w).1 = .error e) :
    ∃ q ∈ Watchdog.latchQueries,
      .asked (.register q) (.error e) ∈ b.record w (b.latch w).2 := by
  cases hw : (b unprotectAccess w).answer with
  | error e' =>
    rw [Board.latch_refused hw] at h ⊢
    cases h
    refine ⟨Watchdog.writeQuery Watchdog.protectOffset 0xfb, List.mem_cons_self, ?_⟩
    rw [Board.record_cons, hw]
    exact List.mem_cons_self
  | ok u =>
    rw [Board.latch_unprotected hw] at h ⊢
    refine ⟨Watchdog.writeQuery Watchdog.statusOffset 0xfb,
      List.mem_cons_of_mem _ List.mem_cons_self, ?_⟩
    have refused : (b latchAccess (b unprotectAccess w).next).answer = .error e := h
    rw [Board.record_cons, Board.record_cons, refused]
    exact List.mem_cons_of_mem _ List.mem_cons_self

/-! ## The sweep -/

/-- A reading that does not trip is gathered if its sensor is usable, and the sweep goes on. -/
theorem yields_sweepOver_cons {w : σ} {s s' : ControlState} {v : Sweep} {x : Sensor}
    {rest : List Sensor} {r : Except Halt SweepResult} {qs : List Query}
    (h : trips (x, (b (sensorAccess x) w).answer) = false)
    (hrest : Pass.Yields b (b.after w [sensorAccess x]) s
      (sweepOver table rest (v.gather table [(x, (b (sensorAccess x) w).answer)])) r s' qs) :
    Pass.Yields b w s (sweepOver table (x :: rest) v) r s' (sensorAccess x :: qs) := by
  unfold sweepOver
  refine (Pass.Yields.ask (.sensor x)).bind ?_
  cases ha : (b (sensorAccess x) w).answer with
  | error e =>
    rw [ha] at hrest
    exact .tell_bind hrest
  | ok reading =>
    rw [ha] at h hrest
    simp only
    cases hu : reading.usable with
    | false =>
      have same : v.gather table [(x, .ok reading)] = v := by
        simp [Sweep.gather, usableReadings, readings, Except.toOption, hu]
      rw [same] at hrest
      exact .tell_bind hrest
    | true =>
      have added : v.gather table [(x, .ok reading)] = v.add table reading x := by
        simp [Sweep.gather, usableReadings, readings, Except.toOption, hu]
      have below : reading.limits.exceedsShutdown reading.mcelsius = false := by
        simpa [trips, hu] using h
      rw [added] at hrest
      rw [below]
      simp only [Bool.not_true, Bool.false_eq_true, if_false]
      split
      · exact .tell_bind hrest
      · exact hrest

/-- A reading that trips ends the sweep with the latch. -/
theorem yields_sweepOver_cons_trip {w : σ} {s : ControlState} {v : Sweep} {x : Sensor}
    {rest : List Sensor} {reading : SensorReading}
    (ha : (b (sensorAccess x) w).answer = .ok reading) (h : trips (x, .ok reading) = true) :
    Pass.Yields b w s (sweepOver table (x :: rest) v)
      (((b.latch (b.after w [sensorAccess x])).1.mapError Halt.fault).map fun _ =>
        .tripped x reading.mcelsius reading.limits.shutdown)
      s (sensorAccess x :: (b.latch (b.after w [sensorAccess x])).2) := by
  obtain ⟨hu, above⟩ : reading.usable = true ∧
      reading.limits.exceedsShutdown reading.mcelsius = true := by
    simpa [trips] using h
  unfold sweepOver
  refine (Pass.Yields.ask (.sensor x)).bind ?_
  rw [ha]
  simp only [hu, above, Bool.not_true, Bool.false_eq_true, if_false, if_true]
  refine .tell_bind ?_
  have hlatch := yields_latch b (b.after w [sensorAccess x])
  cases hl : (b.latch (b.after w [sensorAccess x])).1 with
  | error e =>
    rw [hl] at hlatch
    exact .bind_error (.perform_error hlatch)
  | ok u =>
    rw [hl] at hlatch
    exact (Pass.Yields.perform hlatch).bind_quiet (.pure _)

/-- **A sweep in which no answer trips.** -/
theorem yields_sweepOver {l : List Sensor} {w : σ} {s : ControlState} {v : Sweep}
    (h : ∀ e ∈ b.pollSensors l w, trips e = false) :
    Pass.Yields b w s (sweepOver table l v)
      (.ok (.complete (v.gather table (b.pollSensors l w)))) s (l.map sensorAccess) := by
  induction l generalizing w v with
  | nil => exact .pure _
  | cons x l ih =>
    rw [Board.pollSensors, poll, Sweep.gather_cons]
    exact yields_sweepOver_cons (h _ List.mem_cons_self)
      (ih fun e he => h e (List.mem_cons_of_mem _ he))

/-- The readings of some sensors and of one more. -/
def sweepAccesses (before : List (Sensor × Except Fault SensorReading)) (x : Sensor) :
    List Query :=
  before.map (fun e => sensorAccess e.1) ++ [sensorAccess x]

/-- The accesses of a pass up to a sensor that comes after some others. -/
def accessesTo (before : List (Sensor × Except Fault SensorReading)) (x : Sensor) : List Query :=
  dutyAccesses ++ surveyAccesses ++ sweepAccesses before x

theorem sample_of_sweep {before : List (Sensor × Except Fault SensorReading)} {x : Sensor}
    {q : Query} (h : q ∈ sweepAccesses before x) : SampleAccess q := by
  rcases List.mem_append.1 h with h | h
  · obtain ⟨e, -, rfl⟩ := List.mem_map.1 h
    exact .sensor e.1
  · obtain rfl := List.mem_singleton.1 h
    exact .sensor x

theorem sample_of_accessesTo {before : List (Sensor × Except Fault SensorReading)} {x : Sensor}
    {q : Query} (h : q ∈ accessesTo before x) : SampleAccess q := by
  rcases List.mem_append.1 h with h | h
  · rcases List.mem_append.1 h with h | h
    · exact sample_of_duty h
    · exact sample_of_survey h
  · exact sample_of_sweep h

/-- **A sweep in which an answer trips.** -/
theorem yields_sweepOver_trip {l : List Sensor} {w : σ} {s : ControlState} {v : Sweep}
    {before after : List (Sensor × Except Fault SensorReading)} {x : Sensor}
    {reading : SensorReading} (hl : b.pollSensors l w = before ++ (x, .ok reading) :: after)
    (hbefore : ∀ e ∈ before, trips e = false) (hx : trips (x, .ok reading) = true) :
    Pass.Yields b w s (sweepOver table l v)
      (((b.latch (b.after w (sweepAccesses before x))).1.mapError Halt.fault).map fun _ =>
        .tripped x reading.mcelsius reading.limits.shutdown)
      s (sweepAccesses before x ++ (b.latch (b.after w (sweepAccesses before x))).2) := by
  induction before generalizing l w v with
  | nil =>
    cases l with
    | nil => cases hl
    | cons y l =>
      obtain ⟨he, -⟩ := List.cons.inj hl
      obtain ⟨rfl, ha⟩ := Prod.mk.inj he
      exact yields_sweepOver_cons_trip ha hx
  | cons e before ih =>
    cases l with
    | nil => cases hl
    | cons y l =>
      obtain ⟨rfl, htail⟩ := List.cons.inj hl
      exact yields_sweepOver_cons (hbefore _ List.mem_cons_self)
        (ih htail fun e he => hbefore e (List.mem_cons_of_mem _ he))

/-! ## Severity -/

/-- How hot a classified temperature is; one in no band counts as cool. -/
def heat (band : Option Band) : Nat :=
  (band.map Band.rank).getD 0

theorem Band.rank_inj {a c : Band} (h : a.rank = c.rank) : a = c := by
  cases a <;> cases c <;> first | rfl | cases h

theorem Severity.rank_observe_le {v : Severity} {x : Sensor} {band : Option Band} {m : Int}
    {n : Nat} : (v.observe x band m).band.rank ≤ n ↔ v.band.rank ≤ n ∧ heat band ≤ n := by
  unfold observe
  cases band with
  | none => simp [heat]
  | some c =>
    simp only [heat, Option.map_some, Option.getD_some]
    split
    · rename_i hlt
      have hlt' : v.band.rank < c.rank := hlt
      show c.rank ≤ n ↔ v.band.rank ≤ n ∧ c.rank ≤ n
      omega
    · rename_i hge
      have hge' : ¬ v.band.rank < c.rank := hge
      omega

theorem Sweep.rank_foldl_add_le {n : Nat} (us : List (Sensor × SensorReading)) (v : Sweep) :
    (us.foldl (fun v e => v.add table e.2 e.1) v).severity.band.rank ≤ n ↔
      v.severity.band.rank ≤ n ∧
        ∀ x r, (x, r) ∈ us → heat (table.classify x r.mcelsius) ≤ n := by
  induction us generalizing v with
  | nil => simp
  | cons e us ih =>
    have added : (v.add table e.2 e.1).severity =
        v.severity.observe e.1 (table.classify e.1 e.2.mcelsius) e.2.mcelsius := rfl
    rw [List.foldl_cons, ih, added, Severity.rank_observe_le, and_assoc]
    refine and_congr_right fun _ => ⟨?_, ?_⟩
    · rintro ⟨hhead, htail⟩ x r hmem
      rcases List.mem_cons.1 hmem with heq | hmem
      · subst heq
        exact hhead
      · exact htail x r hmem
    · intro h
      exact ⟨h e.1 e.2 List.mem_cons_self, fun x r hmem => h x r (List.mem_cons_of_mem _ hmem)⟩

/-- The band of a sweep is the hottest one of its readings: what bounds it bounds them all. -/
theorem Sweep.rank_gather_le {v : Sweep} {l : List (Sensor × Except Fault SensorReading)}
    {n : Nat} :
    (v.gather table l).severity.band.rank ≤ n ↔ v.severity.band.rank ≤ n ∧
      ∀ x r, (x, .ok r) ∈ l → r.usable = true → heat (table.classify x r.mcelsius) ≤ n := by
  unfold gather
  rw [rank_foldl_add_le]
  refine and_congr_right fun _ => ⟨fun h x r hmem hu => h x r ?_, fun h x r hmem => ?_⟩
  · exact mem_usableReadings.2 ⟨hmem, hu⟩
  · obtain ⟨hmem, hu⟩ := mem_usableReadings.1 hmem
    exact h x r hmem hu

/-! ## Samples -/

theorem Sweep.get?_foldl_add {us : List (Sensor × SensorReading)} {v : Sweep} {x : Sensor}
    {m : Int} (h : (us.foldl (fun v e => v.add table e.2 e.1) v).samples.get? x = some m) :
    v.samples.get? x = some m ∨ ∃ r, (x, r) ∈ us ∧ r.mcelsius = m := by
  induction us generalizing v with
  | nil => exact .inl h
  | cons e us ih =>
    obtain ⟨y, r⟩ := e
    rcases ih h with hadd | ⟨r', hmem, hm⟩
    · rw [show (v.add table r y).samples = v.samples.insert y r.mcelsius from rfl,
        Cells.get?_insert] at hadd
      split at hadd
      · rename_i heq
        subst heq
        exact .inr ⟨r, List.mem_cons_self, Option.some.inj hadd⟩
      · exact .inl hadd
    · exact .inr ⟨r', List.mem_cons_of_mem _ hmem, hm⟩

theorem Sweep.isSome_foldl_add {us : List (Sensor × SensorReading)} {v : Sweep} {x : Sensor}
    (h : (v.samples.get? x).isSome = true ∨ ∃ r, (x, r) ∈ us) :
    ((us.foldl (fun v e => v.add table e.2 e.1) v).samples.get? x).isSome = true := by
  induction us generalizing v with
  | nil =>
    rcases h with h | ⟨r, hmem⟩
    · exact h
    · cases hmem
  | cons e us ih =>
    obtain ⟨y, r⟩ := e
    refine ih ?_
    rw [show (v.add table r y).samples = v.samples.insert y r.mcelsius from rfl, Cells.get?_insert]
    rcases h with h | ⟨r', hmem⟩
    · left
      split
      · rfl
      · exact h
    · rcases List.mem_cons.1 hmem with heq | hmem
      · cases heq
        left
        rw [if_pos rfl]
        rfl
      · exact .inr ⟨r', hmem⟩

/-- A sample is a usable reading of its sensor. -/
theorem Sweep.reading_of_sample {l : List (Sensor × Except Fault SensorReading)} {x : Sensor}
    {m : Int} (h : (x, m) ∈ (({} : Sweep).gather table l).samples.toList) :
    ∃ r, (x, .ok r) ∈ l ∧ r.usable = true ∧ r.mcelsius = m := by
  rcases get?_foldl_add (Cells.mem_toList.1 h) with hempty | ⟨r, hmem, hm⟩
  · rw [show ({} : Sweep).samples = Cells.empty from rfl, Cells.get?_empty] at hempty
    cases hempty
  · obtain ⟨hmem, usable⟩ := mem_usableReadings.1 hmem
    exact ⟨r, hmem, usable, hm⟩

/-- A usable reading leaves a sample of its sensor. -/
theorem Sweep.sample_of_reading (table : BandTable)
    {l : List (Sensor × Except Fault SensorReading)} {x : Sensor}
    {r : SensorReading} (h : (x, .ok r) ∈ l) (usable : r.usable = true) :
    ∃ m, (x, m) ∈ (({} : Sweep).gather table l).samples.toList := by
  have found : ((({} : Sweep).gather table l).samples.get? x).isSome = true :=
    isSome_foldl_add (.inr ⟨r, mem_usableReadings.2 ⟨h, usable⟩⟩)
  obtain ⟨m, hm⟩ := Option.isSome_iff_exists.1 found
  exact ⟨m, Cells.mem_toList.2 hm⟩

end SwitchThermal
