import SwitchThermal.Proofs.Guarded
import SwitchThermal.Proofs.RegisterProtocol
import SwitchThermal.Proofs.Samples

/-!
# Where the baseline comes from

The rises of a pass are taken against the baseline. Along a history from a fresh state, what it
holds for a sensor is what the last change of the speed has stored, or else what the first baseline
has taken, which accepts more than the sweeps do.

* `Turn.Stores` — a pass stores the readings of its sweep when it sets a speed.
* `Origin` — where the value that the baseline holds for a sensor comes from, one case for each
  source.
* `Origin.start`, `Origin.pass` — the two steps in which a pass hands the origin on.
* `ready_origin` — the origin of what a pass finds in the baseline when it has started.
* `baseline_read` — so the baseline of a pass holds zeros and temperatures that have been read.
-/

set_option autoImplicit false

namespace SwitchThermal

variable {σ : Type} {b : Board σ} {c : Controller} {w : σ} {s s' : ControlState} {qs : List Query}
  {x : Sensor} {m : Int}

/-- The sensor has shown the temperature. -/
def ReadIn (t : List Entry) (x : Sensor) (m : Int) : Prop :=
  ∃ reading, .asked (sensorAccess x) (.ok reading) ∈ t ∧ reading.mcelsius = m

/-! ## The first baseline -/

theorem get?_firstReadings (l : List (Sensor × Except Fault SensorReading)) (x : Sensor) :
    (firstReadings l).get? x =
      (l.reverse.find? fun e => decide (e.1 = x)).map fun e => firstValue e.2 := by
  unfold firstReadings
  rw [← List.foldl_map (f := fun e : Sensor × Except Fault SensorReading => (e.1, firstValue e.2))
    (g := fun (m : Readings) (e : Sensor × Int) => m.insert e.1 e.2), Cells.get?_foldl_insert_last,
    Cells.get?_empty, ← List.map_reverse, List.find?_map, Option.or_none, Option.map_map]
  rfl

/-- The first baseline holds what it takes from an answer of the sensor, if there is one. -/
theorem firstReadings_cases (l : List (Sensor × Except Fault SensorReading)) (x : Sensor) :
    ((firstReadings l).get? x = none ∧ ∀ a, (x, a) ∉ l) ∨
      ∃ a, (x, a) ∈ l ∧ (firstReadings l).get? x = some (firstValue a) := by
  rw [get?_firstReadings]
  cases found : l.reverse.find? fun e => decide (e.1 = x) with
  | none =>
    refine .inl ⟨rfl, fun a ha => ?_⟩
    have other := List.find?_eq_none.1 found (x, a) (List.mem_reverse.2 ha)
    simp at other
  | some e =>
    have here := List.find?_some found
    obtain rfl : e.1 = x := by simpa using here
    exact .inr ⟨e.2, List.mem_reverse.1 (List.mem_of_find?_eq_some found), rfl⟩

namespace Controller

/-- No sensor is asked before the first baseline is taken. -/
theorem unsensed_ready (c : Controller) (x : Sensor) : sensorAccess x ∉ c.readyAccesses := by
  simp [readyAccesses, armingAccesses]

/-- What a start stores for a sensor: nothing, or what the first baseline takes from its answer. -/
theorem Starts.first {r : Except Halt Unit} (h : c.Starts b w s r s' qs) (x : Sensor) :
    (s'.baseline.get? x = s.baseline.get? x ∧ ∀ a, .asked (sensorAccess x) a ∉ b.record w qs) ∨
      s.initialised = false ∧ ∃ a, .asked (sensorAccess x) a ∈ b.record w qs ∧
        s'.baseline.get? x = some (firstValue a) := by
  have unsensed : ∀ {qs : List Query}, (∀ q ∈ qs, q ∈ c.readyAccesses) →
      ∀ a, .asked (sensorAccess x) a ∉ b.record w qs :=
    fun early a ha => c.unsensed_ready x (early _ (Board.made_of_recorded ha))
  cases h with
  | already => exact .inl ⟨rfl, fun a ha => by cases ha⟩
  | off => exact .inl ⟨rfl, unsensed fun q hq => by
      rw [List.mem_singleton.1 hq]
      exact List.mem_cons_self⟩
  | unarmed =>
    refine .inl ⟨rfl, unsensed fun q hq => List.mem_append_left _ ?_⟩
    exact (List.cons_prefix_cons.2 ⟨rfl, b.attempt_initial _ _⟩).subset hq
  | statusUnreadable | latched => exact .inl ⟨rfl, unsensed fun q hq => hq⟩
  | sampled unstarted =>
    rw [Board.record_append]
    simp only [Cells.get?_overlay]
    rcases firstReadings_cases (b.pollSensors c.table.relevant (b.after w c.readyAccesses)) x with
      ⟨none, unlisted⟩ | ⟨a, listed, taken⟩
    · rw [none]
      refine .inl ⟨rfl, fun a ha => ?_⟩
      rcases List.mem_append.1 ha with ha | ha
      · exact unsensed (fun q hq => hq) a ha
      · exact unlisted a (pollSensors_of_asked ha)
    · rw [taken]
      exact .inr ⟨unstarted, a, List.mem_append_right _ (asked_of_pollSensors listed), rfl⟩

/-- Only a start that succeeds marks the controller as started; one in vain stores nothing. -/
theorem Starts.unstarted {r : Except Halt Unit} (h : c.Starts b w s r s' qs)
    (unstarted : s'.initialised = false) : s'.baseline = s.baseline ∧ s.initialised = false := by
  cases h with
  | already started =>
    rw [started] at unstarted
    cases unstarted
  | unarmed fresh | statusUnreadable fresh => exact ⟨rfl, fresh⟩
  | off | latched | sampled => cases unstarted

end Controller

/-! ## Changes of the speed -/

/-- The pass reports that it has set a speed on account of what it has sampled. -/
def SpeedSet (r : Except Halt PassReport) : Prop :=
  ∃ band worst fans supplies v, r = .ok (.managed band worst fans supplies (some v))

/-- A pass stores the readings of its sweep when it sets a speed. -/
theorem Controller.Ends.stored {r : Except Halt PassReport} (h : c.Ends b w s r s' qs)
    (x : Sensor) :
    (s'.baseline.get? x = s.baseline.get? x ∧
        ¬ (SpeedSet r ∧ ∃ reading, (x, .ok reading) ∈ (b.round c.table w).sensors ∧
          reading.usable = true)) ∨
      SpeedSet r ∧ ∃ reading, (x, .ok reading) ∈ (b.round c.table w).sensors ∧
        reading.usable = true ∧ .asked (sensorAccess x) (.ok reading) ∈ b.record w qs ∧
        s'.baseline.get? x = some reading.mcelsius := by
  cases h with
  | disabled | unrefreshed | statusUnreadable | standing | fullSpeed | fullSpeedRefused
  | fanUnreadable => exact .inl ⟨rfl, fun ⟨set, _⟩ => by simp [SpeedSet] at set⟩
  | managed on clear rest =>
    cases rest with
    | overflow | refused => exact .inl ⟨rfl, fun ⟨set, _⟩ => by simp [SpeedSet] at set⟩
    | kept => exact .inl ⟨rfl, fun ⟨set, _⟩ => by simp [SpeedSet, Round.report] at set⟩
    | tripped =>
      refine .inl ⟨rfl, ?_⟩
      rintro ⟨⟨band, worst, fans, supplies, v, set⟩, -⟩
      cases trip_eq_ok set
    | @applied percentage rest =>
      have set : SpeedSet (.ok ((b.round c.table w).report c.table (some percentage))) :=
        ⟨_, _, _, _, _, rfl⟩
      have stored : (Actuator.settle c.params (some ((b.round c.table w).sweep c.table).samples)
          ((b.round c.table w).noted c.table s)).baseline.get? x =
            (((b.round c.table w).sweep c.table).samples.get? x).or (s.baseline.get? x) :=
        Cells.get?_overlay _ _ _
      rw [stored]
      cases sample : ((b.round c.table w).sweep c.table).samples.get? x with
      | none =>
        refine .inl ⟨rfl, ?_⟩
        rintro ⟨-, reading, answer, usable⟩
        obtain ⟨m, hm⟩ := Sweep.sample_of_reading c.table answer usable
        cases sample.symm.trans (Cells.mem_toList.1 hm)
      | some m =>
        obtain ⟨reading, answer, usable, rfl⟩ :=
          Sweep.reading_of_sample (Cells.mem_toList.2 sample)
        exact .inr ⟨set, reading, answer, usable, asked_of_round _ answer, rfl⟩

namespace Turn

/-- The pass has set a speed, and its sweep has read the sensor, so its reading is stored. -/
structure Stores (t : Turn c b) (x : Sensor) : Prop where
  set : SpeedSet t.result
  usable : ∃ reading, (x, .ok reading) ∈ t.round.sensors ∧ reading.usable = true

/-- What the start of a pass stores for a sensor. -/
theorem start_first (t : Turn c b) (x : Sensor) :
    (t.ready.baseline.get? x = t.before.baseline.get? x ∧
        ∀ a, .asked (sensorAccess x) a ∉ t.start.trace) ∨
      t.before.initialised = false ∧ ∃ a, .asked (sensorAccess x) a ∈ t.start.trace ∧
        t.ready.baseline.get? x = some (firstValue a) := by
  obtain ⟨r, s₁, starts, hstarts, hstart⟩ :=
    Controller.ensureStarted_starts c b t.world t.before
  obtain rfl : t.ready = s₁ := hstart.state
  have recorded : ∀ a, .asked (sensorAccess x) a ∈ t.start.trace ↔
      .asked (sensorAccess x) a ∈ b.record t.world starts := by
    intro a
    rw [← mem_answers, show answers t.start.trace = _ from hstart.answers]
  simp only [recorded]
  exact hstarts.first x

/-- What the rest of a pass stores for a sensor. -/
theorem after_stored (t : Turn c b) (x : Sensor) :
    (t.after.baseline.get? x = t.ready.baseline.get? x ∧ ¬ t.Stores x) ∨
      t.Stores x ∧ ∃ reading, (x, .ok reading) ∈ t.round.sensors ∧ reading.usable = true ∧
        .asked (sensorAccess x) (.ok reading) ∈ t.trace ∧
        t.after.baseline.get? x = some reading.mcelsius := by
  obtain ⟨starts, -, world, ⟨h, -, hpass⟩ | ⟨-, qs, hends, hpass⟩⟩ := t.parts
  · refine .inl ⟨by rw [show t.after = t.ready from hpass.state], fun ⟨set, _⟩ => ?_⟩
    rw [show t.result = .error h from hpass.result] at set
    simp [SpeedSet] at set
  · rw [← world] at hends
    rcases hends.stored x with ⟨kept, not⟩ | ⟨set, reading, answer, usable, asked, stored⟩
    · exact .inl ⟨kept, fun ⟨set, usable⟩ => not ⟨set, usable⟩⟩
    · refine .inr ⟨⟨set, reading, answer, usable⟩, reading, answer, usable, ?_, stored⟩
      rw [← mem_answers, show answers t.trace = _ from hpass.answers, Board.record_append, ← world]
      exact List.mem_append_right _ asked

/-- A pass that leaves the controller unstarted stores nothing. -/
theorem unstarted (t : Turn c b) (h : t.after.initialised = false) :
    t.after.baseline = t.before.baseline ∧ t.before.initialised = false := by
  obtain ⟨starts, hstarts, -, ⟨halt, -, hpass⟩ | ⟨started, qs, hends, -⟩⟩ := t.parts
  · rw [show t.after = t.ready from hpass.state] at h ⊢
    exact hstarts.unstarted h
  · rw [started] at hstarts
    rw [hends.initialised, hstarts.flags.1] at h
    cases h

end Turn

/-! ## The origin of a value -/

/-- Where the value that the baseline holds for a sensor comes from. The run so far is `past`, the
parts of it in which the first baseline is taken are `firsts`, and `stored` tells whether a change
of the speed has stored a reading of the sensor. -/
inductive Origin (past firsts : List Entry) (x : Sensor) (stored : Prop) : Option Int → Prop where
  /-- A usable reading. -/
  | seen {r : SensorReading} (read : .asked (sensorAccess x) (.ok r) ∈ past)
      (usable : r.usable = true) : Origin past firsts x stored (some r.mcelsius)
  /-- The first baseline takes the readings of absent and of failed sensors as well, -/
  | unusable {r : SensorReading} (unstored : ¬ stored)
      (read : .asked (sensorAccess x) (.ok r) ∈ firsts) (unusable : r.usable = false) :
      Origin past firsts x stored (some r.mcelsius)
  /-- and zero for a sensor that cannot be read. -/
  | unreadable {e : Fault} (unstored : ¬ stored)
      (refused : .asked (sensorAccess x) (.error e) ∈ firsts) :
      Origin past firsts x stored (some 0)
  /-- No first baseline has asked for the sensor. -/
  | unasked (unstored : ¬ stored) (unasked : ∀ a, .asked (sensorAccess x) a ∉ firsts) :
      Origin past firsts x stored none

namespace Origin

variable {past past' firsts firsts' : List Entry} {stored stored' : Prop} {value : Option Int}

/-- What is not about the sensor does not matter. -/
theorem extend (h : Origin past firsts x stored value) (longer : past ⊆ past')
    (same : ∀ a, .asked (sensorAccess x) a ∈ firsts' ↔ .asked (sensorAccess x) a ∈ firsts)
    (kept : stored' → stored) : Origin past' firsts' x stored' value := by
  cases h with
  | seen read usable => exact .seen (longer read) usable
  | unusable unstored read unusable =>
    exact .unusable (fun h => unstored (kept h)) ((same _).2 read) unusable
  | unreadable unstored refused =>
    exact .unreadable (fun h => unstored (kept h)) ((same _).2 refused)
  | unasked unstored unasked =>
    exact .unasked (fun h => unstored (kept h)) fun a ha => unasked a ((same a).1 ha)

/-- A value of the first baseline. -/
theorem of_first {a : Except Fault SensorReading} (unstored : ¬ stored)
    (past_mem : .asked (sensorAccess x) a ∈ past) (firsts_mem : .asked (sensorAccess x) a ∈ firsts) :
    Origin past firsts x stored (some (firstValue a)) := by
  cases a with
  | error e => exact .unreadable unstored firsts_mem
  | ok r =>
    cases usable : r.usable with
    | true => exact .seen past_mem usable
    | false => exact .unusable unstored firsts_mem usable

/-- Without a value, no change of the speed has stored one. -/
theorem unstored_of_none (h : Origin past firsts x stored none) : ¬ stored := by
  cases h with
  | unasked unstored => exact unstored

/-- **The start of a pass** takes the first baseline, or leaves the baseline alone. -/
theorem start (t : Turn c b) (h : Origin past firsts x stored (t.before.baseline.get? x))
    (fresh : t.before.initialised = false → t.before.baseline.get? x = none) :
    Origin (past ++ t.start.trace) (firsts ++ t.start.trace) x stored
      (t.ready.baseline.get? x) := by
  rcases t.start_first x with ⟨same, silent⟩ | ⟨unstarted, a, asked, taken⟩
  · rw [same]
    refine h.extend (List.subset_append_left _ _) (fun a => ?_) id
    rw [List.mem_append]
    exact ⟨fun ha => ha.resolve_right (silent a), .inl⟩
  · rw [fresh unstarted] at h
    rw [taken]
    exact .of_first h.unstored_of_none (List.mem_append_right _ asked)
      (List.mem_append_right _ asked)

/-- **The rest of a pass** stores a usable reading, or leaves the baseline alone. -/
theorem pass (t : Turn c b)
    (h : Origin (past ++ t.start.trace) firsts x stored (t.ready.baseline.get? x)) :
    Origin (past ++ t.trace) firsts x (stored ∨ t.Stores x) (t.after.baseline.get? x) := by
  rcases t.after_stored x with ⟨same, notStored⟩ | ⟨-, reading, -, usable, asked, stored⟩
  · rw [same]
    refine h.extend ?_ (fun a => Iff.rfl) fun either => either.resolve_right notStored
    intro e he
    rcases List.mem_append.1 he with he | he
    · exact List.mem_append_left _ he
    · exact List.mem_append_right _ (t.start_trace.subset he)
  · rw [stored]
    exact .seen (List.mem_append_right _ asked) usable

end Origin

/-! ## Along a history -/

/-- What the passes of a row have recorded. -/
def traces (turns : List (Turn c b)) : List Entry :=
  turns.flatMap Turn.trace

/-- What their starts have recorded. -/
def startTraces (turns : List (Turn c b)) : List Entry :=
  turns.flatMap fun t => t.start.trace

/-- One of the passes has stored a reading of the sensor. -/
def StoredBy (turns : List (Turn c b)) (x : Sensor) : Prop :=
  ∃ t ∈ turns, t.Stores x

section History

variable {ws : List σ} {k : Nat} {t : Turn c b}

theorem take_succ_of_history (h : (c.history b s ws)[k]? = some t) :
    (c.history b s ws).take (k + 1) = (c.history b s ws).take k ++ [t] := by
  rw [List.take_add_one, h]
  rfl

/-- **The origin of what a pass finds**, before it has started. -/
theorem before_origin (h : (c.history b .fresh ws)[k]? = some t) (x : Sensor) :
    Origin (traces ((c.history b .fresh ws).take k)) (startTraces ((c.history b .fresh ws).take k))
        x (StoredBy ((c.history b .fresh ws).take k) x) (t.before.baseline.get? x) ∧
      (t.before.initialised = false → t.before.baseline.get? x = none) := by
  refine Controller.history_induction
    (P := fun k s => Origin (traces ((c.history b .fresh ws).take k))
        (startTraces ((c.history b .fresh ws).take k)) x
        (StoredBy ((c.history b .fresh ws).take k) x) (s.baseline.get? x) ∧
      (s.initialised = false → s.baseline.get? x = none)) ?start ?step h
  case start =>
    have none : ControlState.fresh.baseline.get? x = none := Cells.get?_empty x
    rw [none, List.take_zero]
    exact ⟨.unasked (fun ⟨u, hu, _⟩ => by cases hu) (fun a ha => by cases ha), fun _ => rfl⟩
  case step =>
    rintro k t hk ⟨origin, fresh⟩
    rw [take_succ_of_history hk]
    constructor
    · have handed := (origin.start t fresh).pass t
      refine handed.extend ?_ (fun a => ?_) ?_
      · simp [traces]
      · simp [startTraces]
      · rintro ⟨u, hu, stores⟩
        rcases List.mem_append.1 hu with hu | hu
        · exact .inl ⟨u, hu, stores⟩
        · rw [List.mem_singleton.1 hu] at stores
          exact .inr stores
    · intro unstarted
      obtain ⟨same, before⟩ := t.unstarted unstarted
      rw [same]
      exact fresh before

/-- **The origin of what a pass finds in the baseline** when it has started. -/
theorem ready_origin (h : (c.history b .fresh ws)[k]? = some t) (x : Sensor) :
    Origin (traces ((c.history b .fresh ws).take k) ++ t.start.trace)
      (startTraces ((c.history b .fresh ws).take (k + 1))) x
      (StoredBy ((c.history b .fresh ws).take k) x) (t.ready.baseline.get? x) := by
  obtain ⟨origin, fresh⟩ := before_origin h x
  refine (origin.start t fresh).extend (List.Subset.refl _) (fun a => ?_) id
  rw [take_succ_of_history h]
  simp [startTraces]

end History

/-- The sensor has shown the temperature in one of the first passes, up to the one with this
index. -/
def ReadUpTo (turns : List (Turn c b)) (k : Nat) (x : Sensor) (m : Int) : Prop :=
  ∃ i u, i ≤ k ∧ turns[i]? = some u ∧ ReadIn u.trace x m

/-- **The baseline of a pass holds zeros and temperatures that have been read.** -/
theorem baseline_read {ws : List σ} {k : Nat} {t : Turn c b}
    (h : (c.history b .fresh ws)[k]? = some t) (x : Sensor) :
    t.ready.baselineOf x = 0 ∨
      ReadUpTo (c.history b .fresh ws) k x (t.ready.baselineOf x) := by
  have readUpTo (r : SensorReading)
      (hr : .asked (sensorAccess x) (.ok r) ∈ traces ((c.history b .fresh ws).take (k + 1))) :
      ReadUpTo (c.history b .fresh ws) k x r.mcelsius := by
    obtain ⟨u, hu, read⟩ := List.mem_flatMap.1 hr
    obtain ⟨i, hi⟩ := List.mem_iff_getElem?.1 hu
    rw [List.getElem?_take] at hi
    split at hi
    · rename_i early
      exact ⟨i, u, by omega, hi, r, read, rfl⟩
    · cases hi
  have starts : startTraces ((c.history b .fresh ws).take (k + 1)) ⊆
      traces ((c.history b .fresh ws).take (k + 1)) := by
    intro e he
    obtain ⟨u, hu, he⟩ := List.mem_flatMap.1 he
    exact List.mem_flatMap.2 ⟨u, hu, u.start_trace.subset he⟩
  unfold ControlState.baselineOf
  have origin := ready_origin h x
  generalize t.ready.baseline.get? x = value at origin
  cases origin with
  | seen read usable =>
    refine .inr (readUpTo _ ?_)
    rw [take_succ_of_history h]
    simp [traces] at read ⊢
    rcases read with read | read
    · exact .inl read
    · exact .inr (t.start_trace.subset read)
  | unusable unstored read => exact .inr (readUpTo _ (starts read))
  | unreadable | unasked => exact .inl rfl

end SwitchThermal
