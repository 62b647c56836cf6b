import Mathlib.Data.List.Nodup
import SwitchThermal.Proofs.Baseline
import SwitchThermal.Proofs.ControlFile
import SwitchThermal.Proofs.LatchedOnce
import SwitchThermal.Proofs.Retry
import SwitchThermal.Proofs.UnusableSensors

/-!
# The source of the baseline

Along a history from a fresh state, the baseline holds for a sensor what the last change of the speed
has stored, or else what the start has read that has found the shutdown unlatched, or else nothing.

* `pollSensors_unique` — a sensor answers once in a poll.
* `Turn.Begins`, `Turn.TakesFirst` — the start that succeeds, and the one that takes the first
  baseline.
* `Turn.ready_baseline` — what the start of a pass does to the baseline. What the rest of it does is
  `Turn.after_stored`.
* `BaselineSource` — where a value comes from, one case for each source.
* `BaselineSource.pass`, `after_source` — the step from one pass to the next, and the run.
* `baseline_sources` — what the baseline holds after every pass, and what alters it.
-/

set_option autoImplicit false

namespace SwitchThermal

variable {σ : Type} {b : Board σ} {c : Controller} {w : σ} {s s' : ControlState} {qs : List Query}
  {x : Sensor}

/-! ## One answer each -/

theorem nodup_relevant (table : BandTable) : table.relevant.Nodup := by
  rw [BandTable.relevant_eq]
  exact List.Nodup.filter _ (by decide)

theorem map_fst_pollSensors (l : List Sensor) : (b.pollSensors l w).map Prod.fst = l :=
  map_fst_poll _ _ _

/-- In a poll of the sensors that steer the fans, it is these that answer, -/
theorem exists_pollSensors_iff {table : BandTable} :
    (∃ a, (x, a) ∈ b.pollSensors table.relevant w) ↔ x ∈ table.relevant := by
  have listed : x ∈ (b.pollSensors table.relevant w).map Prod.fst ↔ x ∈ table.relevant := by
    rw [map_fst_pollSensors]
  rw [← listed]
  simp

/-- each of them once. -/
theorem pollSensors_unique {table : BandTable} {a a' : Except Fault SensorReading}
    (h : (x, a) ∈ b.pollSensors table.relevant w)
    (h' : (x, a') ∈ b.pollSensors table.relevant w) : a = a' := by
  have once : ((b.pollSensors table.relevant w).map Prod.fst).Nodup := by
    rw [map_fst_pollSensors]
    exact nodup_relevant table
  have same : (x, a) = (x, a') := List.inj_on_of_nodup_map once h h' rfl
  exact congrArg Prod.snd same

/-! ## The start -/

/-- A start that takes the first baseline, and one that leaves the baseline as it is. -/
theorem Controller.Starts.first_taken {r : Except Halt Unit} (h : c.Starts b w s r s' qs) :
    (s.initialised = false ∧ r = .ok () ∧
        (∃ status, statusEntry status ∈ b.record w qs ∧ Watchdog.isLatched status = false) ∧
        qs = c.readyAccesses ++ c.table.relevant.map sensorAccess ∧
        s'.baseline = s.baseline.overlay
          (firstReadings (b.pollSensors c.table.relevant (b.after w c.readyAccesses)))) ∨
      s'.baseline = s.baseline ∧ ¬ (s.initialised = false ∧ r = .ok () ∧
        ∃ status, statusEntry status ∈ b.record w qs ∧ Watchdog.isLatched status = false) := by
  have unread : .register Watchdog.statusQuery ∉ c.armingAccesses := by
    have arm : ∀ q ∈ Watchdog.armQueries, q ≠ Watchdog.statusQuery := by decide
    intro hmem
    rcases List.mem_cons.1 hmem with same | hmem
    · cases same
    · obtain ⟨q, hq, same⟩ := List.mem_map.1 hmem
      cases same
      exact arm _ hq rfl
  cases h with
  | already started =>
    refine .inr ⟨rfl, fun taken => ?_⟩
    rw [taken.1] at started
    cases started
  | off =>
    refine .inr ⟨rfl, ?_⟩
    rintro ⟨-, -, status, read, -⟩
    cases List.mem_singleton.1 (Board.made_of_recorded read)
  | unarmed | statusUnreadable => exact .inr ⟨rfl, fun taken => nomatch taken.2.1⟩
  | @latched status unstarted enabled armed read latched =>
    refine .inr ⟨rfl, ?_⟩
    rintro ⟨-, -, status', seen, unlatched⟩
    rw [readyAccesses, Board.record_append, List.mem_append] at seen
    have last := seen.resolve_left fun early => unread (Board.made_of_recorded early)
    rw [Board.record_cons, read, Board.record_nil, List.mem_singleton] at last
    cases last
    rw [latched] at unlatched
    cases unlatched
  | @sampled status unstarted enabled armed read unlatched =>
    refine .inl ⟨unstarted, rfl, ⟨status, ?_, unlatched⟩, rfl, rfl⟩
    rw [readyAccesses, List.append_assoc, Board.record_append]
    refine List.mem_append_right _ ?_
    rw [List.singleton_append, Board.record_cons, read]
    exact List.mem_cons_self

namespace Turn

variable {t : Turn c b}

/-- The start of the pass is the one that succeeds. -/
structure Begins (t : Turn c b) : Prop where
  unstarted : t.before.initialised = false
  started : t.start.value.1 = .ok ()

/-- It has found the shutdown unlatched, so it takes the first baseline. -/
structure TakesFirst (t : Turn c b) : Prop extends t.Begins where
  unlatched : ∃ status, statusEntry status ∈ t.start.trace ∧ Watchdog.isLatched status = false

/-- What the start does to the baseline. -/
theorem ready_baseline (t : Turn c b) :
    (t.TakesFirst ∧ ∃ w, t.ready.baseline = t.before.baseline.overlay
          (firstReadings (b.pollSensors c.table.relevant w)) ∧
        ∀ x a, .asked (sensorAccess x) a ∈ t.start.trace ↔
          (x, a) ∈ b.pollSensors c.table.relevant w) ∨
      ¬ t.TakesFirst ∧ t.ready.baseline = t.before.baseline := by
  obtain ⟨r, s₁, starts, hstarts, hstart⟩ := Controller.ensureStarted_starts c b t.world t.before
  obtain rfl : t.start.value.1 = r := hstart.result
  obtain rfl : t.ready = s₁ := hstart.state
  have recorded (q : Query) (a : Except Fault q.Payload) :
      .asked q a ∈ t.start.trace ↔ .asked q a ∈ b.record t.world starts := by
    rw [← mem_answers, show answers t.start.trace = _ from hstart.answers]
  rcases hstarts.first_taken with
    ⟨unstarted, started, ⟨status, read, unlatched⟩, rfl, taken⟩ | ⟨kept, untaken⟩
  · refine .inl ⟨⟨⟨unstarted, started⟩, status, (recorded _ _).2 read, unlatched⟩, _, taken, ?_⟩
    intro x a
    rw [recorded, Board.record_append, List.mem_append,
      or_iff_right fun early => c.unsensed_ready x (Board.made_of_recorded early)]
    exact ⟨pollSensors_of_asked, asked_of_pollSensors⟩
  · refine .inr ⟨fun taken => untaken ?_, kept⟩
    obtain ⟨status, read, unlatched⟩ := taken.unlatched
    exact ⟨taken.unstarted, taken.started, status, (recorded _ _).1 read, unlatched⟩

theorem ready_of_untaken (h : ¬ t.TakesFirst) : t.ready.baseline = t.before.baseline := by
  obtain ⟨taken, -⟩ | ⟨-, kept⟩ := t.ready_baseline
  · exact absurd taken h
  · exact kept

namespace TakesFirst

/-- Such a start polls the sensors that steer the fans, and overwrites the baseline with what it
takes from their answers. -/
theorem polls (h : t.TakesFirst) :
    ∃ w, t.ready.baseline = t.before.baseline.overlay
        (firstReadings (b.pollSensors c.table.relevant w)) ∧
      ∀ x a, .asked (sensorAccess x) a ∈ t.start.trace ↔
        (x, a) ∈ b.pollSensors c.table.relevant w := by
  obtain ⟨-, polled⟩ | ⟨untaken, -⟩ := t.ready_baseline
  · exact polled
  · exact absurd h untaken

/-- It asks these sensors, -/
theorem asks_iff (h : t.TakesFirst) :
    (∃ a, .asked (sensorAccess x) a ∈ t.start.trace) ↔ x ∈ c.table.relevant := by
  obtain ⟨w, -, polled⟩ := h.polls
  simp only [polled, exists_pollSensors_iff]

/-- each of them once. -/
theorem asks_once (h : t.TakesFirst) {a a' : Except Fault SensorReading}
    (asked : .asked (sensorAccess x) a ∈ t.start.trace)
    (asked' : .asked (sensorAccess x) a' ∈ t.start.trace) : a = a' := by
  obtain ⟨w, -, polled⟩ := h.polls
  exact pollSensors_unique ((polled x a).1 asked) ((polled x a').1 asked')

/-- What the first baseline holds for a sensor. -/
theorem value (h : t.TakesFirst) (x : Sensor) :
    (x ∉ c.table.relevant ∧ t.ready.baseline.get? x = t.before.baseline.get? x) ∨
      ∃ a, .asked (sensorAccess x) a ∈ t.start.trace ∧
        t.ready.baseline.get? x = some (firstValue a) := by
  obtain ⟨w, taken, polled⟩ := h.polls
  rw [taken, Cells.get?_overlay]
  rcases firstReadings_cases (b.pollSensors c.table.relevant w) x with
    ⟨none, unlisted⟩ | ⟨a, listed, first⟩
  · refine .inl ⟨fun relevant => ?_, by rw [none, Option.none_or]⟩
    obtain ⟨a, answer⟩ := exists_pollSensors_iff.2 relevant
    exact unlisted a answer
  · exact .inr ⟨a, (polled x a).2 listed, by rw [first, Option.some_or]⟩

end TakesFirst

end Turn

/-- **The start succeeds once.** -/
theorem Controller.begins_once {ws : List σ} {i j : Nat} {t u : Turn c b}
    (hi : (c.history b s ws)[i]? = some t) (hj : (c.history b s ws)[j]? = some u)
    (begun : t.Begins) (begun' : u.Begins) : i = j := by
  have after {i j : Nat} {t u : Turn c b} (hi : (c.history b s ws)[i]? = some t)
      (hj : (c.history b s ws)[j]? = some u) (begun : t.Begins) (begun' : u.Begins) : ¬ i < j := by
    intro later
    obtain ⟨started, -⟩ := history_started hi (Turn.initialised_of_start begun.started) later hj
    rw [begun'.unstarted] at started
    cases started
  exact Nat.le_antisymm (Nat.not_lt.1 (after hj hi begun' begun))
    (Nat.not_lt.1 (after hi hj begun begun'))

/-! ## The source of a value -/

/-- Of the passes of a row, the last that stores a reading of the sensor. -/
def LastStore (row : List (Turn c b)) (x : Sensor) (u : Turn c b) : Prop :=
  ∃ earlier later, row = earlier ++ u :: later ∧ u.Stores x ∧ ¬ StoredBy later x

/-- Where the value that the baseline holds for a sensor after a row of passes comes from. -/
inductive BaselineSource (row : List (Turn c b)) (x : Sensor) : Option Int → Prop where
  /-- The last change of the speed that has stored a reading of it, -/
  | stored {u : Turn c b} {r : SensorReading} (last : LastStore row x u)
      (sampled : (x, .ok r) ∈ u.round.sensors) (usable : r.usable = true)
      (read : .asked (sensorAccess x) (.ok r) ∈ u.trace) :
      BaselineSource row x (some r.mcelsius)
  /-- or else the start that has taken the first baseline. -/
  | first {u : Turn c b} {a : Except Fault SensorReading} (unstored : ¬ StoredBy row x)
      (member : u ∈ row) (taken : u.TakesFirst) (asked : .asked (sensorAccess x) a ∈ u.start.trace) :
      BaselineSource row x (some (firstValue a))
  /-- There is no other. -/
  | nothing (unstored : ¬ StoredBy row x)
      (untaken : x ∈ c.table.relevant → ∀ u ∈ row, ¬ u.TakesFirst) : BaselineSource row x none

theorem LastStore.storedBy {row : List (Turn c b)} {u : Turn c b} (h : LastStore row x u) :
    StoredBy row x := by
  obtain ⟨earlier, later, rfl, stores, -⟩ := h
  exact ⟨u, by simp, stores⟩

theorem storedBy_concat {row : List (Turn c b)} {t : Turn c b} :
    StoredBy (row ++ [t]) x ↔ StoredBy row x ∨ t.Stores x := by
  simp only [StoredBy, List.mem_append, List.mem_singleton, or_and_right, exists_or, exists_eq_left]

namespace BaselineSource

variable {row : List (Turn c b)} {t : Turn c b} {value : Option Int}

/-- A pass that leaves the value alone hands its source on. -/
theorem keep (h : BaselineSource row x value) (unstored : ¬ t.Stores x)
    (untaken : x ∈ c.table.relevant → ¬ t.TakesFirst) : BaselineSource (row ++ [t]) x value := by
  have still {row : List (Turn c b)} (none : ¬ StoredBy row x) : ¬ StoredBy (row ++ [t]) x :=
    fun stores => (storedBy_concat.1 stores).elim none unstored
  cases h with
  | stored last sampled usable read =>
    obtain ⟨earlier, later, rfl, stores, none⟩ := last
    exact .stored ⟨earlier, later ++ [t], by simp, stores, still none⟩ sampled usable read
  | first none member taken asked =>
    exact .first (still none) (List.mem_append_left _ member) taken asked
  | nothing none early =>
    refine .nothing (still none) fun relevant u hu => ?_
    rcases List.mem_append.1 hu with hu | hu
    · exact early relevant u hu
    · rw [List.mem_singleton.1 hu]
      exact untaken relevant

/-- Where there is no value, no change of the speed has stored one. -/
theorem unstored_of_none (h : BaselineSource row x none) : ¬ StoredBy row x := by
  cases h with
  | nothing unstored => exact unstored

/-- Only sensors that steer the fans have a source. -/
theorem none_of_irrelevant (h : BaselineSource row x value) (irrelevant : x ∉ c.table.relevant) :
    value = none := by
  cases h with
  | stored last sampled => exact absurd (mem_round_relevant sampled) irrelevant
  | first unstored member taken asked => exact absurd (taken.asks_iff.1 ⟨_, asked⟩) irrelevant
  | nothing => rfl

/-- **The step**: a pass hands the source of a value on, or it is the source itself. -/
theorem pass (h : BaselineSource row x (t.before.baseline.get? x))
    (fresh : t.before.initialised = false → t.before.baseline.get? x = none) :
    BaselineSource (row ++ [t]) x (t.after.baseline.get? x) := by
  rcases t.after_stored x with ⟨same, unstored⟩ | ⟨stores, r, sampled, usable, read, stored⟩
  · rw [same]
    by_cases taken : t.TakesFirst
    · rcases taken.value x with ⟨irrelevant, kept⟩ | ⟨a, asked, first⟩
      · rw [kept]
        exact h.keep unstored fun relevant => absurd relevant irrelevant
      · rw [fresh taken.unstarted] at h
        rw [first]
        refine .first ?_ (List.mem_append_right _ (List.mem_singleton_self t)) taken asked
        exact fun stores => (storedBy_concat.1 stores).elim h.unstored_of_none unstored
    · rw [Turn.ready_of_untaken taken]
      exact h.keep unstored fun _ => taken
  · rw [stored]
    refine .stored ⟨row, [], rfl, stores, ?_⟩ sampled usable read
    rintro ⟨u, hu, -⟩
    cases hu

end BaselineSource

/-! ## Along a history -/

section History

variable {ws : List σ} {k : Nat} {t : Turn c b}

/-- **The run**: what a pass finds in the baseline has its source in the passes before it. -/
theorem before_source (h : (c.history b .fresh ws)[k]? = some t) (x : Sensor) :
    BaselineSource ((c.history b .fresh ws).take k) x (t.before.baseline.get? x) := by
  refine Controller.history_induction
    (P := fun k s => BaselineSource ((c.history b .fresh ws).take k) x (s.baseline.get? x))
    ?start ?step h
  case start =>
    rw [List.take_zero, show ControlState.fresh.baseline.get? x = none from Cells.get?_empty x]
    exact .nothing (fun ⟨u, hu, _⟩ => by cases hu) fun _ u hu => by cases hu
  case step =>
    intro k t hk source
    rw [take_succ_of_history hk]
    exact source.pass (before_origin hk x).2

/-- So has what it leaves in the baseline, in the passes up to it. -/
theorem after_source (h : (c.history b .fresh ws)[k]? = some t) (x : Sensor) :
    BaselineSource ((c.history b .fresh ws).take (k + 1)) x (t.after.baseline.get? x) := by
  rw [take_succ_of_history h]
  exact (before_source h x).pass (before_origin h x).2

end History

/-- What the baseline of a control state holds after a row of passes. -/
structure BaselineHolds (row : List (Turn c b)) (s : ControlState) : Prop where
  /-- If changes of the speed have stored readings of the sensor, the reading of the last of them; -/
  stored : ∀ x, StoredBy row x → ∃ u r, LastStore row x u ∧
    (∀ a, (x, a) ∈ u.round.sensors ↔ a = .ok r) ∧ .asked (sensorAccess x) (.ok r) ∈ u.trace ∧
      s.baselineOf x = r.mcelsius
  /-- or else what the start has been told that has succeeded with the shutdown unlatched; -/
  first : ∀ x u, ¬ StoredBy row x → x ∈ c.table.relevant → u ∈ row → u.TakesFirst →
    ∃ a, (∀ a', .asked (sensorAccess x) a' ∈ u.start.trace ↔ a' = a) ∧
      s.baselineOf x = firstValue a
  /-- or else zero. -/
  nothing : ∀ x, ¬ StoredBy row x → (x ∈ c.table.relevant → ∀ u ∈ row, ¬ u.TakesFirst) →
    s.baselineOf x = 0
  /-- There is nothing for a sensor that does not steer the fans. -/
  irrelevant : ∀ x, x ∉ c.table.relevant → s.baseline.get? x = none

/-- A row of passes, and the baseline along it. -/
structure BaselineSources (row : List (Turn c b)) : Prop where
  holds : ∀ k t, row[k]? = some t → BaselineHolds (row.take (k + 1)) t.after
  /-- The start of a pass leaves the baseline as it is but for the one that takes the first, -/
  start : ∀ t ∈ row, ¬ t.TakesFirst → t.ready.baseline = t.before.baseline
  /-- and so does the rest of it if it sets no speed, whatever it fails at or finds. -/
  rest : ∀ t ∈ row, ¬ SpeedSet t.result → t.after.baseline = t.ready.baseline
  /-- At most one start succeeds. -/
  once : ∀ (i j : Nat) (t u : Turn c b), row[i]? = some t → row[j]? = some u →
    t.Begins → u.Begins → i = j

/-- Sources for all sensors tell what the baseline holds, if the first one is taken once. -/
theorem BaselineSource.holds {row : List (Turn c b)}
    (sources : ∀ x, BaselineSource row x (s.baseline.get? x))
    (once : ∀ u ∈ row, ∀ u' ∈ row, u.TakesFirst → u'.TakesFirst → u = u') :
    BaselineHolds row s := by
  refine ⟨fun x stores => ?stored, fun x u unstored relevant member taken => ?first,
    fun x unstored untaken => ?nothing, fun x => (sources x).none_of_irrelevant⟩
  all_goals
    unfold ControlState.baselineOf
    have source := sources x
    generalize s.baseline.get? x = value at source
  case stored =>
    cases source with
    | stored last sampled usable read =>
      refine ⟨_, _, last, fun a => ⟨fun answer => pollSensors_unique answer sampled, ?_⟩, read, rfl⟩
      exact fun same => same ▸ sampled
    | first unstored | nothing unstored => exact absurd stores unstored
  case first =>
    cases source with
    | stored last => exact absurd last.storedBy unstored
    | first _ member' taken' asked =>
      obtain rfl := once _ member _ member' taken taken'
      exact ⟨_, fun a' => ⟨fun asked' => taken.asks_once asked' asked, fun same => same ▸ asked⟩, rfl⟩
    | nothing _ untaken => exact absurd taken (untaken relevant u member)
  case nothing =>
    cases source with
    | stored last => exact absurd last.storedBy unstored
    | first _ member taken asked =>
      exact absurd taken (untaken (taken.asks_iff.1 ⟨_, asked⟩) _ member)
    | nothing => rfl

/-- **The source of the baseline.** Along every history from a fresh state, for every sensor after
every pass, the baseline holds the reading that the last change of the speed has stored, or else
what the start that succeeded unlatched has taken, or else nothing; and nothing else alters it. -/
theorem baseline_sources (c : Controller) (b : Board σ) (ws : List σ) :
    BaselineSources (c.history b .fresh ws) := by
  refine ⟨fun k t h => ?holds, fun t _ untaken => ?start, fun t _ unset => ?rest,
    fun i j t u hi hj => Controller.begins_once hi hj⟩
  case holds =>
    refine BaselineSource.holds (after_source h) fun u hu u' hu' taken taken' => ?_
    obtain ⟨i, hi⟩ := List.mem_iff_getElem?.1 (List.mem_of_mem_take hu)
    obtain ⟨j, hj⟩ := List.mem_iff_getElem?.1 (List.mem_of_mem_take hu')
    obtain rfl := Controller.begins_once hi hj taken.toBegins taken'.toBegins
    exact Option.some.inj (hi.symm.trans hj)
  case start => exact Turn.ready_of_untaken untaken
  case rest =>
    refine Cells.ext fun x => ?_
    rcases t.after_stored x with ⟨same, -⟩ | ⟨stores, -⟩
    · exact same
    · exact absurd stores.set unset

end SwitchThermal
