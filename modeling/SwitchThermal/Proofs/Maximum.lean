import Mathlib.Data.List.Induction
import Mathlib.Order.Bounds.Defs
import SwitchThermal.Proofs.Hotter
import SwitchThermal.Proofs.SpeedDirection

/-!
# The severity is a maximum

A sweep tries the bands of each sensor from hot to cool and keeps the hottest band so far. What
comes of it is the greatest of all bands that some usable sensor is strictly inside of, whichever
bands overlap, are reversed or missing, and the first sensor whose own hottest band that is.

* `Bands.Inside`, `classify_eq_some_iff` — a temperature is classified as the hottest band around
  it.
* `Reached`, `LeadIn` — a band that a usable sensor reads, and the first one classified as it.
* `Sweep.gather_lead` — one more answer either changes nothing or makes its sensor the lead.
* `gather_perm`, `gather_insert` — the band depends on neither the order of the answers nor does it
  fall with one more.
* `TrueMaximum`, `severity_true_maximum` — the band and the worst sensor of a managed pass.
-/

set_option autoImplicit false

namespace SwitchThermal

/-! ## One sensor -/

namespace Bands

variable {bs : Bands} {m : Int} {band : Band}

/-- Strictly inside the interval of a band, which is active then. -/
def Inside (bs : Bands) (m : Int) (band : Band) : Prop :=
  (bs.interval band).low < m ∧ m < (bs.interval band).high

theorem contains_iff_inside : (bs.interval band).contains m = true ↔ bs.Inside m band := by
  simp only [Interval.contains, Interval.active, Inside, Bool.and_eq_true, decide_eq_true_eq]
  omega

theorem not_inside_of_classify (h : bs.classify m = .none) (band : Band) : ¬ bs.Inside m band := by
  intro inside
  have listed : band ∈ Band.hottestFirst := by cases band <;> decide
  exact absurd (contains_iff_inside.2 inside) (List.find?_eq_none.1 h band listed)

/-- The bands are tried from hot to cool, so that those passed over are the hotter ones. -/
theorem le_of_classify (h : bs.classify m = some band) {other : Band}
    (inside : bs.Inside m other) : other ≤ band := by
  obtain ⟨-, hotter, cooler, split, passed⟩ := List.find?_eq_some_iff_append.1 h
  have sorted : Band.hottestFirst.Pairwise fun a c => c < a := by decide
  have listed : other ∈ Band.hottestFirst := by cases other <;> decide
  rw [split] at sorted listed
  rcases List.mem_append.1 listed with hot | rest
  · have outside := passed other hot
    rw [contains_iff_inside.2 inside] at outside
    cases outside
  · rcases List.mem_cons.1 rest with rfl | cool
    · exact Nat.le_refl _
    · have below := List.rel_of_pairwise_cons (List.pairwise_append.1 sorted).2.1 cool
      exact Nat.le_of_lt below

/-- **A temperature is classified as the greatest band around it.** -/
theorem classify_eq_some_iff :
    bs.classify m = some band ↔ IsGreatest {other | bs.Inside m other} band := by
  constructor
  · intro h
    exact ⟨contains_of_classify h, fun other inside => le_of_classify h inside⟩
  · rintro ⟨inside, greatest⟩
    cases h : bs.classify m with
    | none => exact absurd inside (not_inside_of_classify h band)
    | some other =>
      have hotter : other ≤ band := greatest (contains_of_classify h)
      have cooler : band ≤ other := le_of_classify h inside
      rw [Band.rank_inj (Nat.le_antisymm hotter cooler)]

end Bands

/-! ## All sensors -/

variable {table : BandTable} {l : List (Sensor × Except Fault SensorReading)} {band : Band}

/-- Some usable sensor reads strictly inside its own interval of the band. -/
def Reached (table : BandTable) (l : List (Sensor × Except Fault SensorReading)) (band : Band) :
    Prop :=
  ∃ x r, (x, .ok r) ∈ l ∧ r.present = true ∧ r.failed = false ∧
    (table.bands x).Inside r.mcelsius band

theorem SensorReading.usable_iff {r : SensorReading} :
    r.usable = true ↔ r.present = true ∧ r.failed = false := by
  simp [usable]

/-- The first usable sensor that is classified as the band, with its temperature. -/
def LeadIn (table : BandTable) (l : List (Sensor × Except Fault SensorReading)) (band : Band)
    (lead : Worst) : Prop :=
  ∃ before r after, l = before ++ (lead.sensor, .ok r) :: after ∧ r.usable = true ∧
    r.mcelsius = lead.mcelsius ∧ table.classify lead.sensor r.mcelsius = some band ∧
    ∀ y r', (y, .ok r') ∈ before → r'.usable = true → table.classify y r'.mcelsius ≠ some band

theorem LeadIn.snoc {lead : Worst} (h : LeadIn table l band lead)
    (e : Sensor × Except Fault SensorReading) : LeadIn table (l ++ [e]) band lead := by
  obtain ⟨before, r, after, rfl, rest⟩ := h
  exact ⟨before, r, after ++ [e], List.append_assoc _ _ _, rest⟩

namespace Sweep

theorem gather_append (v : Sweep) (l l' : List (Sensor × Except Fault SensorReading)) :
    v.gather table (l ++ l') = (v.gather table l).gather table l' := by
  simp only [gather, usableReadings, readings_append, List.filter_append, List.foldl_append]

/-- A usable reading is not hotter than the band of the sweep. -/
theorem heat_le_gather (table : BandTable) (v : Sweep) {x : Sensor} {r : SensorReading}
    (read : (x, .ok r) ∈ l) (usable : r.usable = true) :
    heat (table.classify x r.mcelsius) ≤ (v.gather table l).severity.band.rank := by
  obtain ⟨-, below⟩ := rank_gather_le.1 (Nat.le_refl (v.gather table l).severity.band.rank)
  exact below x r read usable

/-- An answer that is not a usable reading is not gathered. -/
theorem gather_unusable (v : Sweep) {e : Sensor × Except Fault SensorReading}
    (h : ∀ r, e.2 = .ok r → r.usable = false) : v.gather table [e] = v := by
  have none_usable : usableReadings [e] = [] := by
    refine List.eq_nil_iff_forall_not_mem.2 fun ⟨x, r⟩ hmem => ?_
    obtain ⟨read, usable⟩ := mem_usableReadings.1 hmem
    rw [h r (by rw [← List.mem_singleton.1 read])] at usable
    cases usable
  rw [gather, none_usable, List.foldl_nil]

theorem severity_gather_usable (v : Sweep) {x : Sensor} {r : SensorReading}
    (usable : r.usable = true) : (v.gather table [(x, .ok r)]).severity =
      v.severity.observe x (table.classify x r.mcelsius) r.mcelsius := by
  have only : usableReadings [(x, .ok r)] = [(x, r)] := by
    simp [usableReadings, readings, Except.toOption, usable]
  rw [gather, only]
  rfl

/-- One more answer either leaves the severity as it is, or is a usable reading in a strictly hotter
band, which it makes its own. -/
theorem gather_lead (table : BandTable) (v : Sweep) (e : Sensor × Except Fault SensorReading) :
    (v.gather table [e]).severity = v.severity ∨
      ∃ x r hotter, e = (x, .ok r) ∧ r.usable = true ∧
        table.classify x r.mcelsius = some hotter ∧ v.severity.band < hotter ∧
        (v.gather table [e]).severity = ⟨hotter, some ⟨x, r.mcelsius⟩⟩ := by
  obtain ⟨x, fault | r⟩ := e
  · exact .inl (congrArg Sweep.severity (gather_unusable v nofun))
  · cases usable : r.usable with
    | false =>
      refine .inl (congrArg Sweep.severity (gather_unusable v fun r' h => ?_))
      cases h
      exact usable
    | true =>
      rw [severity_gather_usable v usable]
      unfold Severity.observe
      cases classified : table.classify x r.mcelsius with
      | none => exact .inl rfl
      | some hotter =>
        dsimp only
        split
        · rename_i above
          exact .inr ⟨x, r, hotter, rfl, usable, classified, above, rfl⟩
        · exact .inl rfl

/-- **The severity of a sweep**: it has seen no band above `low`, or names the first sensor in the
band. The induction adds the answers at the end, where the band so far bounds all before. -/
theorem severity_gather (table : BandTable) (l : List (Sensor × Except Fault SensorReading)) :
    (({} : Sweep).gather table l).severity = Severity.none ∨
      (({} : Sweep).gather table l).severity.band ≠ .low ∧
        ∃ lead, (({} : Sweep).gather table l).severity.worst = some lead ∧
          LeadIn table l (({} : Sweep).gather table l).severity.band lead := by
  induction l using List.reverseRecOn with
  | nil => exact .inl rfl
  | append_singleton l e ih =>
    rw [gather_append]
    rcases gather_lead table (({} : Sweep).gather table l) e with
      same | ⟨x, r, hotter, rfl, usable, classified, above, lead⟩
    · rw [same]
      refine ih.imp_right ?_
      rintro ⟨warm, lead, worst, first⟩
      exact ⟨warm, lead, worst, first.snoc e⟩
    · rw [lead]
      have above' : (({} : Sweep).gather table l).severity.band.rank < hotter.rank := above
      refine .inr ⟨?_, ⟨x, r.mcelsius⟩, rfl, l, r, [], rfl, usable, rfl, classified, ?_⟩
      · rintro rfl
        exact Nat.not_lt_zero _ above'
      · intro y r' earlier usable' classified'
        have below := heat_le_gather table {} earlier usable'
        rw [classified'] at below
        exact Nat.lt_irrefl _ (Nat.lt_of_le_of_lt below above')

/-- A band that is reached is not above the band of the sweep. -/
theorem le_of_reached (h : Reached table l band) :
    band ≤ (({} : Sweep).gather table l).severity.band := by
  obtain ⟨x, r, read, present, working, inside⟩ := h
  have below := heat_le_gather table {} read
    (SensorReading.usable_iff.2 ⟨present, working⟩)
  cases classified : table.classify x r.mcelsius with
  | none => exact absurd inside (Bands.not_inside_of_classify classified band)
  | some own =>
    rw [classified] at below
    exact Nat.le_trans (Bands.le_of_classify classified inside) below

theorem reached_of_leadIn {lead : Worst} (h : LeadIn table l band lead) :
    Reached table l band := by
  obtain ⟨before, r, after, rfl, usable, -, classified, -⟩ := h
  obtain ⟨present, working⟩ := SensorReading.usable_iff.1 usable
  exact ⟨lead.sensor, r, List.mem_append_right _ List.mem_cons_self, present, working,
    Bands.contains_of_classify classified⟩

/-- The order of the answers does not matter to the band. -/
theorem gather_perm (v : Sweep) {l l' : List (Sensor × Except Fault SensorReading)}
    (h : l.Perm l') :
    (v.gather table l).severity.band = (v.gather table l').severity.band := by
  have bounded : ∀ {l l' : List (Sensor × Except Fault SensorReading)}, l.Perm l' →
      (v.gather table l).severity.band.rank ≤ (v.gather table l').severity.band.rank := by
    intro l l' h
    obtain ⟨start, readings⟩ :=
      rank_gather_le.1 (Nat.le_refl (v.gather table l').severity.band.rank)
    exact rank_gather_le.2 ⟨start, fun x r hmem => readings x r (h.mem_iff.1 hmem)⟩
  exact Band.rank_inj (Nat.le_antisymm (bounded h) (bounded h.symm))

/-- One more answer does not lower the band, wherever it comes. -/
theorem gather_insert (v : Sweep) (before after : List (Sensor × Except Fault SensorReading))
    (e : Sensor × Except Fault SensorReading) :
    (v.gather table (before ++ after)).severity.band ≤
      (v.gather table (before ++ e :: after)).severity.band := by
  obtain ⟨start, readings⟩ := rank_gather_le.1
    (Nat.le_refl (v.gather table (before ++ e :: after)).severity.band.rank)
  refine rank_gather_le.2 ⟨start, fun x r hmem => readings x r ?_⟩
  rcases List.mem_append.1 hmem with hmem | hmem
  · exact List.mem_append_left _ hmem
  · exact List.mem_append_right _ (List.mem_cons_of_mem _ hmem)

end Sweep

/-! ## Managed passes -/

/-- The severity that the answers of some sensors call for. -/
structure Severity.TrueMaximum (v : Severity) (table : BandTable)
    (l : List (Sensor × Except Fault SensorReading)) : Prop where
  /-- The band is the greatest one reached, and `low` if none is. -/
  band : IsGreatest {band | Reached table l band} v.band ∨
    v.band = .low ∧ ∀ band, ¬ Reached table l band
  cool : v.worst = .none ↔ v.band = .low
  /-- Otherwise the worst sensor is the first usable one whose own greatest band that is. -/
  first : v.band ≠ .low → ∃ before x r after, l = before ++ (x, .ok r) :: after ∧
    r.present = true ∧ r.failed = false ∧ v.worst = some ⟨x, r.mcelsius⟩ ∧
    IsGreatest {band | (table.bands x).Inside r.mcelsius band} v.band ∧
    ∀ y r', (y, .ok r') ∈ before → r'.present = true → r'.failed = false →
      ¬ IsGreatest {band | (table.bands y).Inside r'.mcelsius band} v.band

/-- **A sweep comes to the maximum.** -/
theorem Sweep.trueMaximum (table : BandTable)
    (l : List (Sensor × Except Fault SensorReading)) :
    (({} : Sweep).gather table l).severity.TrueMaximum table l := by
  have bound : ∀ band, Reached table l band →
      band ≤ (({} : Sweep).gather table l).severity.band := fun _ => le_of_reached
  rcases severity_gather table l with cool | ⟨warm, lead, worst, first⟩
  · rw [cool] at bound ⊢
    refine ⟨?_, iff_of_true rfl rfl, fun warm => absurd rfl warm⟩
    by_cases reached : Reached table l .low
    · exact .inl ⟨reached, bound⟩
    · refine .inr ⟨rfl, fun band h => reached ?_⟩
      obtain rfl : band = .low := Band.rank_inj (Nat.le_zero.1 (bound band h))
      exact h
  · refine ⟨.inl ⟨reached_of_leadIn first, bound⟩, iff_of_false ?_ warm, fun _ => ?_⟩
    · rw [worst]
      exact nofun
    · obtain ⟨before, r, after, split, usable, reading, classified, earlier⟩ := first
      obtain ⟨present, working⟩ := SensorReading.usable_iff.1 usable
      refine ⟨before, lead.sensor, r, after, split, present, working, ?_,
        Bands.classify_eq_some_iff.1 classified, fun y r' hmem present' working' greatest => ?_⟩
      · rw [worst, reading]
      · exact earlier y r' hmem (SensorReading.usable_iff.2 ⟨present', working'⟩)
          (Bands.classify_eq_some_iff.2 greatest)

section Managed

variable {σ : Type} {b : Board σ} {c : Controller} {w : σ} {s s' : ControlState}
  {worst : Option Worst} {fans supplies : Bool} {applied : Option Nat} {qs : List Query}

theorem record_sensors (b : Board σ) (l : List Sensor) (w : σ) :
    b.record w (l.map sensorAccess) =
      (b.pollSensors l w).map fun e => Entry.asked (sensorAccess e.1) e.2 :=
  Board.record_poll b sensorAccess _ _ l w (fun _ _ => rfl) fun _ _ => rfl

/-- A pass that reports as managed reads the sensors that steer the fans once, and none of them
later. -/
theorem Controller.Managed.reads_sensors
    (h : c.Managed b w s (.ok (.managed band worst fans supplies applied)) s' qs) :
    ∃ rest, qs = c.roundAccesses ++ rest ∧ ∀ x, sensorAccess x ∉ rest := by
  generalize hr : (.ok (.managed band worst fans supplies applied) : Except Halt PassReport) = r
    at h
  cases h with
  | tripped => cases trip_eq_ok hr.symm
  | overflow | refused => cases hr
  | kept => exact ⟨[], (List.append_nil _).symm, fun x => List.not_mem_nil⟩
  | applied calm change accepted follow =>
    refine ⟨_, rfl, fun x hx => ?_⟩
    rcases List.mem_cons.1 hx with hx | hx
    · cases hx
    · cases follow _ hx

/-- The answers that a managed pass gets from the sensors stand together in its trace. -/
theorem Turn.sensors_recorded {t : Turn c b}
    (h : t.result = .ok (.managed band worst fans supplies applied)) :
    ∃ before after, answers t.trace =
        before ++ (t.round.sensors.map fun e => Entry.asked (sensorAccess e.1) e.2) ++ after ∧
      ∀ x, sensorAccess x ∉ Program.queries after := by
  obtain ⟨starts, qs, -, -, managed, entries⟩ := t.managed_parts h
  obtain ⟨rest, rfl, later⟩ := managed.reads_sensors
  refine ⟨b.record t.world starts ++ b.record t.start.world (dutyAccesses ++ surveyAccesses),
    b.record (b.after t.start.world c.roundAccesses) rest, ?_, fun x => ?_⟩
  · rw [entries, Board.record_append, Controller.roundAccesses, Board.record_append,
      record_sensors]
    simp only [List.append_assoc]
    rfl
  · rw [Program.queries_record]
    exact later x

/-- **The severity of a pass is the true maximum.** A managed pass reads the sensors that steer the
fans, in table order, and reports the greatest band that one of them reaches with the first sensor
that reaches it. In another order they would show the same band, and one more answer would not lower
it. -/
theorem severity_true_maximum (t : Turn c b)
    (h : t.result = .ok (.managed band worst fans supplies applied)) :
    t.round.sensors.map Prod.fst = c.table.relevant ∧
      (∃ before after, answers t.trace =
          before ++ (t.round.sensors.map fun e => Entry.asked (sensorAccess e.1) e.2) ++ after ∧
        ∀ x, sensorAccess x ∉ Program.queries after) ∧
      (Severity.mk band worst).TrueMaximum c.table t.round.sensors ∧
      (∀ l, l.Perm t.round.sensors → (({} : Sweep).gather c.table l).severity.band = band) ∧
      ∀ (v : Sweep) (before after : List (Sensor × Except Fault SensorReading))
        (e : Sensor × Except Fault SensorReading),
        (v.gather c.table (before ++ after)).severity.band ≤
          (v.gather c.table (before ++ e :: after)).severity.band := by
  obtain ⟨starts, qs, -, -, managed, -⟩ := t.managed_parts h
  obtain ⟨-, -, report⟩ := managed.of_report
  obtain ⟨rfl, rfl, -, -, -⟩ := PassReport.managed.inj report
  exact ⟨map_fst_poll _ _ _, Turn.sensors_recorded h, Sweep.trueMaximum c.table t.round.sensors,
    fun l shuffled => Sweep.gather_perm {} shuffled, Sweep.gather_insert⟩

end Managed

section Trial

open Bench

/-- A table with overlapping, reversed and repeated entries. -/
def tangledTable : BandTable :=
  .ofEntries
    [(.front, ⟨⟨0, 50000⟩, ⟨0, 60000⟩, ⟨40000, 50000⟩, .inactive, ⟨90000, 10000⟩⟩),
     (.tcam, ⟨⟨0, 90000⟩, .inactive, ⟨44000, 46000⟩, .inactive, .inactive⟩),
     (.cpuCore0, ⟨⟨0, 90000⟩, .inactive, .inactive, .inactive, .inactive⟩),
     (.front, .none)]

/-- All sensors at 45 degrees. -/
def tangledTurn : Turn ⟨tangledTable, .standard, "thermal.conf"⟩ trialBoard :=
  ⟨.patched 80 [], running 0⟩

/-- The front sensor is inside three of its bands, the critical one being reversed; the first core
comes before it in the table but is in its cool band. -/
theorem severity_tangled :
    tangledTurn.result = .ok (.managed .high (some ⟨.front, 45000⟩) false false none) ∧
      (Severity.mk .high (some ⟨.front, 45000⟩)).TrueMaximum tangledTable
        tangledTurn.round.sensors := by
  have managed : tangledTurn.result =
      .ok (.managed .high (some ⟨.front, 45000⟩) false false none) := by rfl
  exact ⟨managed, (severity_true_maximum tangledTurn managed).2.2.1⟩

end Trial

end SwitchThermal
