import SwitchThermal.Proofs.Baseline
import SwitchThermal.Proofs.SpeedRules
import SwitchThermal.Proofs.Trial

/-!
# What a fast rise is taken against

The very hot rule speeds up at once when a sensor has risen fast, that is, when its sample is far
above the baseline. The baseline need not hold a reading that a sweep would have accepted: until a
change of the speed has stored one, it holds what the first baseline took, or nothing, which counts
as zero.

* `Turn.RisesFast` — a pass asks for a speed on account of a fast rise.
* `RisesFast.commanded`, `RisesFast.sampled` — it does ask for the speed, and it has sampled the
  sensor.
* `RisenFrom`, `fast_rise_origin` — the rise is the difference of that sample and a value whose
  origin the run shows.
* `fast_rise_from_nothing` — a sensor that becomes readable while very hot, and has not risen at
  all.
-/

set_option autoImplicit false

namespace SwitchThermal

variable {σ : Type} {b : Board σ} {c : Controller} {x : Sensor} {d : Int} {v : Nat}

/-! ## The rule -/

/-- A speed that is asked for on account of a rise comes with a sample that is so far above the
baseline. -/
theorem rise_of_escalate {current : Nat} {samples : Readings} {s : ControlState} {p : Params}
    (h : escalate current samples s p = .ok (some (v, .fastRise x d))) :
    ∃ m, (x, m) ∈ samples.toList ∧ d = m - s.baselineOf x ∧ p.riseDelta < d := by
  rcases escalate_eq_ok h with ⟨none, -⟩ | ⟨t, some, -, reason, -⟩
  · cases none
  · cases some
    cases reason with
    | fastRise first =>
      exact ⟨s.baselineOf x + d, Cells.mem_toList.2 first.rises.sampled, by omega, first.rises.fast⟩

/-! ## Passes that rise fast -/

/-- The pass asks for a speed on account of a fast rise: it gets as far as the choice of a speed,
finds the sensors very hot and nothing else amiss, and the rule for that names the rise as its
reason. -/
structure Turn.RisesFast (t : Turn c b) (v : Nat) (x : Sensor) (d : Int) : Prop where
  started : t.start.value.1 = .ok ()
  enabled : t.ready.enabled = true
  clear : t.round.Clear
  calm : ∀ e ∈ t.round.sensors, trips e = false
  healthy : t.round.problem = false
  veryHigh : t.round.band c.table = .veryHigh
  rule : escalate t.round.speed (t.round.sweep c.table).samples (t.round.noted c.table t.ready)
    c.params = .ok (some (v, .fastRise x d))

namespace Turn.RisesFast

variable {t : Turn c b}

/-- What follows the start of the pass. -/
theorem rest (h : t.RisesFast v x d) :
    ∃ r s' qs, c.Managed b t.start.world t.ready r s' qs ∧
      Pass.Yields b t.start.world t.ready c.proceed r s' qs := by
  obtain ⟨r, s', qs, hends, hproceed⟩ := Controller.proceed_ends c b t.start.world t.ready
  exact ⟨r, s', qs, hends.managed_of_clear h.enabled h.clear, hproceed⟩

/-- The pass asks the chassis fans for the speed. -/
theorem commanded (h : t.RisesFast v x d) : Commanded v t.trace := by
  obtain ⟨r, s', qs, hmanaged, hproceed⟩ := h.rest
  have command : c.command t.round t.ready = .ok (some v) := by
    rw [Controller.command_of_healthy h.healthy, h.veryHigh, Controller.target, h.rule]
    rfl
  obtain ⟨slot, asked⟩ := (hmanaged.commanded_iff h.calm v).2 command
  refine ⟨slot, ?_⟩
  rw [t.trace_of_started h.started, Program.queries_append, hproceed.trace]
  exact List.mem_append_right _ asked

/-- The pass has sampled the sensor after its start, and far above the baseline. -/
theorem sampled (h : t.RisesFast v x d) :
    ∃ earlier reading later, t.trace = earlier ++ .asked (sensorAccess x) (.ok reading) :: later ∧
      t.start.trace <+: earlier ∧ reading.usable = true ∧
      d = reading.mcelsius - t.ready.baselineOf x ∧ c.params.riseDelta < d := by
  obtain ⟨m, sample, risen, fast⟩ := rise_of_escalate h.rule
  obtain ⟨reading, answer, usable, rfl⟩ := Sweep.reading_of_sample sample
  obtain ⟨r, s', qs, hmanaged, hproceed⟩ := h.rest
  have asked : .asked (sensorAccess x) (.ok reading) ∈
      (c.proceed.runOn b t.ready t.start.world).trace := by
    obtain ⟨rest, rfl⟩ := hmanaged.accesses_of_calm h.calm
    exact hproceed.recorded _ _ (Controller.asked_of_round rest answer)
  obtain ⟨before, later, split⟩ := List.append_of_mem asked
  refine ⟨t.start.trace ++ before, reading, later, ?_, List.prefix_append _ _, usable, risen, fast⟩
  rw [t.trace_of_started h.started, split, List.append_assoc]

end Turn.RisesFast

/-- A sensor has risen fast from a value `base`, where none counts as zero: the pass with the index
`k` reads it usable after `earlier`, and that far above the value. -/
structure RisenFrom (turns : List (Turn c b)) (k : Nat) (t : Turn c b) (x : Sensor) (d : Int)
    (earlier : List Entry) (reading : SensorReading) (base : Option Int) : Prop where
  read : ∃ later, t.trace = earlier ++ .asked (sensorAccess x) (.ok reading) :: later
  usable : reading.usable = true
  risen : d = reading.mcelsius - base.getD 0
  fast : c.params.riseDelta < d
  /-- Where the value comes from: the run up to that reading, and the starts in it. -/
  origin : Origin (traces (turns.take k) ++ earlier) (startTraces (turns.take (k + 1))) x
    (StoredBy (turns.take k) x) base

/-- **What a fast rise is taken against.** A pass that asks for a speed on account of a fast rise
has read the sensor that far above a usable reading of it earlier in the run, or else above what the
first baseline took for want of one. -/
theorem fast_rise_origin {ws : List σ} {k : Nat} {t : Turn c b}
    (h : (c.history b .fresh ws)[k]? = some t) (fast : t.RisesFast v x d) :
    Commanded v t.trace ∧
      ∃ earlier reading base, RisenFrom (c.history b .fresh ws) k t x d earlier reading base := by
  obtain ⟨earlier, reading, later, split, start, usable, risen, above⟩ := fast.sampled
  refine ⟨fast.commanded, earlier, reading, t.ready.baseline.get? x, ⟨later, split⟩, usable, risen,
    above, ?_⟩
  refine (ready_origin h x).extend ?_ (fun a => Iff.rfl) id
  intro e he
  rcases List.mem_append.1 he with he | he
  · exact List.mem_append_left _ he
  · exact List.mem_append_right _ (start.subset he)

section Trial

open Bench

/-- A bench at 80 % with the first core at 75 °C. -/
def hotCore : World :=
  .patched 80 [.heat .cpuCore0 75000]

/-- A bench at 80 % on which the first core cannot be read. -/
def blindCore : World :=
  .patched 80 [.sensor .cpuCore0 (.error (.internal "no sensor"))]

/-- The pass on the first bench that follows one on another, from a fresh state. -/
def hotTurn (first : World) : Turn trialController trialBoard :=
  ⟨hotCore, (Turn.after (c := trialController) (b := trialBoard) ⟨first, .fresh⟩)⟩

/-- A core that was at 45 °C in the first pass has risen by 30 °C. -/
theorem fast_rise_origin_at_75 :
    ∃ t, (trialController.history trialBoard .fresh [.patched 80 [], hotCore])[1]? = some t ∧
      t.RisesFast 96 .cpuCore0 30000 ∧ Commanded 96 t.trace ∧
      ∃ earlier reading base, RisenFrom (trialController.history trialBoard .fresh
        [.patched 80 [], hotCore]) 1 t .cpuCore0 30000 earlier reading base := by
  have second : (trialController.history trialBoard .fresh [.patched 80 [], hotCore])[1]? =
      some (hotTurn (.patched 80 [])) := rfl
  have fast : (hotTurn (.patched 80 [])).RisesFast 96 .cpuCore0 30000 :=
    ⟨by rfl, by rfl, heated_clear _, by decide +kernel, by rfl, by rfl, by rfl⟩
  exact ⟨_, second, fast, fast_rise_origin second fast⟩

/-- **A sensor that becomes readable while very hot** counts as risen from zero, which it has never
read. -/
theorem fast_rise_from_nothing :
    ∃ t, (trialController.history trialBoard .fresh [blindCore, hotCore])[1]? = some t ∧
      t.RisesFast 96 .cpuCore0 75000 ∧
      ∀ u ∈ trialController.history trialBoard .fresh [blindCore, hotCore], ∀ reading,
        .asked (sensorAccess .cpuCore0) (.ok reading) ∈ u.trace → reading.mcelsius = 75000 := by
  have read : ∀ u ∈ trialController.history trialBoard .fresh [blindCore, hotCore],
      ∀ e ∈ u.trace.filterMap sensorSample, e.1 = .cpuCore0 → e.2.mcelsius = 75000 := by
    decide +kernel
  refine ⟨hotTurn blindCore, rfl,
    ⟨by rfl, by rfl, heated_clear _, by decide +kernel, by rfl, by rfl, by rfl⟩, ?_⟩
  intro u hu reading asked
  exact read u hu _ (mem_sensorSamples asked) rfl

end Trial

end SwitchThermal
