import SwitchThermal.Bench.Trial
import SwitchThermal.Proofs.AttributeFiles
import SwitchThermal.Proofs.Baseline
import SwitchThermal.Proofs.SpeedRules

/-!
# When a pass overflows

On a board whose devices are attribute files, with this board's parameters. The files can hold any
number, but a fan with a valid speed is never far above full speed, so no percentage overflows. What
can overflow is a rise: the difference of a temperature and its baseline, which are both signed
32-bit numbers, need not be one.

* `fastRiseIn_error_iff`, `escalate_error_iff` — when a rise does not fit, and what makes the very
  hot rule overflow, whatever the parameters.
* `command_error_iff` — what makes the choice of a speed overflow on this board.
* `Turn.Overflows`, `Turn.overflows_iff` — exactly then the pass ends with an overflow.
* `no_overflow_of_moderate` — temperatures within half the range never lead to an overflow.
* `pass_overflows_iff` — the only overflow along a history is the rise above a temperature that has
  been read before.
-/

set_option autoImplicit false

namespace SwitchThermal

open Text (InInt32)

variable {σ : Type} {b : Board σ} {c : Controller} {w : σ} {s : ControlState} {root : TreePath}

/-! ## Rises that do not fit -/

/-- Some rise does not fit, and none before it is fast. -/
def RiseUnfit (s : ControlState) (p : Params) (l : List (Sensor × Int)) : Prop :=
  ∃ before x m after, l = before ++ (x, m) :: after ∧
    (∀ y n, (y, n) ∈ before → InInt32 (n - s.baselineOf y) ∧ n - s.baselineOf y ≤ p.riseDelta) ∧
    ¬ InInt32 (m - s.baselineOf x)

theorem riseUnfit_cons {p : Params} {x : Sensor} {m : Int} {l : List (Sensor × Int)} :
    RiseUnfit s p ((x, m) :: l) ↔ ¬ InInt32 (m - s.baselineOf x) ∨
      InInt32 (m - s.baselineOf x) ∧ m - s.baselineOf x ≤ p.riseDelta ∧ RiseUnfit s p l := by
  constructor
  · rintro ⟨before, y, n, after, split, slow, unfit⟩
    cases before with
    | nil =>
      cases split
      exact .inl unfit
    | cons e before =>
      cases split
      obtain ⟨fits, steady⟩ := slow x m List.mem_cons_self
      exact .inr ⟨fits, steady, before, y, n, after, rfl,
        fun z k hmem => slow z k (List.mem_cons_of_mem _ hmem), unfit⟩
  · rintro (unfit | ⟨fits, steady, before, y, n, after, rfl, slow, unfit⟩)
    · exact ⟨[], x, m, l, rfl, fun _ _ hmem => (List.not_mem_nil hmem).elim, unfit⟩
    · refine ⟨(x, m) :: before, y, n, after, rfl, fun z k hmem => ?_, unfit⟩
      rcases List.mem_cons.1 hmem with heq | hmem
      · cases heq
        exact ⟨fits, steady⟩
      · exact slow z k hmem

theorem fastRiseIn_error_iff {p : Params} {l : List (Sensor × Int)} {e : Overflow} :
    fastRiseIn s p l = .error e ↔ e = .subtract ∧ RiseUnfit s p l := by
  induction l with
  | nil =>
    constructor
    · intro h
      cases h
    · rintro ⟨-, before, x, m, after, split, -⟩
      simp at split
  | cons y l ih =>
    obtain ⟨x, m⟩ := y
    rw [riseUnfit_cons, fastRiseIn]
    by_cases fits : InInt32 (m - s.baselineOf x)
    · rw [rise, if_pos fits]
      simp only
      split
      · rename_i fast
        simp [fits, Int.not_le.2 fast]
      · rename_i slow
        rw [ih]
        simp [fits, Int.not_lt.1 slow]
    · rw [rise, if_neg fits]
      simp [fits, eq_comm]

/-! ## The speed that a pass sets -/

/-- No percentage of a bounded speed overflows. -/
theorem scale_bounded {speed factor : Nat} (hspeed : speed ≤ 111) (hfactor : factor ≤ 120) :
    scale speed factor = .ok (speed * factor / 100) := by
  have product : speed * factor ≤ 111 * 120 := Nat.mul_le_mul hspeed hfactor
  have fits : speed * factor < wordBound := Nat.lt_of_le_of_lt product (by decide)
  rw [scale, if_pos fits]

/-- The choice of a reason overflows with a rise only. -/
theorem trigger_error_iff {current : Nat} {samples : Readings} {p : Params} {e : Overflow} :
    trigger current samples s p = .error e ↔
      current < p.full ∧ e = .subtract ∧ RiseUnfit s p samples.toList := by
  rw [← fastRiseIn_error_iff, trigger, fastRise]
  by_cases full : p.full ≤ current
  · rw [if_pos full]
    simp [Nat.not_lt.2 full]
  · rw [if_neg full]
    have slow := Nat.not_le.1 full
    cases fastRiseIn s p samples.toList with
    | error o => simp [slow]
    | ok fast => cases fast <;> simp

/-- **What makes the very hot rule overflow**: a rise, or else the product with the factor that goes
with the reason. -/
theorem escalate_error_iff {current : Nat} {samples : Readings} {p : Params} {e : Overflow} :
    escalate current samples s p = .error e ↔ current < p.full ∧
      (e = .subtract ∧ RiseUnfit s p samples.toList ∨
        e = .multiply ∧ ¬ RiseUnfit s p samples.toList ∧
          ∃ t, Reason samples s p t ∧ wordBound ≤ current * t.factor p) := by
  cases chosen : trigger current samples s p with
  | error o =>
    obtain ⟨slow, rfl, unfit⟩ := trigger_error_iff.1 chosen
    rw [escalate, chosen]
    simp [slow, unfit, eq_comm]
  | ok r =>
    have fit : current < p.full → ¬ RiseUnfit s p samples.toList := by
      intro slow unfit
      rw [trigger_error_iff.2 ⟨slow, rfl, unfit⟩] at chosen
      cases chosen
    rw [escalate, chosen]
    rcases trigger_cases chosen with ⟨rfl, idle⟩ | ⟨t, rfl, slow, reason⟩
    · constructor
      · intro h
        cases h
      · rintro ⟨slow, ⟨-, unfit⟩ | ⟨-, -, t, reason, -⟩⟩
        · exact absurd unfit (fit slow)
        · exact absurd idle (reason.not_noReason slow)
    · rw [reason.exists_iff]
      by_cases fits : current * t.factor p < wordBound
      · simp [Trigger.speed, scale, fits, fit slow, Except.map, Nat.not_le.2 fits]
      · simp [Trigger.speed, scale, fits, fit slow, slow, Except.map, Nat.not_lt.1 fits, eq_comm]

/-- From a bounded speed it overflows when a rise does not fit, and only then. -/
theorem escalate_error_iff_of_bounded {current : Nat} {samples : Readings} {e : Overflow}
    (bounded : current ≤ 111) :
    escalate current samples s .standard = .error e ↔
      e = .subtract ∧ current < 100 ∧ RiseUnfit s .standard samples.toList := by
  have product (t : Trigger) : ¬ wordBound ≤ current * t.factor .standard := by
    have factor : t.factor .standard ≤ 120 := by
      cases t with
      | fastRise x delta => exact Nat.le_refl 120
      | steadyClimb => decide
    have product : current * t.factor .standard ≤ 111 * 120 := Nat.mul_le_mul bounded factor
    unfold wordBound
    omega
  rw [escalate_error_iff]
  change current < 100 ∧ _ ↔ _
  constructor
  · rintro ⟨slow, ⟨rfl, unfit⟩ | ⟨-, -, t, -, large⟩⟩
    · exact ⟨rfl, slow, unfit⟩
    · exact absurd large (product t)
  · rintro ⟨rfl, slow, unfit⟩
    exact ⟨slow, .inl ⟨rfl, unfit⟩⟩

theorem decay_bounded {current : Nat} (bounded : current ≤ 111) :
    ∃ v, decay current s .standard = .ok v := by
  rw [decay, scale_bounded bounded (by decide)]
  split
  · exact ⟨_, rfl⟩
  · split <;> exact ⟨_, rfl⟩

/-- **What makes the choice of a speed overflow.** -/
theorem Controller.command_error_iff {R : Round} {e : Overflow} (params : c.params = .standard)
    (bounded : R.speed ≤ 111) :
    c.command R s = .error e ↔ e = .subtract ∧ R.problem = false ∧ R.band c.table = .veryHigh ∧
      R.speed < c.params.full ∧ RiseUnfit s c.params (R.sweep c.table).samples.toList := by
  cases hproblem : R.problem with
  | true =>
    rw [command_of_problem hproblem]
    simp
  | false =>
    rw [command_of_healthy hproblem]
    cases hband : R.band c.table with
    | desired | high | critical => simp [target]
    | low =>
      obtain ⟨v, hv⟩ := decay_bounded (s := R.noted c.table s) bounded
      rw [target, params, hv]
      simp
    | veryHigh =>
      -- noting the band leaves the baseline alone
      have rises : escalate R.speed (R.sweep c.table).samples (R.noted c.table s) .standard =
          .error e ↔ e = .subtract ∧ R.speed < Params.standard.full ∧
            RiseUnfit s .standard (R.sweep c.table).samples.toList :=
        escalate_error_iff_of_bounded bounded
      rw [target, params]
      cases hrule : escalate R.speed (R.sweep c.table).samples (R.noted c.table s) .standard with
      | ok v =>
        rw [hrule] at rises
        simpa [Except.map] using rises
      | error e' =>
        rw [hrule] at rises
        simpa [Except.map] using rises

/-! ## Whole passes -/

/-- What lets the choice of a speed overflow: a pass that gets as far as the sensors finds them very
hot and nothing else amiss, and a rise that does not fit. -/
structure RiseOverflows (c : Controller) (R : Round) (s : ControlState) : Prop where
  enabled : s.enabled = true
  clear : R.Clear
  calm : ∀ e ∈ R.sensors, trips e = false
  healthy : R.problem = false
  veryHigh : R.band c.table = .veryHigh
  slower : R.speed < c.params.full
  unfit : RiseUnfit s c.params (R.sweep c.table).samples.toList

/-- After its start, a pass overflows in exactly one way. -/
theorem Controller.Ends.overflows_iff {r : Except Halt PassReport} {s' : ControlState}
    {qs : List Query} {e : Overflow} (h : c.Ends b w s r s' qs) (params : c.params = .standard)
    (files : OverAttributes root b) :
    r = .error (.overflow e) ↔ e = .subtract ∧ RiseOverflows c (b.round c.table w) s := by
  have bounded := Round.speed_le files c.table w
  constructor
  · intro hr
    cases h with
    | disabled | unrefreshed | statusUnreadable | standing | fullSpeed | fullSpeedRefused
    | fanUnreadable => cases hr
    | managed on clear rest =>
      cases rest with
      | kept | applied | refused => cases hr
      | tripped => exact absurd hr trip_ne_overflow
      | overflow calm exceeds =>
        cases hr
        obtain ⟨rfl, healthy, veryHigh, slower, unfit⟩ :=
          (command_error_iff params bounded).1 exceeds
        exact ⟨rfl, on, clear, calm, healthy, veryHigh, slower, unfit⟩
  · rintro ⟨rfl, on, clear, calm, healthy, veryHigh, slower, unfit⟩
    have exceeds : c.command (b.round c.table w) s = .error .subtract :=
      (command_error_iff params bounded).2 ⟨rfl, healthy, veryHigh, slower, unfit⟩
    cases h.managed_of_clear on clear with
    | tripped split first trip =>
      rw [calm _ (split ▸ List.mem_append_right _ List.mem_cons_self)] at trip
      cases trip
    | overflow _ other =>
      rw [exceeds] at other
      cases other
      rfl
    | kept _ keep =>
      rw [exceeds] at keep
      cases keep
    | applied _ change | refused _ change =>
      rw [exceeds] at change
      cases change

/-- A pass that overflows has made all accesses of the sampling. -/
theorem Controller.Ends.accesses_of_overflow {r : Except Halt PassReport} {s' : ControlState}
    {qs : List Query} {e : Overflow} (h : c.Ends b w s r s' qs)
    (hr : r = .error (.overflow e)) : c.roundAccesses ++ [] = qs := by
  cases h with
  | disabled | unrefreshed | statusUnreadable | standing | fullSpeed | fullSpeedRefused
  | fanUnreadable => cases hr
  | managed on clear rest =>
    cases rest with
    | kept | applied | refused => cases hr
    | overflow => exact List.append_nil _
    | tripped => exact absurd hr trip_ne_overflow

namespace Turn

/-- The pass starts, and then its choice of a speed overflows. -/
def Overflows (t : Turn c b) : Prop :=
  t.start.value.1 = .ok () ∧ RiseOverflows c t.round t.ready

/-- **A pass overflows in exactly one way.** -/
theorem overflows_iff (t : Turn c b) (params : c.params = .standard)
    (files : OverAttributes root b) {e : Overflow} :
    t.result = .error (.overflow e) ↔ e = .subtract ∧ t.Overflows := by
  obtain ⟨starts, hstarts, world, ⟨h, vain, hpass⟩ | ⟨started, qs, hends, -⟩⟩ := t.parts
  · rw [vain] at hstarts
    obtain ⟨e, rfl⟩ := hstarts.fault
    rw [show t.result = .error (.fault e) from hpass.result]
    simp [Overflows, vain]
  · rw [hends.overflows_iff params files, Overflows, Turn.round, world]
    simp [started]

end Turn

/-! ## Along a history -/

section History

variable {ws : List σ} {k : Nat} {t : Turn c b}

/-- A pass that overflows has read its samples. -/
theorem Turn.sample_read {x : Sensor} {reading : SensorReading} {e : Overflow}
    (hr : t.result = .error (.overflow e)) (hx : (x, .ok reading) ∈ t.round.sensors) :
    ReadIn t.trace x reading.mcelsius := by
  obtain ⟨starts, hstarts, world, ⟨h, vain, hpass⟩ | ⟨-, qs, hends, hpass⟩⟩ := t.parts
  · rw [vain] at hstarts
    obtain ⟨e, rfl⟩ := hstarts.fault
    rw [show t.result = .error (.fault e) from hpass.result] at hr
    cases hr
  · rw [Turn.round, world] at hx
    refine ⟨reading, hpass.recorded _ _ ?_, rfl⟩
    rw [Board.record_append, ← hends.accesses_of_overflow hr]
    exact List.mem_append_right _ (Controller.asked_of_round [] hx)

/-- **Temperatures within half the range** never make a pass overflow. -/
theorem no_overflow_of_moderate (params : c.params = .standard) (files : OverAttributes root b)
    (moderate : ∀ (i : Nat) (u : Turn c b), (c.history b .fresh ws)[i]? = some u →
      ∀ x m, ReadIn u.trace x m → -1073741824 ≤ m ∧ m ≤ 1073741823)
    (h : (c.history b .fresh ws)[k]? = some t) (e : Overflow) :
    t.result ≠ .error (.overflow e) := by
  intro hr
  obtain ⟨-, -, overflows⟩ := (t.overflows_iff params files).1 hr
  obtain ⟨before, x, m, after, split, -, unfit⟩ := overflows.unfit
  have sample : (x, m) ∈ (t.round.sweep c.table).samples.toList := by
    rw [split]
    exact List.mem_append_right _ List.mem_cons_self
  obtain ⟨reading, answer, -, rfl⟩ := Sweep.reading_of_sample sample
  have now := moderate k t h x _ (t.sample_read hr answer)
  have earlier : -1073741824 ≤ t.ready.baselineOf x ∧ t.ready.baselineOf x ≤ 1073741823 := by
    rcases baseline_read h x with zero | ⟨i, u, -, hu, read⟩
    · omega
    · exact moderate i u hu x _ read
  apply unfit
  unfold InInt32 Text.int32Min Text.int32Max
  omega

/-- **When a pass overflows.** Along a history from a fresh state it ends with a report or a fault,
unless a rise overflows; and what a rise is taken against is zero or has been read. -/
theorem pass_overflows_iff (params : c.params = .standard) (files : OverAttributes root b)
    (h : (c.history b .fresh ws)[k]? = some t) :
    ((∃ report, t.result = .ok report) ∨ (∃ e, t.result = .error (.fault e)) ↔ ¬ t.Overflows) ∧
      (t.Overflows → t.result = .error (.overflow .subtract)) ∧
      ∀ x, t.ready.baselineOf x = 0 ∨
        ReadUpTo (c.history b .fresh ws) k x (t.ready.baselineOf x) := by
  have subtracts : t.Overflows → t.result = .error (.overflow .subtract) :=
    fun overflows => (t.overflows_iff params files).2 ⟨rfl, overflows⟩
  refine ⟨?_, subtracts, baseline_read h⟩
  constructor
  · rintro (⟨report, hr⟩ | ⟨e, hr⟩) overflows
    · rw [subtracts overflows] at hr
      cases hr
    · rw [subtracts overflows] at hr
      cases hr
  · intro fits
    rcases hr : t.result with (e | e) | report
    · exact .inr ⟨e, rfl⟩
    · exact absurd ((t.overflows_iff params files).1 hr).2 fits
    · exact .inl ⟨report, rfl⟩

end History

section Trial

open Bench

theorem overAttributes_attributeBoard : OverAttributes (.ofText "/bsp") attributeBoard :=
  fun _ w => ⟨w.tree, rfl⟩

/-- A pass on a bench whose only sensor is the first core. -/
def coreTurn (s : ControlState) (mcelsius : Int) : Turn trialController attributeBoard :=
  ⟨.bare .cpuCore0 mcelsius, s⟩

/-- The core shows the least number, and 75 °C one pass later. -/
theorem coreTurn_overflows :
    (coreTurn (coreTurn .fresh (-2147483648)).after 75000).halt? = some (.overflow .subtract) := by
  decide +kernel

/-- So the second pass ends with neither a report nor a fault. -/
theorem rise_overflows_at_75 :
    ∃ t, (trialController.history attributeBoard .fresh
        [.bare .cpuCore0 (-2147483648), .bare .cpuCore0 75000])[1]? = some t ∧
      t.result = .error (.overflow .subtract) :=
  ⟨coreTurn (coreTurn .fresh (-2147483648)).after 75000, rfl,
    Turn.result_of_halt coreTurn_overflows⟩

/-- Its choice of a speed is what overflows. -/
theorem pass_overflows_at_75 :
    ∃ t, (trialController.history attributeBoard .fresh
        [.bare .cpuCore0 (-2147483648), .bare .cpuCore0 75000])[1]? = some t ∧ t.Overflows := by
  have second : (trialController.history attributeBoard .fresh
      [.bare .cpuCore0 (-2147483648), .bare .cpuCore0 75000])[1]? =
        some (coreTurn (coreTurn .fresh (-2147483648)).after 75000) := rfl
  obtain ⟨ends_iff, -⟩ := pass_overflows_iff rfl overAttributes_attributeBoard second
  refine ⟨_, second, Classical.byContradiction fun fits => ?_⟩
  have stopped := Turn.result_of_halt coreTurn_overflows
  rcases ends_iff.2 fits with ⟨report, hr⟩ | ⟨e, hr⟩
  · rw [stopped] at hr
    cases hr
  · rw [stopped] at hr
    cases hr

end Trial

end SwitchThermal
