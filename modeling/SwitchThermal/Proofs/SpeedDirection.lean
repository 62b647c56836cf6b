import SwitchThermal.Bench.Trial
import SwitchThermal.Proofs.Cooldown
import SwitchThermal.Proofs.Guarded

/-!
# Which way a pass moves the fans

A pass slows the fans down on one occasion only: the sensors are cool, nothing is amiss with the fans
and the supplies, and the cooldown ends with this pass. On any other occasion the speed that it sets
lies between the current one and full speed.

* `Params.Strict` — decay slows down, and both hot factors speed up, by a percent or more.
* `Directed` — the direction and the bounds of a speed that a pass sets.
* `decay_lt`, `escalate_between` — what the two rules that scale do with such parameters.
* `Turn.managed_parts` — what lies behind the report of a managed pass.
* `speed_directed` — every speed that a managed pass reports has the direction and the bounds.
-/

set_option autoImplicit false

namespace SwitchThermal

/-! ## The rules that scale -/

/-- Decay slows down and both hot factors speed up, by a percent or more, and the floor is not above
full speed. -/
structure Params.Strict (p : Params) : Prop where
  floor : p.floor ≤ p.full
  decay : p.decayFactor ≤ 99
  climb : 101 ≤ p.climbFactor
  rise : 101 ≤ p.riseFactor

theorem Params.standard_strict : Params.standard.Strict where
  floor := by decide
  decay := by decide
  climb := by decide
  rise := by decide

section Rules

variable {p : Params} {current v : Nat} {s : ControlState} {samples : Readings}

/-- The cool rule slows down once the cooldown is over, and stops at the floor. -/
theorem decay_lt (slows : p.decayFactor ≤ 99) (h : decay current s p = .ok (some v)) :
    s.cooldown = 0 ∧ p.floor ≤ v ∧ v < current := by
  rcases decay_cases h with ⟨none, -⟩ | ⟨cooled, high, -, applied⟩
  · cases none
  · obtain rfl := Option.some.inj applied
    have scaled : current * p.decayFactor / 100 < current := by
      rw [Nat.div_lt_iff_lt_mul (by decide)]
      exact Nat.mul_lt_mul_of_pos_left (by omega) (by omega)
    exact ⟨cooled, Nat.le_max_right _ _, by omega⟩

/-- The very hot rule moves towards full speed. -/
theorem escalate_between (floor : p.floor ≤ p.full) (climb : 100 ≤ p.climbFactor)
    (rise : 100 ≤ p.riseFactor)
    (h : ((escalate current samples s p).map fun r => r.map Prod.fst) = .ok (some v)) :
    p.floor ≤ v ∧ current ≤ v ∧ v ≤ p.full := by
  rcases escalate_cases h with ⟨none, -⟩ | ⟨none, -⟩ | ⟨factor, u, applied, hu, slow, hfactor⟩
  · cases none
  · cases none
  · obtain rfl := Option.some.inj applied
    have speedsUp : 100 ≤ factor := by
      rcases hfactor with ⟨rfl, -⟩ | ⟨rfl, -⟩
      · exact rise
      · exact climb
    have faster := le_scale speedsUp hu
    omega

end Rules

/-! ## Directions -/

/-- The direction and the bounds of a speed that a pass sets, from the band and the problem that it
reports, the cooldown before it and the current speed. -/
structure Directed (p : Params) (band : Band) (problem : Bool) (cooldown current v : Nat) :
    Prop where
  floor : p.floor ≤ v
  slower : v < current → band = .low ∧ problem = false ∧ cooldown ≤ 1
  /-- Where nothing is amiss, the band Low does slow down. -/
  decays : band = .low → problem = false → v < current
  /-- Everything else speeds up, and not past full speed. -/
  raises : ¬ (band = .low ∧ problem = false) → current ≤ v ∧ v ≤ p.full

variable {p : Params} {band : Band} {problem : Bool} {cooldown current v : Nat}

theorem Directed.of_raise (warm : ¬ (band = .low ∧ problem = false)) (floor : p.floor ≤ v)
    (faster : current ≤ v) (full : v ≤ p.full) : Directed p band problem cooldown current v where
  floor := floor
  slower slower := absurd slower (Nat.not_lt.2 faster)
  decays low healthy := absurd ⟨low, healthy⟩ warm
  raises _ := ⟨faster, full⟩

theorem Directed.of_decay (low : band = .low) (healthy : problem = false) (cooled : cooldown ≤ 1)
    (floor : p.floor ≤ v) (slower : v < current) :
    Directed p band problem cooldown current v where
  floor := floor
  slower _ := ⟨low, healthy, cooled⟩
  decays _ _ := slower
  raises warm := absurd ⟨low, healthy⟩ warm

namespace Controller

variable {c : Controller} {s : ControlState}

/-- Full speed is set to speed up. -/
theorem override_directed (hp : c.params.Strict) (warm : ¬ (band = .low ∧ problem = false))
    (h : c.override current = some v) : Directed c.params band problem cooldown current v := by
  obtain ⟨slow, rfl⟩ := override_eq_some h
  exact .of_raise warm hp.floor (Nat.le_of_lt slow) (Nat.le_refl _)

/-- **The speed that a band asks for**, one case for each band. -/
theorem target_directed {samples : Readings} (hp : c.params.Strict)
    (waited : s.cooldown = 0 → cooldown ≤ 1) (h : c.target band current samples s = .ok (some v)) :
    Directed c.params band false cooldown current v := by
  cases band with
  | low =>
    obtain ⟨cooled, floor, slower⟩ := decay_lt hp.decay h
    exact .of_decay rfl rfl (waited cooled) floor slower
  | desired => cases h
  | high =>
    have raised := Except.ok.inj h
    split at raised
    · rename_i slow
      obtain rfl := Option.some.inj raised
      exact .of_raise nofun (Nat.le_refl _) (Nat.le_of_lt slow) hp.floor
    · cases raised
  | veryHigh =>
    obtain ⟨floor, faster, full⟩ := escalate_between hp.floor (Nat.le_of_succ_le hp.climb)
      (Nat.le_of_succ_le hp.rise) h
    exact .of_raise nofun floor faster full
  | critical => exact override_directed hp nofun (Except.ok.inj h)

/-- The speed that a pass chooses. The pass begins with a tick of the cooldown. -/
theorem command_directed {R : Round} (hp : c.params.Strict) (h : c.command R s = .ok (some v)) :
    Directed c.params (R.band c.table) R.problem s.cooldown R.speed v := by
  cases problem : R.problem with
  | true =>
    rw [command_of_problem problem] at h
    refine override_directed hp (fun healthy => ?_) (Except.ok.inj h)
    cases healthy.2
  | false =>
    rw [command_of_healthy problem] at h
    refine target_directed hp (fun cooled => ?_) h
    have ticked : s.cooldown - 1 = 0 := cooled
    omega

end Controller

/-! ## Managed passes -/

section Managed

variable {σ : Type} {b : Board σ} {c : Controller} {w : σ} {s s' : ControlState}
  {worst : Option Worst} {fans supplies : Bool} {applied : Option Nat} {qs : List Query}

/-- What lies behind the report of a managed pass. -/
theorem Controller.Managed.of_report
    (h : c.Managed b w s (.ok (.managed band worst fans supplies applied)) s' qs) :
    (∀ e ∈ (b.round c.table w).sensors, trips e = false) ∧
      c.command (b.round c.table w) s = .ok applied ∧
      (b.round c.table w).report c.table applied = .managed band worst fans supplies applied := by
  generalize hr : (.ok (.managed band worst fans supplies applied) : Except Halt PassReport) = r
    at h
  cases h with
  | tripped => cases trip_eq_ok hr.symm
  | overflow | refused => cases hr
  | kept calm keep =>
    have report := (Except.ok.inj hr).symm
    obtain ⟨-, -, -, -, rfl⟩ := PassReport.managed.inj report
    exact ⟨calm, keep, report⟩
  | applied calm change =>
    have report := (Except.ok.inj hr).symm
    obtain ⟨-, -, -, -, rfl⟩ := PassReport.managed.inj report
    exact ⟨calm, change, report⟩

/-- A speed that is reported as applied has been accepted by the primary fan. -/
theorem Controller.Managed.accepted
    (h : c.Managed b w s (.ok (.managed band worst fans supplies (some v))) s' qs) :
    .asked (speedAccess .primary v) (.ok ()) ∈ b.record w qs := by
  generalize hr : (.ok (.managed band worst fans supplies (some v)) : Except Halt PassReport) = r
    at h
  cases h with
  | tripped => cases trip_eq_ok hr.symm
  | overflow | refused => cases hr
  | kept =>
    obtain ⟨-, -, -, -, applied⟩ := PassReport.managed.inj (Except.ok.inj hr)
    cases applied
  | applied calm change accepted =>
    obtain ⟨-, -, -, -, applied⟩ := PassReport.managed.inj (Except.ok.inj hr)
    obtain rfl := Option.some.inj applied
    rw [Board.record_append, Board.record_cons, accepted]
    exact List.mem_append_right _ List.mem_cons_self

theorem Controller.Ends.managed_of_report
    (h : c.Ends b w s (.ok (.managed band worst fans supplies applied)) s' qs) :
    (b.round c.table w).Clear ∧
      c.Managed b w s (.ok (.managed band worst fans supplies applied)) s' qs := by
  generalize hr : (.ok (.managed band worst fans supplies applied) : Except Halt PassReport) = r
    at h ⊢
  cases h with
  | managed on clear rest => exact ⟨clear, rest⟩
  | disabled | unrefreshed | statusUnreadable | standing | fullSpeed | fullSpeedRefused
  | fanUnreadable => cases hr

namespace Turn

variable {t : Turn c b}

/-- A managed pass has started, and then gets as far as the sensors. -/
theorem managed_parts (h : t.result = .ok (.managed band worst fans supplies applied)) :
    ∃ starts qs, c.Starts b t.world t.before (.ok ()) t.ready starts ∧ t.round.Clear ∧
      c.Managed b t.start.world t.ready (.ok (.managed band worst fans supplies applied)) t.after
        qs ∧
      answers t.trace = b.record t.world starts ++ b.record t.start.world qs := by
  obtain ⟨starts, hstarts, world, parts⟩ := t.parts
  rcases parts with ⟨e, -, hpass⟩ | ⟨started, qs, hends, hpass⟩
  · rw [show t.result = .error e from hpass.result] at h
    cases h
  · rw [h, ← world] at hends
    obtain ⟨clear, hmanaged⟩ := hends.managed_of_report
    refine ⟨starts, qs, started ▸ hstarts, clear, hmanaged, ?_⟩
    rw [world, ← Board.record_append]
    exact hpass.answers

/-- A managed pass has sampled the fans and the supplies that the round shows. -/
theorem surveyed_of_managed (h : t.result = .ok (.managed band worst fans supplies applied)) :
    sampledFans t.trace = readings t.round.fans ∧ sampledSupplies t.trace = t.round.supplies := by
  obtain ⟨starts, qs, hstarts, -, hmanaged, entries⟩ := managed_parts h
  obtain ⟨fans, supplies⟩ :=
    sampled_of_unsampled entries fun q hq => (hstarts.access q hq).unsampled
  obtain ⟨sampledFan, sampledSupply⟩ := hmanaged.sampled
  exact ⟨fans.trans sampledFan, supplies.trans sampledSupply⟩

/-- So it samples the speed and the problem of the round. -/
theorem sampled_of_managed (h : t.result = .ok (.managed band worst fans supplies applied)) :
    sampledSpeed t.trace = t.round.speed ∧ sampledProblem t.trace = t.round.problem := by
  obtain ⟨sampledFan, sampledSupply⟩ := surveyed_of_managed h
  rw [sampledSpeed, sampledProblem, sampledFan, sampledSupply]
  exact ⟨rfl, rfl⟩

end Turn

/-- **Direction and bounds of the speed.** When a managed pass reports a speed, its flags tell whether
it has sampled a problem, and the speed is directed as the band, the problem, the cooldown before the
pass and the sampled speed have it. -/
theorem speed_directed (t : Turn c b) (hp : c.params.Strict)
    (h : t.result = .ok (.managed band worst fans supplies (some v))) :
    (fans || supplies) = sampledProblem t.trace ∧
      Directed c.params band (fans || supplies) t.before.cooldown (sampledSpeed t.trace) v := by
  obtain ⟨starts, qs, hstarts, -, hmanaged, -⟩ := t.managed_parts h
  obtain ⟨-, command, report⟩ := hmanaged.of_report
  obtain ⟨speed, problem⟩ := t.sampled_of_managed h
  obtain ⟨rfl, -, rfl, rfl, -⟩ := PassReport.managed.inj report
  rw [speed, problem, ← hstarts.cooldown]
  exact ⟨rfl, Controller.command_directed hp command⟩

end Managed

section Trial

open Bench

/-- A cool bench is slowed down from 80 % to 72 % in the first pass. -/
theorem speed_directed_at_80 :
    (hastyController 2).params.Strict ∧
      (coolTurn .fresh).result = .ok (.managed .low none false false (some 72)) ∧
      (false || false) = sampledProblem (coolTurn .fresh).trace ∧
      Directed (hastyController 2).params .low (false || false) 0
        (sampledSpeed (coolTurn .fresh).trace) 72 := by
  have strict : (hastyController 2).params.Strict := ⟨by decide, by decide, by decide, by decide⟩
  have cool : (coolTurn .fresh).result = .ok (.managed .low none false false (some 72)) := by rfl
  exact ⟨strict, cool, speed_directed (coolTurn .fresh) strict cool⟩

end Trial

end SwitchThermal
