import SwitchThermal.Bench.Trial
import SwitchThermal.Proofs.History
import SwitchThermal.Proofs.RegisterProtocol
import SwitchThermal.Proofs.Samples
import SwitchThermal.Proofs.SpeedRules

/-!
# The cooldown between speed changes

A speed change restarts the cooldown, and each later pass takes at most one tick off it, wherever it
stops. The two rules that wait for the cooldown therefore stay away from the last change.

* `Turn.Changed` — the pass has set a speed for all fans.
* `Turn.Steady` — the pass has applied a speed that had to wait for the cooldown.
* `Turn.cooldown_le` — what one pass does to the cooldown.
* `cooldown_between_changes` — along every history, a steady change comes no earlier than the
  cooldown after any other change.
-/

set_option autoImplicit false

namespace SwitchThermal

variable {σ : Type} {b : Board σ} {c : Controller} {w : σ} {s s' : ControlState}
  {r : Except Halt PassReport} {qs : List Query}

/-! ## Changes -/

/-- Does the report say that a speed has been set for all fans? -/
def PassReport.changesSpeed : PassReport → Bool
  | managed _ _ _ _ applied => applied.isSome
  | shutdownLatched first => first
  | disabled | shutdownTriggered .. => false

namespace Turn

/-- The pass has set a speed for all fans. -/
def Changed (t : Turn c b) : Prop :=
  ∃ report, t.result = .ok report ∧ report.changesSpeed = true

/-- No usable reading of the pass is further above the baseline before it than the fast rise
allows. -/
def Unhurried (t : Turn c b) : Prop :=
  ∀ x reading, .asked (sensorAccess x) (.ok reading) ∈ t.trace → reading.usable = true →
    reading.mcelsius - t.before.baselineOf x ≤ c.params.riseDelta

/-- The pass has applied a speed without a problem of a fan or a supply, either in the band Low, or
in the band VeryHigh without a fast rise. -/
def Steady (t : Turn c b) : Prop :=
  ∃ band worst v, t.result = .ok (.managed band worst false false (some v)) ∧
    (band = .low ∨ band = .veryHigh ∧ t.Unhurried)

end Turn

namespace Controller

/-! ## What a pass does to the cooldown -/

theorem tick_le (s : ControlState) : s.cooldown ≤ s.tickCooldown.cooldown + 1 := by
  unfold ControlState.tickCooldown
  show s.cooldown ≤ s.cooldown - 1 + 1
  omega

theorem Starts.cooldown {r : Except Halt Unit} (h : c.Starts b w s r s' qs) :
    s'.cooldown = s.cooldown := by
  cases h <;> rfl

/-- After its start, a pass restarts the cooldown or takes at most one tick off it. -/
theorem Ends.cooldown_le (h : c.Ends b w s r s' qs) :
    s'.cooldown = c.params.cooldown ∨ s.cooldown ≤ s'.cooldown + 1 := by
  have tick := tick_le s
  cases h with
  | disabled | unrefreshed => exact .inr (Nat.le_succ _)
  | fullSpeed => exact .inl rfl
  | statusUnreadable | standing | fullSpeedRefused | fanUnreadable => exact .inr tick
  | managed on clear rest =>
    cases rest with
    | applied => exact .inl rfl
    | tripped | overflow | kept | refused => exact .inr tick

/-- A change of the speed restarts the cooldown. -/
theorem Ends.cooldown_restarted {report : PassReport} (h : c.Ends b w s (.ok report) s' qs)
    (changed : report.changesSpeed = true) : s'.cooldown = c.params.cooldown := by
  generalize hr : (.ok report : Except Halt PassReport) = r at h
  cases h with
  | disabled | standing =>
    cases hr
    cases changed
  | unrefreshed | statusUnreadable | fullSpeedRefused | fanUnreadable => cases hr
  | fullSpeed => rfl
  | managed on clear rest =>
    cases rest with
    | applied => rfl
    | kept =>
      cases hr
      cases changed
    | overflow | refused => cases hr
    | tripped =>
      rw [trip_eq_ok hr.symm] at changed
      cases changed

/-! ## What a steady change waits for -/

/-- The cool rule waits for the cooldown. -/
theorem cooled_of_low {current v : Nat} {samples : Readings}
    (h : c.target .low current samples s = .ok (some v)) : s.cooldown = 0 := by
  rcases decay_cases h with ⟨none, -⟩ | ⟨cooled, -⟩
  · cases none
  · exact cooled

/-- So does the very hot rule, unless some sensor rose fast. -/
theorem cooled_of_veryHigh {current v : Nat} {samples : Readings}
    (h : c.target .veryHigh current samples s = .ok (some v))
    (slow : ¬ RoseFast samples s c.params) : s.cooldown = 0 := by
  rcases escalate_cases h with ⟨none, -⟩ | ⟨none, -⟩ | ⟨factor, v, -, -, -, ⟨-, fast⟩ | cooled⟩
  · cases none
  · cases none
  · exact absurd fast slow
  · exact cooled.2.2

/-- A speed that is applied without a problem, in the band Low or in the band VeryHigh without a
fast rise, is applied at the end of the cooldown. -/
theorem Managed.cooldown_le_one {band : Band} {worst : Option Worst} {v : Nat}
    (h : c.Managed b w s r s' qs) (hr : r = .ok (.managed band worst false false (some v)))
    (steady : band = .low ∨ band = .veryHigh ∧ ∀ x reading,
      .asked (sensorAccess x) (.ok reading) ∈ b.record w qs → reading.usable = true →
        reading.mcelsius - s.baselineOf x ≤ c.params.riseDelta) : s.cooldown ≤ 1 := by
  cases h with
  | overflow | refused => cases hr
  | kept =>
    obtain ⟨-, -, -, -, applied⟩ := PassReport.managed.inj (Except.ok.inj hr)
    cases applied
  | tripped => cases trip_eq_ok hr
  | @applied percentage rest calm change accepted follow =>
    obtain ⟨rfl, -, fans, supplies, -⟩ := PassReport.managed.inj (Except.ok.inj hr)
    have healthy : (b.round c.table w).problem = false := by
      rw [Round.problem, fans, supplies]
      rfl
    rw [command_of_healthy healthy] at change
    have cooled : ((b.round c.table w).noted c.table s).cooldown = 0 := by
      rcases steady with low | ⟨veryHigh, unhurried⟩
      · rw [low] at change
        exact cooled_of_low change
      · rw [veryHigh] at change
        refine cooled_of_veryHigh change ?_
        rintro ⟨x, m, sample, fast⟩
        obtain ⟨reading, answer, usable, rfl⟩ := Sweep.reading_of_sample sample
        have slow := unhurried x reading (asked_of_round _ answer) usable
        exact absurd fast (Int.not_lt.2 slow)
    have ticked : s.cooldown - 1 = 0 := cooled
    omega

end Controller

/-! ## Along a history -/

namespace Turn

theorem cooldown_le (t : Turn c b) :
    t.after.cooldown = c.params.cooldown ∨ t.before.cooldown ≤ t.after.cooldown + 1 := by
  obtain ⟨qs, hcourse, -⟩ := t.course
  generalize t.result = r, t.after = s' at hcourse ⊢
  cases hcourse with
  | vain start =>
    rw [start.cooldown]
    exact .inr (Nat.le_succ _)
  | done start ends =>
    rw [← start.cooldown]
    exact ends.cooldown_le

/-- A pass that has changed the speed hands on a started controller and the whole cooldown. -/
theorem Changed.after {t : Turn c b} (h : t.Changed) :
    t.after.initialised = true ∧ t.after.cooldown = c.params.cooldown := by
  obtain ⟨report, hresult, changed⟩ := h
  obtain ⟨qs, hcourse, -⟩ := t.course
  rw [hresult] at hcourse
  generalize t.after = s' at hcourse ⊢
  cases hcourse with
  | done start ends =>
    exact ⟨ends.initialised.trans start.flags.1, ends.cooldown_restarted changed⟩

/-- A started controller makes a steady change only at the end of the cooldown. -/
theorem Steady.cooldown_le_one {t : Turn c b} (h : t.Steady)
    (started : t.before.initialised = true) : t.before.cooldown ≤ 1 := by
  obtain ⟨band, worst, v, hresult, steady⟩ := h
  obtain ⟨r, s', qs, hends, hyields⟩ := Controller.pass_ends c b t.world started
  have result : t.result = r := hyields.result
  rw [hresult] at result
  cases hends with
  | disabled | unrefreshed | statusUnreadable | standing | fullSpeed | fullSpeedRefused
  | fanUnreadable => cases result
  | managed on clear rest =>
    refine rest.cooldown_le_one result.symm (steady.imp_right fun veryHigh => ?_)
    exact ⟨veryHigh.1, fun x reading asked => veryHigh.2 x reading (hyields.recorded _ _ asked)⟩

end Turn

/-- **A steady change comes no earlier than the cooldown after any other change.** -/
theorem cooldown_between_changes {s : ControlState} {ws : List σ} {i j : Nat} {t u : Turn c b}
    (hi : (c.history b s ws)[i]? = some t) (hj : (c.history b s ws)[j]? = some u) (hij : i < j)
    (changed : t.Changed) (steady : u.Steady) : c.params.cooldown ≤ j - i := by
  obtain ⟨started, restarted⟩ := changed.after
  -- each pass since the change has taken at most one tick off the cooldown
  have waited : u.before.initialised = true ∧
      c.params.cooldown ≤ u.before.cooldown + (j - i - 1) := by
    refine Controller.history_induction_after hi
      (P := fun k s => s.initialised = true ∧ c.params.cooldown ≤ s.cooldown + (k - i - 1))
      ⟨started, by omega⟩ (fun k u hik hk before => ?_) hij hj
    have ticked := u.cooldown_le
    exact ⟨u.initialised_iff.2 (.inl before.1), by omega⟩
  have late := steady.cooldown_le_one waited.1
  omega

section Trial

open Bench

/-- A pass on a cool bench, with a cooldown of two passes. -/
def coolTurn (s : ControlState) : Turn (hastyController 2) trialBoard :=
  ⟨.patched 80 [], s⟩

/-- A cool bench is slowed down in the first pass and again in the third. -/
theorem cooldown_between_first_and_third :
    (coolTurn .fresh).Changed ∧ (coolTurn (coolTurn (coolTurn .fresh).after).after).Steady ∧
      2 ≤ 2 - 0 := by
  have changed : (coolTurn .fresh).Changed :=
    ⟨.managed .low none false false (some 72), by rfl, rfl⟩
  have steady : (coolTurn (coolTurn (coolTurn .fresh).after).after).Steady :=
    ⟨.low, none, 72, by rfl, .inl rfl⟩
  have turns : (hastyController 2).history trialBoard .fresh (List.replicate 3 (.patched 80 [])) =
      [coolTurn .fresh, coolTurn (coolTurn .fresh).after,
        coolTurn (coolTurn (coolTurn .fresh).after).after] := rfl
  have first := congrArg (·[0]?) turns
  have third := congrArg (·[2]?) turns
  exact ⟨changed, steady, cooldown_between_changes first third (by decide) changed steady⟩

end Trial

end SwitchThermal
