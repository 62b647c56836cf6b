import SwitchThermal.Proofs.RiseOverflow

/-!
# Why the very hot rule speeds up

The rule takes the first sensor in table order that has risen fast, whatever the cooldown, and if
there is none the end of the cooldown.

* `Fits`, `escalate_ok_iff` — the numbers for which it does not overflow.
* `Warmer`, `Warmer.rises`, `Warmer.factor_le` — what is warmer has a reason that goes with no
  smaller a factor.
* `Chosen`, `Chosen.mono` — the right choice, and that of what is warmer.
* `hot_trigger_chosen` — all of it, for every current speed, table of samples and state.
-/

set_option autoImplicit false

namespace SwitchThermal

variable {current : Nat} {samples samples' : Readings} {s s' : ControlState} {p : Params}
  {x : Sensor} {d : Int} {t : Trigger}

/-! ## Overflows -/

/-- No number of the rule overflows: below full speed each rise fits up to the first fast one, and
so does the current speed times the factor that goes with the reason. -/
def Fits (current : Nat) (samples : Readings) (s : ControlState) (p : Params) : Prop :=
  p.full ≤ current ∨ ¬ RiseUnfit s p samples.toList ∧
    ∀ t, Reason samples s p t → current * t.factor p < wordBound

/-- The rule ends without an overflow for these numbers, and for no others. -/
theorem escalate_ok_iff :
    (∃ r, escalate current samples s p = .ok r) ↔ Fits current samples s p := by
  constructor
  · rintro ⟨r, h⟩
    have no_error : ∀ e, escalate current samples s p ≠ .error e := by
      intro e he
      rw [h] at he
      cases he
    by_cases full : p.full ≤ current
    · exact .inl full
    · have slow := Nat.not_le.1 full
      have fit : ¬ RiseUnfit s p samples.toList := by
        intro unfit
        exact no_error .subtract (escalate_error_iff.2 ⟨slow, .inl ⟨rfl, unfit⟩⟩)
      refine .inr ⟨fit, fun t reason => Nat.not_le.1 fun large => ?_⟩
      exact no_error .multiply (escalate_error_iff.2 ⟨slow, .inr ⟨rfl, fit, t, reason, large⟩⟩)
  · intro fits
    cases h : escalate current samples s p with
    | ok r => exact ⟨r, rfl⟩
    | error e =>
      exfalso
      obtain ⟨slow, overflow⟩ := escalate_error_iff.1 h
      obtain ⟨fit, product⟩ := fits.resolve_left (Nat.not_le.2 slow)
      rcases overflow with ⟨-, unfit⟩ | ⟨-, -, t, reason, large⟩
      · exact fit unfit
      · exact Nat.not_lt.2 large (product t reason)

/-! ## Warmer samples -/

/-- What the very hot rule goes by is warmer: no sampled reading is lower, no baseline higher and no
cooldown longer. -/
structure Warmer (samples : Readings) (s : ControlState) (samples' : Readings) (s' : ControlState) :
    Prop where
  readings : ∀ x m, samples.get? x = some m → ∃ m', samples'.get? x = some m' ∧ m ≤ m'
  baseline : ∀ x, s'.baselineOf x ≤ s.baselineOf x
  cooldown : s'.cooldown ≤ s.cooldown

/-- What has risen fast still has, and no less. -/
theorem Warmer.rises (h : Warmer samples s samples' s') (rises : Rises samples s p x d) :
    ∃ e, Rises samples' s' p x e ∧ d ≤ e := by
  obtain ⟨m', sampled, higher⟩ := h.readings x _ rises.sampled
  have lower := h.baseline x
  have above := rises.fast
  exact ⟨m' - s'.baselineOf x, .of_sample sampled (by omega), by omega⟩

theorem Warmer.noReason (h : Warmer samples s samples' s')
    (idle : NoReason current samples' s' p) : NoReason current samples s p := by
  have cooldown := h.cooldown
  rcases idle with full | ⟨calm, hot⟩
  · exact .inl full
  · refine .inr ⟨fun x d rises => ?_, by omega⟩
    obtain ⟨e, rises', -⟩ := h.rises rises
    exact calm x e rises'

/-- The reason of the warmer one goes with no smaller a factor. -/
theorem Warmer.factor_le (h : Warmer samples s samples' s') {t' : Trigger}
    (rise : p.climbFactor ≤ p.riseFactor) (reason : Reason samples s p t)
    (reason' : Reason samples' s' p t') : t.factor p ≤ t'.factor p := by
  cases reason with
  | fastRise first =>
    cases reason' with
    | fastRise first' => exact Nat.le_refl _
    | steadyClimb calm cool =>
      obtain ⟨e, rises', -⟩ := h.rises first.rises
      exact absurd rises' (calm _ _)
  | steadyClimb calm cool =>
    cases reason' with
    | fastRise first' => exact rise
    | steadyClimb calm' cool' => exact Nat.le_refl _

theorem reasonSpeed_mono {t' : Trigger} (h : t.factor p ≤ t'.factor p) :
    reasonSpeed p current t ≤ reasonSpeed p current t' := by
  have product : current * t.factor p ≤ current * t'.factor p := Nat.mul_le_mul_left current h
  have scaled := Nat.div_le_div_right (c := 100) product
  unfold reasonSpeed
  omega

/-- What the very hot rule does is the right choice: it is idle without a reason, and otherwise it
gives the only reason and the speed that goes with it. -/
structure Chosen (current : Nat) (samples : Readings) (s : ControlState) (p : Params)
    (r : Option (Nat × Trigger)) : Prop where
  idle_iff : r = none ↔ NoReason current samples s p
  reason : ∀ v t, r = some (v, t) → Reason samples s p t ∧ v = reasonSpeed p current t

theorem chosen_of_escalate {r : Option (Nat × Trigger)}
    (h : escalate current samples s p = .ok r) : Chosen current samples s p r := by
  rcases escalate_eq_ok h with ⟨rfl, idle⟩ | ⟨t, rfl, slower, reason, -⟩
  · exact ⟨⟨fun _ => idle, fun _ => rfl⟩, by simp⟩
  · refine ⟨⟨by simp, fun idle => absurd idle (reason.not_noReason slower)⟩, ?_⟩
    rintro v t' some
    cases some
    exact ⟨reason, rfl⟩

/-- **What is warmer gives no lower a speed.** -/
theorem Chosen.mono {r r' : Option (Nat × Trigger)} (h : Chosen current samples s p r)
    (h' : Chosen current samples' s' p r') (warmer : Warmer samples s samples' s') :
    (r.isSome = true → r'.isSome = true) ∧ (p.climbFactor ≤ p.riseFactor →
      ∀ v t v' t', r = some (v, t) → r' = some (v', t') → v ≤ v') := by
  constructor
  · intro some
    cases r' with
    | some => rfl
    | none =>
      have idle : r = none := h.idle_iff.2 (warmer.noReason (h'.idle_iff.1 rfl))
      rw [idle] at some
      cases some
  · intro rise v t v' t' some some'
    obtain ⟨reason, rfl⟩ := h.reason v t some
    obtain ⟨reason', rfl⟩ := h'.reason v' t' some'
    exact reasonSpeed_mono (warmer.factor_le rise reason reason')

/-- **Why the very hot rule speeds up.** For all numbers that do not overflow it makes the right
choice, whatever the order in which the samples were taken; and what is warmer never makes it idle,
nor lowers its speed unless a climb is the faster one. -/
theorem hot_trigger_chosen (current : Nat) (samples : Readings) (s : ControlState) (p : Params)
    (fits : Fits current samples s p) :
    ∃ r, escalate current samples s p = .ok r ∧ Chosen current samples s p r ∧
      (∀ l : List (Sensor × Int), l.Perm samples.toList →
        escalate current (Cells.ofList l) s p = .ok r) ∧
      ∀ samples' s', Warmer samples s samples' s' → Fits current samples' s' p →
        ∃ r', escalate current samples' s' p = .ok r' ∧ (r.isSome = true → r'.isSome = true) ∧
          (p.climbFactor ≤ p.riseFactor →
            ∀ v t v' t', r = some (v, t) → r' = some (v', t') → v ≤ v') := by
  obtain ⟨r, h⟩ := escalate_ok_iff.2 fits
  refine ⟨r, h, chosen_of_escalate h, ?_, ?_⟩
  · intro l perm
    rw [Cells.ofList_of_perm perm, h]
  · intro samples' s' warmer fits'
    obtain ⟨r', h'⟩ := escalate_ok_iff.2 fits'
    exact ⟨r', h', (chosen_of_escalate h).mono (chosen_of_escalate h') warmer⟩

/-- The samples of the TCAM at 70 °C and of a core at 80 °C. -/
def warmSamples : Readings := Cells.ofList [(.tcam, 70000), (.cpuCore1, 80000)]

/-- A state that remembers both 10 °C cooler, 20 ticks before the end of the cooldown. -/
def warmState : ControlState :=
  { ControlState.fresh with
    cooldown := 20
    baseline := Cells.ofList [(.tcam, 60000), (.cpuCore1, 70000)] }

/-- Both have risen by 10 °C while the cooldown lasts, and the core comes first in the table. -/
theorem hot_trigger_chosen_at_70 :
    Fits 70 warmSamples warmState .standard ∧
      escalate 70 warmSamples warmState .standard = .ok (some (84, .fastRise .cpuCore1 10000)) ∧
      Chosen 70 warmSamples warmState .standard (some (84, .fastRise .cpuCore1 10000)) := by
  have chosen : escalate 70 warmSamples warmState .standard =
      .ok (some (84, .fastRise .cpuCore1 10000)) := rfl
  have fits := escalate_ok_iff.1 ⟨_, chosen⟩
  obtain ⟨r, h, choice, -⟩ := hot_trigger_chosen 70 warmSamples warmState .standard fits
  rw [chosen] at h
  cases h
  exact ⟨fits, chosen, choice⟩

end SwitchThermal
