import SwitchThermal.Proofs.Samples
import SwitchThermal.Proofs.SpeedRules
import SwitchThermal.Proofs.Trial

/-!
# Passes without temperatures

A pass in which no sensor is usable passes every sensor over and is left with the low band, as if
the board were cool. The fans then slow down by the cool rule, unless a fan or a supply has a
problem.

* `command_blind` — the command of a round without usable sensors.
* `AllWell` — a trace that shows all chassis fans and supplies, and nothing amiss with them.
* `blind_slows_iff` — exactly when a blind pass asks for less than the speed it has sampled.
* `blind_slows` — it does.
-/

set_option autoImplicit false

namespace SwitchThermal

variable {σ : Type} {c : Controller} {b : Board σ} {w : σ} {s s' : ControlState}
  {r : Except Halt PassReport} {qs : List Query}

/-- Without usable sensors the command is that of the low band, unless there is a problem. -/
theorem command_blind {R : Round}
    (blind : ∀ x reading, (x, .ok reading) ∈ R.sensors → reading.usable = false) :
    c.command R s = if R.problem then .ok (c.override R.speed)
      else decay R.speed (R.noted c.table s) c.params := by
  have nothing : usableReadings R.sensors = [] := by
    refine List.eq_nil_iff_forall_not_mem.2 fun ⟨x, reading⟩ hmem => ?_
    obtain ⟨hx, usable⟩ := mem_usableReadings.1 hmem
    rw [blind x reading hx] at usable
    cases usable
  have empty : R.sweep c.table = {} := by
    unfold Round.sweep Sweep.gather
    rw [nothing]
    rfl
  unfold Controller.command Controller.chosen
  rw [empty]
  rfl

/-- A trace shows each chassis fan and each supply once, and nothing is amiss with any of them. -/
structure AllWell (t : List Entry) : Prop where
  fans : (sampledFans t).map Prod.fst = Fan.chassisFans
  turning : ∀ f r, (f, r) ∈ sampledFans t → r.present = true ∧ f.rpmValid r.rpm = true
  supplies : (sampledSupplies t).map Prod.fst = PowerSupply.all
  /-- Every supply is readable and there. -/
  supplied : ∀ p a, (p, a) ∈ sampledSupplies t → ∃ r, a = .ok r ∧ r.present = true

theorem allWell_iff {t : List Entry} : AllWell t ↔
    (sampledFans t).map Prod.fst = Fan.chassisFans ∧
      (sampledSupplies t).map Prod.fst = PowerSupply.all ∧ sampledProblem t = false := by
  rw [sampledProblem, Bool.or_eq_false_iff, fanProblem_eq_false_iff, supplyProblem_eq_false_iff]
  constructor
  · rintro ⟨fans, turning, supplies, supplied⟩
    exact ⟨fans, supplies, turning, supplied⟩
  · rintro ⟨fans, supplies, turning, supplied⟩
    exact ⟨fans, turning, supplies, supplied⟩

/-- What makes the cool rule slow the fans down to a speed: a cooldown that ends with this pass, and
a speed above the floor whose product with the decay factor fits. -/
structure SlowsTo (current cooldown v : Nat) : Prop where
  cooled : cooldown ≤ 1
  above : 60 < current
  fits : current * 90 < wordBound
  speed : v = max (current * 90 / 100) 60

theorem decay_slows_iff {current v : Nat} :
    (decay current s .standard = .ok (some v) ∧ v < current) ↔
      s.cooldown = 0 ∧ 60 < current ∧ current * 90 < wordBound ∧
        v = max (current * 90 / 100) 60 := by
  constructor
  · rintro ⟨h, slower⟩
    rcases decay_cases h with ⟨hnone, -⟩ | ⟨cooled, above, fits, hv⟩
    · cases hnone
    · exact ⟨cooled, above, fits, Option.some.inj hv⟩
  · rintro ⟨cooled, above, fits, rfl⟩
    refine ⟨?_, by omega⟩
    have high : ¬ current ≤ Params.standard.floor := Nat.not_le.2 above
    unfold decay ControlState.cooledDown scale
    rw [decide_eq_true cooled, if_neg (by decide), if_neg high,
      if_pos (show current * Params.standard.decayFactor < wordBound from fits)]
    rfl

theorem command_slows_iff {R : Round} {v : Nat} (params : c.params = .standard)
    (blind : ∀ x reading, (x, .ok reading) ∈ R.sensors → reading.usable = false) :
    (c.command R s = .ok (some v) ∧ v < R.speed) ↔
      R.problem = false ∧ SlowsTo R.speed s.cooldown v := by
  have cooled : (R.noted c.table s).cooldown = 0 ↔ s.cooldown ≤ 1 := by
    show s.cooldown - 1 = 0 ↔ _
    omega
  rw [command_blind blind]
  split
  · rename_i problem
    constructor
    · rintro ⟨full, slower⟩
      obtain ⟨slow, rfl⟩ := Controller.override_eq_some (Except.ok.inj full)
      omega
    · rintro ⟨healthy, -⟩
      rw [healthy] at problem
      cases problem
  · rename_i healthy
    rw [params, decay_slows_iff, cooled]
    constructor
    · rintro ⟨cooled, above, fits, speed⟩
      exact ⟨Bool.eq_false_iff.2 healthy, ⟨cooled, above, fits, speed⟩⟩
    · rintro ⟨-, ⟨cooled, above, fits, speed⟩⟩
      exact ⟨cooled, above, fits, speed⟩

/-- A pass that has sampled no speed slows nothing down. -/
theorem slows_iff_of_zero {asked well : Prop} {cooldown v : Nat} :
    (asked ∧ v < 0) ↔ well ∧ SlowsTo 0 cooldown v := by
  constructor
  · rintro ⟨-, slower⟩
    exact absurd slower (Nat.not_lt_zero v)
  · rintro ⟨-, slows⟩
    exact absurd slows.above (Nat.not_lt_zero 60)

/-! ## The pass -/

/-- A blind pass that gets as far as the sensors. -/
theorem managed_slows_iff (h : c.Managed b w s r s' qs) (params : c.params = .standard)
    (clear : (b.round c.table w).Clear)
    (blind : ∀ x reading, .asked (sensorAccess x) (.ok reading) ∈ b.record w qs →
      reading.usable = false) (v : Nat) :
    ((∃ slot, speedAccess (.chassis slot) v ∈ qs) ∧ v < sampledSpeed (b.record w qs)) ↔
      AllWell (b.record w qs) ∧ SlowsTo (sampledSpeed (b.record w qs)) s.cooldown v := by
  obtain ⟨fans, supplies⟩ := h.sampled
  have speed : sampledSpeed (b.record w qs) = (b.round c.table w).speed := by
    rw [sampledSpeed, fans]
    rfl
  have problem : sampledProblem (b.record w qs) = (b.round c.table w).problem := by
    rw [sampledProblem, fans, supplies]
    rfl
  have complete : (sampledFans (b.record w qs)).map Prod.fst = Fan.chassisFans := by
    obtain ⟨rs, hrs⟩ := allReadable_iff.1 clear.readable
    have polled : (b.round c.table w).fans.map Prod.fst = Fan.chassisFans := map_fst_poll _ _ _
    rw [fans, hrs, readings_map_answered, ← polled, hrs, List.map_map]
    rfl
  have supplied : (sampledSupplies (b.record w qs)).map Prod.fst = PowerSupply.all := by
    rw [supplies]
    exact map_fst_poll _ _ _
  have well : AllWell (b.record w qs) ↔ (b.round c.table w).problem = false := by
    rw [allWell_iff, problem]
    exact ⟨fun h => h.2.2, fun healthy => ⟨complete, supplied, healthy⟩⟩
  rcases h.sensors_recorded with ⟨x, reading, trip, asked⟩ | calm
  · have usable := (trips_iff.1 trip).1
    rw [blind x reading asked] at usable
    cases usable
  · have blind' : ∀ x reading, (x, .ok reading) ∈ (b.round c.table w).sensors →
        reading.usable = false :=
      fun x reading hx => blind x reading (calm x _ hx).2
    rw [h.commanded_iff (fun e he => (calm e.1 e.2 he).1), speed, well,
      command_slows_iff params blind']

/-- A blind pass after the start. -/
theorem ends_slows_iff (h : c.Ends b w s r s' qs) (params : c.params = .standard)
    (blind : ∀ x reading, .asked (sensorAccess x) (.ok reading) ∈ b.record w qs →
      reading.usable = false) (v : Nat) :
    ((∃ slot, speedAccess (.chassis slot) v ∈ qs) ∧ v < sampledSpeed (b.record w qs)) ↔
      AllWell (b.record w qs) ∧ SlowsTo (sampledSpeed (b.record w qs)) s.cooldown v := by
  rcases h.sampled_cases with none | ⟨⟨f, listed, missed⟩, unset⟩ | ⟨-, clear, managed⟩
  · have speed : sampledSpeed (b.record w qs) = 0 := by
      rw [sampledSpeed, none]
      rfl
    rw [speed]
    exact slows_iff_of_zero
  · constructor
    · rintro ⟨⟨slot, hv⟩, -⟩
      exact absurd hv (unset _ v)
    · rintro ⟨well, -⟩
      rw [← well.fans] at listed
      exact absurd listed missed
  · exact managed_slows_iff managed params clear blind v

/-- **When a blind pass slows the fans down.** A pass in which no sensor gives a usable reading asks
a chassis fan for less than the speed that it has sampled exactly when it has sampled all chassis
fans and all supplies, nothing is amiss with any of them, the cooldown ends with this pass, and the
sampled speed is above the floor; it then asks for 90 % of it, or for the floor. -/
theorem blind_slows_iff (c : Controller) (b : Board σ) (w : σ) (s : ControlState)
    (params : c.params = .standard)
    (blind : ∀ x reading, .asked (sensorAccess x) (.ok reading) ∈ (c.pass.runOn b s w).trace →
      reading.usable = false) (v : Nat) :
    (Commanded v (c.pass.runOn b s w).trace ∧ v < sampledSpeed (c.pass.runOn b s w).trace) ↔
      AllWell (c.pass.runOn b s w).trace ∧
        SlowsTo (sampledSpeed (c.pass.runOn b s w).trace) s.cooldown v := by
  obtain ⟨s₁, starts, ⟨enabled, initialised, baseline, rfl⟩, hstarts, hrun⟩ := c.run_ends b w s
  have unsampled : ∀ q ∈ starts, Unsampled q := fun q hq => (hstarts q hq).unsampled
  rcases hrun with ⟨h, hrun⟩ | ⟨r, s', qs, hends, hrun⟩
  · have nothing := hrun.answers
    rw [← List.append_nil (b.record w starts)] at nothing
    obtain ⟨fans, -⟩ := sampled_of_unsampled nothing unsampled
    have speed : sampledSpeed (c.pass.runOn b s w).trace = 0 := by
      rw [sampledSpeed, fans]
      rfl
    rw [speed]
    exact slows_iff_of_zero
  · have entries := hrun.answers
    rw [Board.record_append] at entries
    obtain ⟨fans, supplies⟩ := sampled_of_unsampled entries unsampled
    have commanded : Commanded v (c.pass.runOn b s w).trace ↔
        ∃ slot, speedAccess (.chassis slot) v ∈ qs := by
      unfold Commanded
      rw [hrun.trace]
      refine exists_congr fun slot => ⟨fun hv => ?_, List.mem_append_right _⟩
      rcases List.mem_append.1 hv with hv | hv
      · cases hstarts _ hv
      · exact hv
    have after_start := ends_slows_iff hends params (fun x reading hasked => blind x reading
      (hrun.recorded _ _ (by
        rw [Board.record_append]
        exact List.mem_append_right _ hasked))) v
    have well : AllWell (c.pass.runOn b s w).trace ↔
        AllWell (b.record (b.after w starts) qs) := by
      rw [allWell_iff, allWell_iff, sampledProblem, sampledProblem, fans, supplies]
    rw [commanded, sampledSpeed, fans, well]
    exact after_start

section Runs

open Bench

/-- With all sensors failed and the fans at full speed, a pass at the end of the cooldown asks for
90 %. -/
theorem blind_slows_to_90 :
    let o := trialPass (running 1)
      (.patched 100 (Sensor.all.map fun x => .sensor x (.ok { failed := some true })))
    Commanded 90 o.trace ∧ 90 < sampledSpeed o.trace := by
  have failed : ∀ e ∈ (trialPass (running 1) (.patched 100
      (Sensor.all.map fun x => .sensor x (.ok { failed := some true })))).trace.filterMap
        sensorSample, e.2.usable = false := by
    decide +kernel
  exact (blind_slows_iff trialController trialBoard _ (running 1) rfl
    (fun x reading h => failed _ (mem_sensorSamples h)) 90).2
    ⟨allWell_iff.2 (by decide +kernel), ⟨by decide, by decide +kernel, by decide +kernel,
      by decide +kernel⟩⟩

/-- **A blind pass can slow the fans down.** With no sensor readable and the fans at 80 %, a pass
after the cooldown asks for 72 %. -/
theorem blind_slows :
    let o := trialPass (running 0)
      (.patched 80 (Sensor.all.map fun x => .sensor x (.error (.internal "no sensor"))))
    trialController.params = .standard ∧ trialController.table.relevant ≠ [] ∧
      (∀ x reading, .asked (sensorAccess x) (.ok reading) ∉ o.trace) ∧
      sampledSpeed o.trace = 80 ∧ Commanded 72 o.trace ∧
      o.value.1 = .ok (.managed .low none false false (some 72)) := by
  have unread : (trialPass (running 0) (.patched 80 (Sensor.all.map fun x =>
      .sensor x (.error (.internal "no sensor"))))).trace.filterMap sensorSample = [] := by
    decide +kernel
  refine ⟨rfl, by decide, fun x reading h => ?_, by decide +kernel, ⟨0, by decide +kernel⟩, rfl⟩
  have hmem := mem_sensorSamples h
  rw [unread] at hmem
  cases hmem

end Runs

end SwitchThermal
