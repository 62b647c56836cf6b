import SwitchThermal.Bench.Trial
import SwitchThermal.Proofs.Pass

/-!
# Rounds on the bench

On the board of records a reading changes nothing, so a round shows what the records hold.

* `trial_fans`, `trial_supplies`, `trial_sensors` — the round of any bench.
* `mem_heated_sensors` — the round of a healthy bench with one sensor set to a temperature.
-/

set_option autoImplicit false

namespace SwitchThermal.Bench

/-! ## Any bench -/

theorem after_of_still {w : World} {qs : List Query}
    (h : ∀ q ∈ qs, (trialBoard q w).next = w) : trialBoard.after w qs = w := by
  induction qs with
  | nil => rfl
  | cons q qs ih =>
    rw [Board.after_cons, h q List.mem_cons_self]
    exact ih fun q hq => h q (List.mem_cons_of_mem _ hq)

/-- Readings of fans, supplies and sensors leave the bench as it is. -/
theorem after_readings {κ : Type} {access : κ → Query}
    (h : ∀ k w, (trialBoard (access k) w).next = w) (l : List κ) (w : World) :
    trialBoard.after w (l.map access) = w := by
  refine after_of_still fun q hq => ?_
  obtain ⟨k, -, rfl⟩ := List.mem_map.1 hq
  exact h k w

theorem after_survey (w : World) : trialBoard.after w surveyAccesses = w := by
  unfold surveyAccesses
  rw [Board.after_append, after_readings (fun _ _ => rfl), after_readings fun _ _ => rfl]

theorem records_after_register (q : RegisterQuery) (w : World) :
    (trialBoard (.register q) w).next.records = w.records := rfl

theorem records_after_duty (w : World) :
    (trialBoard.after w dutyAccesses).records = w.records := by
  unfold dutyAccesses
  rw [Board.after_cons, Board.after_cons, Board.after_nil, records_after_register,
    records_after_register]

variable (table : BandTable) (w : World)

theorem trial_fans : (trialBoard.round table w).fans =
    Fan.chassisFans.map fun f => (f, (w.records.fans.get? f).getD (.ok (.absent f))) := by
  rw [← records_after_duty w]
  exact poll_of_still (fun _ => rfl) _

theorem trial_supplies : (trialBoard.round table w).supplies =
    PowerSupply.all.map fun p => (p, (w.records.supplies.get? p).getD (.ok (goodSupply p))) := by
  have reached : trialBoard.after w (dutyAccesses ++ Fan.chassisFans.map fanAccess) =
      trialBoard.after w dutyAccesses := by
    rw [Board.after_append, after_readings fun _ _ => rfl]
  rw [← records_after_duty w, ← reached]
  exact poll_of_still (fun _ => rfl) _

theorem trial_sensors : (trialBoard.round table w).sensors =
    table.relevant.map fun x => (x, (w.records.sensors.get? x).getD (.ok (coolSensor x))) := by
  have reached : trialBoard.after w (dutyAccesses ++ surveyAccesses) =
      trialBoard.after w dutyAccesses := by
    rw [Board.after_append, after_survey]
  rw [← records_after_duty w, ← reached]
  exact poll_of_still (fun _ => rfl) _

/-- A bench without fan faults accepts every speed. -/
theorem trial_accepts (h : w.records.fanFaults = Cells.empty) (c : Controller) (v : Nat) :
    (trialBoard (speedAccess .primary v) (trialBoard.after w c.roundAccesses)).answer =
      .ok () := by
  have reached : (trialBoard.after w c.roundAccesses).records = w.records := by
    unfold Controller.roundAccesses
    rw [Board.after_append, Board.after_append, after_readings fun _ _ => rfl, after_survey,
      records_after_duty]
  show ((trialBoard.after w c.roundAccesses).records.accept
    ((trialBoard.after w c.roundAccesses).records.fanFaults.get? .primary)
    (.fan .primary v)).answer = _
  rw [reached, h, Cells.get?_empty]
  rfl

/-! ## One sensor heated -/

section Heated

variable {percentage : Nat} {y : Sensor} {m : Int}

theorem heated_fans :
    (trialBoard.round table (.patched percentage [.heat y m])).fans =
      Fan.chassisFans.map fun f => (f, .ok (runningFan percentage f)) := by
  rw [trial_fans]
  refine List.map_congr_left fun f _ => ?_
  rw [show (World.patched percentage [.heat y m]).records.fans =
    forAll (runningFan percentage) from rfl, get?_forAll]
  rfl

theorem heated_supplies :
    (trialBoard.round table (.patched percentage [.heat y m])).supplies =
      PowerSupply.all.map fun p => (p, .ok (goodSupply p)) := by
  rw [trial_supplies]
  refine List.map_congr_left fun p _ => ?_
  rw [show (World.patched percentage [.heat y m]).records.supplies = forAll goodSupply from rfl,
    get?_forAll]
  rfl

theorem heated_clear : (trialBoard.round table (.patched percentage [.heat y m])).Clear where
  refreshed := rfl
  unlatched := ⟨0xff, rfl, rfl⟩
  readable := by
    rw [heated_fans]
    rfl

theorem mem_heated_sensors {x : Sensor} {a : Except Fault SensorReading}
    (h : (x, a) ∈ (trialBoard.round table (.patched percentage [.heat y m])).sensors) :
    a = .ok ⟨x, true, false, if x = y then m else 45000, .ofSensor x⟩ := by
  rw [trial_sensors] at h
  obtain ⟨x', -, he⟩ := List.mem_map.1 h
  cases he
  rw [show (World.patched percentage [.heat y m]).records.sensors =
    patchCell (forAll coolSensor) y (coolSensor y) SensorPatch.apply
      (.ok { mcelsius := some m }) from rfl]
  unfold patchCell
  rw [get?_forAll]
  show ((Cells.insert _ _ _).get? x).getD _ = _
  rw [Cells.get?_insert, get?_forAll]
  split
  · rename_i heq
    subst heq
    rw [if_pos rfl]
    rfl
  · rename_i hne
    rw [if_neg (Ne.symm hne)]
    rfl

end Heated

end SwitchThermal.Bench
