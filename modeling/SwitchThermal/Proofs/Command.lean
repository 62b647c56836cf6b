import SwitchThermal.Proofs.Frame
import SwitchThermal.Proofs.Round

/-!
# The command of a speed

What setting the fans comes to. The chassis speed is set first, and a refusal ends the command
there; the fans of the supplies follow, and nothing that happens to them can end the pass.

* `FollowAccess` — the accesses by which the fans of the supplies follow a speed.
* `yields_setFans`, `yields_setFans_refused` — the command that is accepted and the one that is not.
-/

set_option autoImplicit false

namespace SwitchThermal

variable {σ : Type} {b : Board σ}

/-! ## The fans of the supplies -/

/-- The accesses by which the fans of the supplies follow a speed. Supplies that were sampled are
not asked for again. -/
inductive FollowAccess : SupplyView → Nat → Query → Prop where
  | state (percentage : Nat) (p : PowerSupply) : FollowAccess .query percentage (supplyAccess p)
  | speed (records : List SupplyReading) (percentage : Nat) (p : PowerSupply) :
      FollowAccess (.sampled records) percentage (fanAccess (.supply p))
  | set (view : SupplyView) (percentage : Nat) (p : PowerSupply) :
      FollowAccess view percentage (speedAccess (.supply p) percentage)

theorem FollowAccess.percentage_eq {view : SupplyView} {percentage v : Nat} {f : Fan}
    (h : FollowAccess view percentage (speedAccess f v)) : v = percentage := by
  cases h with
  | set p => rfl

theorem raiseSupplyFan_only (records : List SupplyReading) (p : PowerSupply) (percentage : Nat) :
    (Actuator.raiseSupplyFan p percentage).Only (FollowAccess (.sampled records) percentage) := by
  unfold Actuator.raiseSupplyFan
  refine .bind (.device (.speed _ _ p)) fun answer => ?_
  cases answer with
  | error e => exact .tell _
  | ok reading =>
    show Program.Only _ (if percentage ≤ reading.percentage then _ else _)
    split
    · exact .pure ()
    · refine .bind (.device (.set _ _ p)) fun answer => ?_
      cases answer with
      | ok u => exact .tell _
      | error e =>
        show Program.Only _ (if e.kind = .unsupported then _ else _)
        split
        · exact .tell _
        · exact .tell _

theorem setSupplyFan_only (p : PowerSupply) (percentage : Nat) :
    (Actuator.setSupplyFan p percentage).Only (FollowAccess .query percentage) := by
  unfold Actuator.setSupplyFan
  refine .bind (.device (.state _ p)) fun answer => ?_
  cases answer with
  | error e => exact .tell _
  | ok record =>
    show Program.Only _ (if record.operational then _ else _)
    split
    · refine .bind (.device (.set _ _ p)) fun answer => ?_
      cases answer with
      | ok u => exact .pure ()
      | error e => exact .tell _
    · exact .pure ()

theorem followSupply_only (view : SupplyView) (percentage : Nat) (p : PowerSupply) :
    (Actuator.followSupply view percentage p).Only (FollowAccess view percentage) := by
  unfold Actuator.followSupply
  split
  · split
    · exact .pure ()
    · split
      · exact raiseSupplyFan_only _ p percentage
      · exact .pure ()
  · exact setSupplyFan_only p percentage

/-! ## The command -/

variable {w : σ} {s : ControlState} {params : Params} {percentage : Nat} {view : SupplyView}
  {samples : Option Readings}

/-- **An accepted command.** -/
theorem yields_setFans (params : Params) (view : SupplyView) (samples : Option Readings)
    (s : ControlState) (h : (b (speedAccess .primary percentage) w).answer = .ok ()) :
    ∃ rest : List Query, (∀ q ∈ rest, FollowAccess view percentage q) ∧
      Pass.Yields b w s (Actuator.setFans params percentage view samples) (.ok ())
        (Actuator.settle params samples s) (speedAccess .primary percentage :: rest) := by
  have follow : (PowerSupply.all.forM (Actuator.followSupply view percentage)).Only
      (FollowAccess view percentage) :=
    .forM (followSupply_only view percentage) _
  refine ⟨_, follow.queries b (b.after w [speedAccess .primary percentage]), ?_⟩
  refine (Pass.Yields.need h).bind ?_
  have followed : Program.Yields b (b.after w [speedAccess .primary percentage])
      (PowerSupply.all.forM (Actuator.followSupply view percentage)) () _ := ⟨rfl, rfl⟩
  exact (Pass.Yields.ofProgram followed).bind_quiet (.modify_bind (.tell _))

/-- **A refused command.** -/
theorem yields_setFans_refused {e : Fault}
    (h : (b (speedAccess .primary percentage) w).answer = .error e) :
    Pass.Yields b w s (Actuator.setFans params percentage view samples) (.error (.fault e)) s
      [speedAccess .primary percentage] :=
  .bind_error (.need_error h)

end SwitchThermal
