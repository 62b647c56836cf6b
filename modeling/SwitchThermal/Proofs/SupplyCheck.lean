import SwitchThermal.Bench.Trial
import SwitchThermal.Panel
import SwitchThermal.Proofs.SpeedDirection

/-!
# Which supplies count as a problem

A supply delivers if it is there and has input power. The survey of a pass looks at the first of the
two alone, so it passes over a supply that is there without power; the panel does not.

* `SupplyDown`, `SupplyMissing` — the supplies that do not deliver, and those that the survey
  notices.
* `OnlyUnplugged` — all supplies are there, and one has no input power.
* `supplies_checked` — what the report of a managed pass says about the supplies, when that differs
  from whether all of them deliver, and what the pass does about them.
* `unplugged_unnoticed` — a bench that a pass slows down while its panel shows a supply in red.
-/

set_option autoImplicit false

namespace SwitchThermal

variable {σ : Type} {b : Board σ} {c : Controller}

/-! ## Supplies that do not deliver -/

/-- The answer of a supply that does not deliver. -/
inductive SupplyDown : Except Fault SupplyReading → Prop where
  | unreadable (e : Fault) : SupplyDown (.error e)
  | absent {r : SupplyReading} (gone : r.present = false) : SupplyDown (.ok r)
  /-- There, but without input power. -/
  | unplugged {r : SupplyReading} (there : r.present = true) (unpowered : r.unplugged = true) :
      SupplyDown (.ok r)

/-- The answer of a supply of which not even a presence is known. -/
inductive SupplyMissing : Except Fault SupplyReading → Prop where
  | unreadable (e : Fault) : SupplyMissing (.error e)
  | absent {r : SupplyReading} (gone : r.present = false) : SupplyMissing (.ok r)

theorem SupplyMissing.down {a : Except Fault SupplyReading} (h : SupplyMissing a) :
    SupplyDown a := by
  cases h with
  | unreadable e => exact .unreadable e
  | absent gone => exact .absent gone

/-- A reading shows a supply down where it does not show it operational. -/
theorem supplyDown_ok_iff {r : SupplyReading} : SupplyDown (.ok r) ↔ r.operational = false := by
  unfold SupplyReading.operational
  constructor
  · intro h
    cases h with
    | absent gone => simp [gone]
    | unplugged there unpowered => simp [there, unpowered]
  · intro h
    cases there : r.present with
    | false => exact .absent there
    | true => exact .unplugged there (by simpa [there] using h)

/-- All supplies are there, and one of them has no input power. -/
structure OnlyUnplugged (l : List (PowerSupply × Except Fault SupplyReading)) : Prop where
  there : ∀ x ∈ l, ∃ r, x.2 = .ok r ∧ r.present = true
  unpowered : ∃ x ∈ l, ∃ r, x.2 = .ok r ∧ r.unplugged = true

section Supplies

variable {l : List (PowerSupply × Except Fault SupplyReading)}

/-- The survey notices the supplies that are missing. -/
theorem supplyProblem_iff : supplyProblem l = true ↔ ∃ x ∈ l, SupplyMissing x.2 := by
  rw [supplyProblem, List.any_eq_true]
  constructor
  · rintro ⟨⟨p, e | r⟩, hx, noticed⟩
    · exact ⟨_, hx, .unreadable e⟩
    · have gone : r.present = false := by simpa using noticed
      exact ⟨_, hx, .absent gone⟩
  · rintro ⟨⟨p, a⟩, hx, missing⟩
    refine ⟨_, hx, ?_⟩
    cases missing with
    | unreadable e => rfl
    | absent gone => simp [gone]

theorem OnlyUnplugged.not_missing (h : OnlyUnplugged l) : ¬ ∃ x ∈ l, SupplyMissing x.2 := by
  rintro ⟨⟨p, a⟩, hx, missing⟩
  obtain ⟨r, heq, there⟩ := h.there _ hx
  obtain rfl : a = .ok r := heq
  cases missing with
  | absent gone =>
    rw [there] at gone
    cases gone

theorem OnlyUnplugged.down (h : OnlyUnplugged l) : ∃ x ∈ l, SupplyDown x.2 := by
  obtain ⟨⟨p, a⟩, hx, r, heq, unpowered⟩ := h.unpowered
  obtain ⟨r', heq', there⟩ := h.there _ hx
  obtain rfl : a = .ok r := heq
  obtain rfl := Except.ok.inj heq'
  exact ⟨_, hx, .unplugged there unpowered⟩

/-- **What the survey does not notice**: a supply is down, none is missing. -/
theorem onlyUnplugged_iff :
    OnlyUnplugged l ↔ (∃ x ∈ l, SupplyDown x.2) ∧ ¬ ∃ x ∈ l, SupplyMissing x.2 := by
  refine ⟨fun h => ⟨h.down, h.not_missing⟩, ?_⟩
  rintro ⟨⟨⟨p, a⟩, hx, down⟩, none⟩
  have there : ∀ x ∈ l, ∃ r, x.2 = .ok r ∧ r.present = true := by
    rintro ⟨q, e | r⟩ hq
    · exact absurd ⟨_, hq, .unreadable e⟩ none
    · cases there : r.present with
      | true => exact ⟨r, rfl, there⟩
      | false => exact absurd ⟨_, hq, .absent there⟩ none
  refine ⟨there, ?_⟩
  cases down with
  | unreadable e => exact absurd ⟨_, hx, .unreadable e⟩ none
  | absent gone => exact absurd ⟨_, hx, .absent gone⟩ none
  | @unplugged r _ unpowered => exact ⟨_, hx, r, rfl, unpowered⟩

/-- The survey tells whether all supplies deliver, unless power is all that one of them lacks. -/
theorem supplyProblem_iff_down :
    (supplyProblem l = true ↔ ∃ x ∈ l, SupplyDown x.2) ↔ ¬ OnlyUnplugged l := by
  rw [supplyProblem_iff]
  constructor
  · intro told only
    exact only.not_missing (told.2 only.down)
  · intro seen
    constructor
    · rintro ⟨x, hx, missing⟩
      exact ⟨x, hx, missing.down⟩
    · intro down
      exact Classical.byContradiction fun none => seen (onlyUnplugged_iff.2 ⟨down, none⟩)

end Supplies

/-! ## Managed passes -/

/-- What the report of a managed pass says about the supplies, and what the pass does about them. -/
structure SuppliesChecked (t : Turn c b) (band : Band) (fans supplies : Bool)
    (applied : Option Nat) : Prop where
  /-- Every supply is sampled, once and in order. -/
  sampled : (sampledSupplies t.trace).map Prod.fst = PowerSupply.all
  /-- The report tells of a problem if a supply is missing. -/
  missing : supplies = true ↔ ∃ x ∈ sampledSupplies t.trace, SupplyMissing x.2
  /-- That is whether a supply is down, unless power is all that one of them lacks. -/
  down : (supplies = true ↔ ∃ x ∈ sampledSupplies t.trace, SupplyDown x.2) ↔
    ¬ OnlyUnplugged (sampledSupplies t.trace)
  /-- A problem that is told of makes the pass set full speed, -/
  full : supplies = true → sampledSpeed t.trace < c.params.full → applied = some c.params.full
  /-- and where power is all that a supply lacks, the band decides as if it had power. -/
  banded : OnlyUnplugged (sampledSupplies t.trace) → fans = false →
    c.target band (sampledSpeed t.trace) (t.round.sweep c.table).samples
      (t.round.noted c.table t.ready) = .ok applied

/-- **The check of the supplies.** The report of a managed pass tells of the supplies that are
missing, and so of all that are down but those that are there without input power. -/
theorem supplies_checked (t : Turn c b) {band : Band} {worst : Option Worst}
    {fans supplies : Bool} {applied : Option Nat}
    (h : t.result = .ok (.managed band worst fans supplies applied)) :
    SuppliesChecked t band fans supplies applied := by
  obtain ⟨starts, qs, -, -, hmanaged, -⟩ := t.managed_parts h
  obtain ⟨-, command, report⟩ := hmanaged.of_report
  obtain ⟨speed, -⟩ := t.sampled_of_managed h
  obtain ⟨-, sampled⟩ := t.surveyed_of_managed h
  obtain ⟨rfl, -, hfans, hsupplies, -⟩ := PassReport.managed.inj report
  have told : supplyProblem (sampledSupplies t.trace) = supplies := by
    rw [sampled]
    exact hsupplies
  have problem : t.round.problem = (fans || supplies) := by
    rw [← hfans, ← hsupplies]
    rfl
  refine ⟨?sampled, ?missing, ?down, ?full, ?banded⟩
  case sampled =>
    rw [sampled]
    exact map_fst_poll _ _ _
  case missing =>
    rw [← told]
    exact supplyProblem_iff
  case down =>
    rw [← told]
    exact supplyProblem_iff_down
  case full =>
    intro noticed slow
    have bad : t.round.problem = true := by
      rw [problem, noticed, Bool.or_true]
    have overridden := Except.ok.inj ((Controller.command_of_problem bad).symm.trans command)
    rw [← overridden, Controller.override, if_pos (speed ▸ slow)]
  case banded =>
    intro only well
    have unnoticed : supplies = false := by
      rw [← told, ← Bool.not_eq_true, supplyProblem_iff]
      exact only.not_missing
    have healthy : t.round.problem = false := by
      rw [problem, well, unnoticed]
      rfl
    rw [speed]
    exact (Controller.command_of_healthy healthy).symm.trans command

section Trial

open Bench

/-- A bench at 80 % whose first supply is changed. -/
def supplyBench (change : SupplyPatch) : World :=
  .patched 80 [.supply .first (.ok change)]

/-- A pass on it. -/
def supplyTurn (change : SupplyPatch) : Turn trialController trialBoard :=
  ⟨supplyBench change, running 0⟩

/-- An absent supply is told of, and answered with full speed. -/
theorem supplies_checked_at_80 :
    (supplyTurn { present := some false }).result =
        .ok (.managed .low none false true (some 100)) ∧
      SuppliesChecked (supplyTurn { present := some false }) .low false true (some 100) := by
  have absent : (supplyTurn { present := some false }).result =
      .ok (.managed .low none false true (some 100)) := by rfl
  exact ⟨absent, supplies_checked _ absent⟩

/-- **A supply without power is not noticed**: the pass tells of no problem and slows the fans down,
where the panel shows the supplies in red. -/
theorem unplugged_unnoticed :
    (supplyTurn { unplugged := some true }).result =
        .ok (.managed .low none false false (some 72)) ∧
      (∃ x ∈ sampledSupplies (supplyTurn { unplugged := some true }).trace, SupplyDown x.2) ∧
      sampledSpeed (supplyTurn { unplugged := some true }).trace = 80 ∧
      ((Program.run trialBoard Panel.update.run (supplyBench { unplugged := some true })).value.map
        fun report => report.modes.lookup .psu) = .ok (some .red) := by
  have first : (PowerSupply.first, .ok ⟨.first, true, true, false⟩) ∈
      sampledSupplies (supplyTurn { unplugged := some true }).trace := List.mem_cons_self
  exact ⟨by rfl, ⟨_, first, supplyDown_ok_iff.2 rfl⟩, by rfl, by rfl⟩

end Trial

end SwitchThermal
