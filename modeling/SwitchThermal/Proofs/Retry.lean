import SwitchThermal.Bench.Trial
import SwitchThermal.Proofs.Demand
import SwitchThermal.Proofs.RegisterProtocol
import SwitchThermal.Proofs.SpeedRules

/-!
# A refused speed is not lost

A pass whose speed the primary fan refuses has already changed the control state: it has ticked the
cooldown, remembered what it read and noted the band. None of this makes the next pass demand
another speed.

* `Controller.command_again` — the speed that a round commands, it commands again from the state
  that the refusal leaves.
* `Controller.demand_again` — so it is with all demands; and what an accepted speed comes to is the
  same.
* `Board.obliging` — the board with a primary fan that accepts every speed.
* `refused_speed_retried` — the pass after a refusal demands the same speed, and if it is accepted
  now, everything is as if it had been the first time.
-/

set_option autoImplicit false

namespace SwitchThermal

variable {σ : Type} {b : Board σ} {c : Controller} {w : σ} {s s' : ControlState} {R : Round}
  {p : Params} {samples : Readings} {current v : Nat}

/-! ## The speed is commanded again -/

/-- The trigger of the very hot rule stays when there is no longer to wait. -/
theorem trigger_again {t : Trigger} (same : s'.baseline = s.baseline)
    (cooled : s.cooldown = 0 → s'.cooldown = 0) (h : trigger current samples s p = .ok (some t)) :
    trigger current samples s' p = .ok (some t) := by
  unfold trigger fastRise at h ⊢
  rw [fastRiseIn_congr same]
  split at h
  · cases h
  · rename_i slow
    rw [if_neg slow]
    split at h
    · cases h
    · exact h
    · split at h
      · rename_i due
        have due' : s'.cooledDown = true := decide_eq_true (cooled (of_decide_eq_true due))
        rw [due']
        exact h
      · cases h

namespace Controller

/-- A band commands the same speed when there is no longer to wait. -/
theorem target_again {band : Band} (same : s'.baseline = s.baseline)
    (cooled : s.cooldown = 0 → s'.cooldown = 0)
    (h : c.target band current samples s = .ok (some v)) :
    c.target band current samples s' = .ok (some v) := by
  cases band with
  | desired | high | critical => exact h
  | low =>
    have due : s.cooldown = 0 := by
      rcases decay_cases h with ⟨none, -⟩ | ⟨due, -⟩
      · cases none
      · exact due
    have same : decay current s' c.params = decay current s c.params :=
      decay_congr ((cooled due).trans due.symm) c.params
    rw [target, same]
    exact h
  | veryHigh =>
    unfold target escalate at h ⊢
    cases ht : trigger current samples s c.params with
    | error e =>
      rw [ht] at h
      cases h
    | ok t =>
      rw [ht] at h
      cases t with
      | none => cases h
      | some t =>
        rw [trigger_again same cooled ht]
        exact h

/-- **The speed that a round commands, it commands again** from the state in which it was chosen. -/
theorem command_again (h : c.command R s = .ok (some v)) :
    c.command R (R.noted c.table s) = .ok (some v) := by
  have ticked : (R.noted c.table s).cooldown = 0 →
      (R.noted c.table (R.noted c.table s)).cooldown = 0 := by
    intro due
    show (R.noted c.table s).cooldown - 1 = 0
    omega
  unfold command chosen at h ⊢
  split at h
  · rename_i problem
    rw [if_pos problem]
    exact h
  · rename_i healthy
    rw [if_neg healthy]
    exact target_again (s := R.noted c.table s) rfl ticked h

/-! ## The demand is made again -/

/-- A round that is noted twice has been waited for twice, and nothing else. -/
theorem noted_noted (table : BandTable) :
    R.noted table (R.noted table s) = (R.noted table s).tickCooldown := by
  simp only [Round.noted, Round.surveyed, ControlState.rememberFans, ControlState.rememberSupplies,
    ControlState.tickCooldown, Cells.foldl_insert_again]

/-- A speed change leaves no trace of the waiting. -/
theorem settle_tick (samples : Option Readings) :
    Actuator.settle p samples s.tickCooldown = Actuator.settle p samples s := by
  cases samples <;> rfl

/-- **The demand of a round is made again** in the state that the refusal leaves, and if it is
accepted then, it comes to what it would have come to the first time. -/
theorem demand_again {d : Demand} (h : c.demand R s = some d) :
    ∃ held, c.demand R d.held = some { d with held := held } := by
  obtain ⟨on, -, ⟨latched, hd⟩ | ⟨clear, calm, hd⟩⟩ := demand_met h
  · obtain ⟨unreported, rfl⟩ := fullSpeedDemand_eq_some hd
    have on' : s.tickCooldown.enabled = true := on
    have unreported' : s.tickCooldown.shutdownReported = false := unreported
    have again := demand_of_latched (c := c) on' latched
    rw [fullSpeedDemand, unreported', settle_tick] at again
    exact ⟨_, again⟩
  · obtain ⟨v, hv, rfl⟩ := commandDemand_eq_some hd
    have on' : (R.noted c.table s).enabled = true := on
    have again := demand_of_calm (c := c) on' clear calm
    rw [commandDemand, command_again hv, noted_noted, settle_tick] at again
    exact ⟨_, again⟩

/-- An accepted speed restarts the cooldown. -/
theorem settled_cooldown {d : Demand} (h : c.demand R s = some d) :
    d.settled.cooldown = c.params.cooldown := by
  obtain ⟨-, -, ⟨-, hd⟩ | ⟨-, -, hd⟩⟩ := demand_met h
  · obtain ⟨-, rfl⟩ := fullSpeedDemand_eq_some hd
    rfl
  · obtain ⟨v, -, rfl⟩ := commandDemand_eq_some hd
    rfl

end Controller

/-! ## A primary fan that accepts every speed -/

/-- The board with a primary fan that accepts every speed. -/
def Board.obliging (b : Board σ) : Board σ
  | .device (.setFan f v), w =>
    if f = .primary then { b (speedAccess f v) w with answer := .ok () } else b (speedAccess f v) w
  | q, w => b q w

namespace Board

theorem obliging_primary (b : Board σ) (v : Nat) (w : σ) :
    (b.obliging (speedAccess .primary v) w).answer = .ok () := by
  simp [obliging]

/-- All other accesses are answered as before. -/
theorem obliging_other {q : Query} (h : ∀ v, q ≠ speedAccess .primary v) : b.obliging q = b q := by
  funext w
  unfold obliging
  split
  · rename_i f v
    have other : f ≠ .primary := by
      rintro rfl
      exact h v rfl
    rw [if_neg other]
  · rfl

theorem obliging_sample {q : Query} (h : SampleAccess q) : b.obliging q = b q := by
  refine obliging_other ?_
  rintro v rfl
  cases h

/-- The board shows the same to a pass. -/
theorem obliging_round (table : BandTable) (w : σ) :
    b.obliging.round table w = b.round table w := by
  have reached {qs : List Query} (h : ∀ q ∈ qs, SampleAccess q) :
      b.obliging.after w qs = b.after w qs :=
    after_congr (fun q hq => obliging_sample (h q hq)) w
  have duty : b.obliging.after w dutyAccesses = b.after w dutyAccesses :=
    reached fun q hq => sample_of_duty hq
  have fans : b.obliging.after w (dutyAccesses ++ Fan.chassisFans.map fanAccess) =
      b.after w (dutyAccesses ++ Fan.chassisFans.map fanAccess) := reached fun q hq => by
    rcases List.mem_append.1 hq with hq | hq
    · exact sample_of_duty hq
    · exact sample_of_survey (List.mem_append_left _ hq)
  have survey : b.obliging.after w (dutyAccesses ++ surveyAccesses) =
      b.after w (dutyAccesses ++ surveyAccesses) := reached fun q hq =>
    (List.mem_append.1 hq).elim sample_of_duty sample_of_survey
  unfold round
  rw [duty, fans, survey]
  rfl

end Board

theorem Controller.Meets.of_obliging {r : Except Halt PassReport} {qs : List Query}
    (h : c.Meets b.obliging w s r s' qs) {d : Demand}
    (demand : c.demand (b.round c.table w) s = some d) : r = .ok d.report ∧ s' = d.settled := by
  rw [← Board.obliging_round] at demand
  cases h with
  | idle none unset =>
    rw [none] at demand
    cases demand
  | refused demand' sampling refused =>
    rw [Board.obliging_primary] at refused
    cases refused
  | accepted demand' sampling accepted follow =>
    rw [demand'] at demand
    cases demand
    exact ⟨rfl, rfl⟩

/-! ## The pass after a refusal -/

/-- The speeds that the primary fan has refused in a trace. -/
def refusals (t : List Entry) : List Nat :=
  t.filterMap fun
    | .asked (.device (.setFan f v)) (.error _) => if f = .primary then some v else none
    | _ => none

theorem mem_refusals {t : List Entry} :
    v ∈ refusals t ↔ ∃ e, .asked (speedAccess .primary v) (.error e) ∈ t := by
  unfold refusals
  rw [List.mem_filterMap]
  constructor
  · rintro ⟨entry, hmem, hv⟩
    split at hv
    · split at hv
      · rename_i primary
        cases hv
        subst primary
        exact ⟨_, hmem⟩
      · cases hv
    · cases hv
  · rintro ⟨e, hmem⟩
    exact ⟨_, hmem, if_pos rfl⟩

namespace Turn

/-- The primary fan has refused a speed in the pass. -/
def Refused (t : Turn c b) (percentage : Nat) : Prop :=
  ∃ e, .asked (speedAccess .primary percentage) (.error e) ∈ t.trace

instance (t : Turn c b) (percentage : Nat) : Decidable (t.Refused percentage) :=
  decidable_of_iff (percentage ∈ refusals t.trace) mem_refusals

/-- The pass as it would have been with a primary fan that accepts every speed. -/
def obliged (t : Turn c b) : Turn c b.obliging :=
  ⟨t.world, t.before⟩

/-- The pass comes after another one and finds the same: the records of fans, supplies and sensors,
and the status. It can reset the watchdog. -/
structure Repeats (u t : Turn c b) : Prop where
  handed : u.before = t.after
  refresh : u.round.refresh = .ok ()
  status : u.round.status = t.round.status
  fans : u.round.fans = t.round.fans
  supplies : u.round.supplies = t.round.supplies
  sensors : u.round.sensors = t.round.sensors

/-- The start is the same with such a fan. -/
theorem start_obliged (t : Turn c b) : t.obliged.start = t.start := by
  obtain ⟨r, s', qs, hstart, accesses, -⟩ := (c.ensureStarted_within t.before).yields b t.world
    t.before ⟨t.before.enabled, t.before.initialised, t.before.baseline, rfl⟩
  have same : ∀ q ∈ Program.queries t.start.trace, b.obliging q = b q := by
    intro q hq
    rw [show Program.queries t.start.trace = qs from hstart.trace] at hq
    refine Board.obliging_other ?_
    rintro v rfl
    cases accesses _ hq
  exact Program.run_congr same

/-- A refused speed is one that the pass has demanded, and it leaves the controller started. -/
theorem Refused.demand {t : Turn c b} {percentage : Nat} (h : t.Refused percentage) :
    t.start.value.1 = .ok () ∧ ∃ d, c.demand t.round t.ready = some d ∧ d.percentage = percentage ∧
      t.after = d.held := by
  obtain ⟨e, refused⟩ := h
  obtain ⟨starts, qs, access, -, entries, met⟩ := t.meets
  rw [← mem_answers, entries] at refused
  rcases List.mem_append.1 refused with early | refused
  · cases access _ (Board.made_of_recorded early)
  · rcases met with ⟨started, meets⟩ | ⟨-, rfl⟩
    · exact ⟨started, meets.of_refused refused⟩
    · cases refused

/-- A pass that starts leaves the controller started. -/
theorem initialised_of_start {t : Turn c b} (h : t.start.value.1 = .ok ()) :
    t.after.initialised = true := by
  obtain ⟨starts, hstarts, -, ⟨e, vain, -⟩ | ⟨-, qs, hends, -⟩⟩ := t.parts
  · rw [h] at vain
    cases vain
  · rw [h] at hstarts
    exact hends.initialised.trans hstarts.flags.1

/-- A started controller has nothing to start. -/
theorem start_of_initialised {t : Turn c b} (h : t.before.initialised = true) :
    t.start.value.1 = .ok () ∧ t.ready = t.before ∧ t.start.world = t.world := by
  obtain ⟨starts, hstarts, world, -⟩ := t.parts
  obtain ⟨started, ready, rfl⟩ := hstarts.of_initialised h
  exact ⟨started, ready, world⟩

/-- So its pass has one of the ends. -/
theorem ends_of_initialised {t : Turn c b} (h : t.before.initialised = true) :
    ∃ qs, c.Ends b t.start.world t.before t.result t.after qs := by
  obtain ⟨started, ready, -⟩ := start_of_initialised h
  obtain ⟨starts, -, world, ⟨e, vain, -⟩ | ⟨-, qs, hends, -⟩⟩ := t.parts
  · rw [started] at vain
    cases vain
  · rw [← world, ready] at hends
    exact ⟨qs, hends⟩

/-- The round of a pass that demands something is the round of the pass that repeats it. -/
theorem Repeats.round_eq {t u : Turn c b} (h : u.Repeats t) {d : Demand} {s : ControlState}
    (demand : c.demand t.round s = some d) : u.round = t.round := by
  obtain ⟨-, refreshed, -⟩ := Controller.demand_met demand
  have refresh : u.round.refresh = t.round.refresh := h.refresh.trans refreshed.symm
  calc u.round = ⟨u.round.refresh, u.round.status, u.round.fans, u.round.supplies,
        u.round.sensors⟩ := rfl
    _ = t.round := by rw [refresh, h.status, h.fans, h.supplies, h.sensors]

end Turn

/-- What the next pass makes of a speed that the primary fan has refused. -/
structure Retried (t u : Turn c b) (percentage : Nat) : Prop where
  /-- It requests that speed from the primary fan, and no other. -/
  requested : ∀ v, speedAccess .primary v ∈ Program.queries u.trace ↔ v = percentage
  /-- If it is accepted now, the pass ends with the report and the control state, cooldown and
  baseline included, with which the first one would have ended. -/
  settled : .asked (speedAccess .primary percentage) (.ok ()) ∈ u.trace →
    (∃ report, u.result = .ok report) ∧ u.result = t.obliged.result ∧ u.after = t.obliged.after ∧
      u.after.cooldown = c.params.cooldown

/-- **A refused speed is not lost**: from every control state and on every board, the next pass that
finds the same requests it again. -/
theorem refused_speed_retried {t u : Turn c b} {percentage : Nat} (refused : t.Refused percentage)
    (again : u.Repeats t) : Retried t u percentage := by
  obtain ⟨started, d, demand, rfl, held⟩ := refused.demand
  have initialised : u.before.initialised = true := by
    rw [again.handed]
    exact Turn.initialised_of_start started
  obtain ⟨started', ready, -⟩ := Turn.start_of_initialised initialised
  obtain ⟨held', demand'⟩ := Controller.demand_again demand
  have now : c.demand u.round u.ready = some { d with held := held' } := by
    rw [again.round_eq demand, ready, again.handed, held]
    exact demand'
  obtain ⟨starts, qs, access, entries, meets⟩ := Turn.meets_of_start started'
  refine ⟨fun v => ?requested, fun accepted => ?settled⟩
  case requested =>
    rw [← queries_answers, entries, Program.queries_append, Program.queries_record,
      Program.queries_record, List.mem_append, meets.requested_iff now]
    refine or_iff_right fun early => ?_
    cases access _ early
  case settled =>
    have recorded : .asked (speedAccess .primary d.percentage) (.ok ()) ∈
        b.record u.start.world qs := by
      rw [← mem_answers, entries] at accepted
      refine (List.mem_append.1 accepted).resolve_left fun early => ?_
      cases access _ (Board.made_of_recorded early)
    obtain ⟨result, after⟩ := meets.of_accepted now recorded
    -- the first pass, had it been accepted
    have started₁ : t.obliged.start.value.1 = .ok () := by
      rw [t.start_obliged]
      exact started
    obtain ⟨starts₁, qs₁, -, -, meets₁⟩ := Turn.meets_of_start started₁
    rw [Turn.ready, t.start_obliged] at meets₁
    obtain ⟨result₁, after₁⟩ := meets₁.of_obliging demand
    refine ⟨⟨_, result⟩, result.trans result₁.symm, after.trans after₁.symm, ?_⟩
    rw [after]
    exact Controller.settled_cooldown now

section Trial

open Bench

/-- A pass on a bench whose first core is at 75 °C and whose primary fan refuses every speed. -/
def stalledTurn : Turn trialController trialBoard :=
  ⟨.patched 80 [.heat .cpuCore0 75000, .fanFault .primary (some (.internal "stalled"))], .fresh⟩

/-- The next pass, with a primary fan that works again. -/
def unstalledTurn : Turn trialController trialBoard :=
  ⟨.patched 80 [.heat .cpuCore0 75000], stalledTurn.after⟩

/-- The first pass is refused the steady climb to 88 %, and the second one requests it again. -/
theorem refused_speed_retried_at_75 :
    stalledTurn.Refused 88 ∧ unstalledTurn.Repeats stalledTurn ∧
      Retried stalledTurn unstalledTurn 88 := by
  have refused : stalledTurn.Refused 88 := by decide +kernel
  have again : unstalledTurn.Repeats stalledTurn := ⟨rfl, rfl, rfl, rfl, rfl, rfl⟩
  exact ⟨refused, again, refused_speed_retried refused again⟩

end Trial

end SwitchThermal
