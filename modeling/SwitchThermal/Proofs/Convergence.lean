import Mathlib.Data.Nat.Dist
import SwitchThermal.Proofs.FanSettings
import SwitchThermal.Proofs.Retry
import SwitchThermal.Proofs.Survey
import SwitchThermal.Proofs.Trial
import SwitchThermal.Proofs.WatchdogFirst

/-!
# The closed loop converges

A row of passes on an ideal chassis, whose fans run at the speed that was last set. As long as the
sensors stay cool, the speed sinks to the floor; as long as they stay very hot, it climbs to full
speed. Each pass waits for the cooldown, or brings the speed nearer to that goal by a percent or more
and restarts the cooldown, or finds the goal reached and sets nothing.

* `speedAfter`, `speedsAlong` — the speed that the settings of a trace leave; the speeds in a row of
  passes.
* `Turn.Ideal`, `ClosedLoop`, `Turn.InBand` — what is assumed of the chassis, and of the sensors.
* `Turn.Approaches` — what one pass does about a goal.
* `passesLeft` — a bound on the passes up to the goal; `Turn.Approaches.passesLeft_le` says that
  each pass lowers it.
* `Settles`, `Approaching.settles` — the goal is reached within the bound and then kept.
* `closed_loop_converges` — both goals are reached, along every history of such a loop.
-/

set_option autoImplicit false

namespace SwitchThermal

variable {σ : Type} {b : Board σ} {c : Controller}

/-! ## The speed of the chassis -/

/-- The chassis speed after a setting. A refused one and one of a supply's fan leave it as it is. -/
def FanSetting.speed (v : Nat) (x : FanSetting) : Nat :=
  match x.answer with
  | .ok () => if x.fan.isChassis then x.percentage else v
  | .error _ => v

/-- The chassis speed that the settings of a trace leave. -/
def speedAfter (v : Nat) (t : List Entry) : Nat :=
  (fanSettings t).foldl FanSetting.speed v

/-- The chassis speeds in a row of passes: before each of them, and after the last. -/
def speedsAlong (v : Nat) : List (Turn c b) → List Nat
  | [] => [v]
  | t :: ts => v :: speedsAlong (speedAfter v t.trace) ts

theorem speedAfter_of_unset {v : Nat} {t : List Entry} (h : fanSettings t = []) :
    speedAfter v t = v := by
  rw [speedAfter, h]
  rfl

/-- The fans of the supplies do not change the chassis speed. -/
theorem foldl_speed_followers {followers : List FanSetting}
    (h : ∀ x ∈ followers, ∃ p, x.fan = .supply p) (v : Nat) :
    followers.foldl FanSetting.speed v = v := by
  induction followers with
  | nil => rfl
  | cons x followers ih =>
    obtain ⟨⟨p, supply⟩, others⟩ := List.forall_mem_cons.1 h
    have same : FanSetting.speed v x = v := by
      unfold FanSetting.speed
      rw [supply]
      cases x.answer <;> rfl
    rw [List.foldl_cons, same, ih others]

/-- An accepted command leaves its speed. -/
theorem FanCommand.speedAfter {d : Demand} {report : PassReport} {settings : List FanSetting}
    (h : FanCommand (some d) (.ok report) settings) (v : Nat) :
    settings.foldl FanSetting.speed v = d.percentage := by
  cases h with
  | accepted follow =>
    rw [List.foldl_cons]
    exact foldl_speed_followers (fun x hx => (follow x hx).1) d.percentage

/-! ## The ideal chassis -/

namespace Turn

/-- In the pass the chassis fans are healthy and run at the given speed, the supplies are present, the
watchdog can be reset, the shutdown has not latched, the primary fan refuses no speed, and nothing
overflows. -/
structure Ideal (t : Turn c b) (speed : Nat) : Prop where
  awake : t.round.Awake
  fans : ∀ f a, (f, a) ∈ t.round.fans →
    ∃ r, a = .ok r ∧ r.healthy f = true ∧ r.percentage = speed
  supplies : ∀ p a, (p, a) ∈ t.round.supplies → ∃ r, a = .ok r ∧ r.present = true
  accepted : ∀ v, ¬ t.Refused v
  fits : ∀ e, t.result ≠ .error (.overflow e)

/-- No sensor is above its shutdown limit, and the hottest band is this one. -/
structure InBand (t : Turn c b) (band : Band) : Prop where
  calm : ∀ e ∈ t.round.sensors, trips e = false
  band_eq : t.round.band c.table = band

end Turn

/-- A managed pass is in the band that it reports. -/
theorem Turn.inBand_of_managed {t : Turn c b} {band : Band} {worst : Option Worst}
    {fans supplies : Bool} {applied : Option Nat}
    (h : t.result = .ok (.managed band worst fans supplies applied)) : t.InBand band := by
  obtain ⟨starts, qs, -, -, hmanaged, -⟩ := t.managed_parts h
  obtain ⟨calm, -, report⟩ := hmanaged.of_report
  exact ⟨calm, (PassReport.managed.inj report).1⟩

/-- A controller in which the algorithm runs goes on running it. -/
theorem Turn.stays_running {t : Turn c b} (started : t.before.initialised = true)
    (on : t.before.enabled = true) : t.after.initialised = true ∧ t.after.enabled = true := by
  obtain ⟨qs, hends⟩ := ends_of_initialised started
  exact ⟨hends.initialised.trans started, hends.enabled.trans on⟩

/-- Each pass finds an ideal chassis at the speed that the ones before it have left. -/
def ClosedLoop (v : Nat) : List (Turn c b) → Prop
  | [] => True
  | t :: ts => t.Ideal v ∧ ClosedLoop (speedAfter v t.trace) ts

/-- Healthy fans that run at one speed show it. -/
theorem speedOf_eq {rs : List (Fan × FanReading)} {v : Nat}
    (h : ∀ f r, (f, r) ∈ rs → r.healthy f = true ∧ r.percentage = v) : speedOf v rs = v := by
  induction rs with
  | nil => rfl
  | cons e rs ih =>
    obtain ⟨f, r⟩ := e
    obtain ⟨healthy, same⟩ := h f r List.mem_cons_self
    rw [speedOf_cons, if_pos healthy, same]
    exact ih fun f r hmem => h f r (List.mem_cons_of_mem _ hmem)

namespace Turn.Ideal

variable {t : Turn c b} {v : Nat}

theorem readable (h : t.Ideal v) : allReadable t.round.fans = true := by
  unfold allReadable
  rw [List.all_eq_true]
  rintro ⟨f, a⟩ hmem
  obtain ⟨r, rfl, -⟩ := h.fans f a hmem
  rfl

theorem clear (h : t.Ideal v) : t.round.Clear :=
  ⟨h.awake, h.readable⟩

theorem reading (h : t.Ideal v) {f : Fan} {r : FanReading} (hmem : (f, r) ∈ readings t.round.fans) :
    r.healthy f = true ∧ r.percentage = v := by
  obtain ⟨r', same, fine⟩ := h.fans f _ (mem_readings.1 hmem)
  cases same
  exact fine

/-- The pass goes by the speed of the chassis. -/
theorem speed (h : t.Ideal v) : t.round.speed = v := by
  obtain ⟨rs, hrs⟩ := allReadable_iff.1 h.readable
  have found : readings t.round.fans = rs := by rw [hrs, readings_map_answered]
  have listed : rs.map Prod.fst = Fan.chassisFans := by
    rw [← map_fst_poll (fun f => b (fanAccess f)) Fan.chassisFans
      (b.after t.start.world dutyAccesses)]
    show _ = t.round.fans.map Prod.fst
    rw [hrs, List.map_map]
    rfl
  rw [Round.speed, found]
  cases rs with
  | nil => cases listed
  | cons e rs =>
    obtain ⟨f, r⟩ := e
    have fine : ∀ f' r', (f', r') ∈ (f, r) :: rs → r'.healthy f' = true ∧ r'.percentage = v :=
      fun f' r' hmem => h.reading (found ▸ hmem)
    obtain ⟨healthy, same⟩ := fine f r List.mem_cons_self
    rw [speedOf_cons, if_pos healthy, same]
    exact speedOf_eq fun f' r' hmem => fine f' r' (List.mem_cons_of_mem _ hmem)

theorem healthy (h : t.Ideal v) : t.round.problem = false := by
  have fans : fanProblem (readings t.round.fans) = false := by
    refine fanProblem_eq_false_iff.2 fun f r hmem => ?_
    simpa [FanReading.healthy] using (h.reading hmem).1
  exact Bool.or_eq_false_iff.2 ⟨fans, supplyProblem_eq_false_iff.2 h.supplies⟩

/-- **One pass of the loop** asks the band for a speed. It sets the speed and restarts the cooldown,
or sets nothing and takes a tick off the cooldown. -/
theorem step (h : t.Ideal v) (started : t.before.initialised = true)
    (on : t.before.enabled = true) (calm : ∀ e ∈ t.round.sensors, trips e = false) :
    ∃ a, c.target (t.round.band c.table) v (t.round.sweep c.table).samples
        (t.round.noted c.table t.before) = .ok a ∧
      (a = none ∧ fanSettings t.trace = [] ∧ t.after.cooldown = t.before.cooldown - 1 ∨
        a = some (speedAfter v t.trace) ∧ t.after.cooldown = c.params.cooldown) := by
  obtain ⟨hstart, ready, -⟩ := start_of_initialised started
  obtain ⟨qs, hends⟩ := ends_of_initialised started
  have managed := hends.managed_of_clear on h.clear
  obtain ⟨demand, command, demanded, -⟩ := t.fanCommand
  rw [demanded hstart, ready, Controller.demand_of_calm on h.clear calm] at command
  have asked := Controller.command_of_healthy (c := c) (s := t.before) h.healthy
  rw [h.speed] at asked
  rw [← asked]
  have fits := h.fits
  unfold Controller.commandDemand at command
  unfold speedAfter
  generalize t.result = r, t.after = s' at managed command fits ⊢
  cases managed with
  | tripped split first trip =>
    have trips := calm _ (split ▸ List.mem_append_right _ List.mem_cons_self)
    rw [trip] at trips
    cases trips
  | overflow calm exceeds => exact absurd rfl (fits _)
  | kept calm keep =>
    have keep : c.command t.round t.before = .ok none := keep
    rw [keep] at command
    refine ⟨none, keep, .inl ⟨rfl, ?_, rfl⟩⟩
    generalize fanSettings t.trace = settings at command ⊢
    cases command with
    | idle => rfl
  | @applied percentage rest calm change =>
    have change : c.command t.round t.before = .ok (some percentage) := change
    rw [change] at command
    exact ⟨some percentage, change, .inr ⟨congrArg some (command.speedAfter v).symm, rfl⟩⟩
  | @refused percentage e calm change =>
    have change : c.command t.round t.before = .ok (some percentage) := change
    rw [change] at command
    generalize hsettings : fanSettings t.trace = settings at command
    cases command with
    | refused =>
      have refusal : .asked (speedAccess .primary percentage) (.error e) ∈ t.trace := by
        rw [← mem_fanSettings, hsettings]
        exact List.mem_cons_self
      exact absurd ⟨e, refusal⟩ (h.accepted percentage)

end Turn.Ideal

/-! ## One pass nearer to the goal -/

/-- What a pass does about a goal for the chassis speed. -/
inductive Turn.Approaches (t : Turn c b) (goal v : Nat) : Prop where
  | arrived (there : v = goal) (unset : fanSettings t.trace = [])
  | waits (hot : 1 < t.before.cooldown) (unset : fanSettings t.trace = [])
      (ticked : t.after.cooldown = t.before.cooldown - 1)
  /-- The speed moves towards the goal and not past it. -/
  | nearer (moved : goal ≤ speedAfter v t.trace ∧ speedAfter v t.trace < v ∨
        v < speedAfter v t.trace ∧ speedAfter v t.trace ≤ goal)
      (restarted : t.after.cooldown = c.params.cooldown)

/-- A bound on the passes up to the goal: what is left of the cooldown, and a whole cooldown for each
percent that is missing. -/
def passesLeft (restart missing cooldown : Nat) : Nat :=
  if missing = 0 then 0 else max 1 cooldown + missing * max 1 restart

theorem passesLeft_zero {restart cooldown : Nat} : passesLeft restart 0 cooldown = 0 :=
  if_pos rfl

theorem missing_of_passesLeft {restart missing cooldown : Nat}
    (h : passesLeft restart missing cooldown = 0) : missing = 0 := by
  unfold passesLeft at h
  split at h
  · assumption
  · omega

theorem passesLeft_le (restart missing cooldown : Nat) :
    passesLeft restart missing cooldown ≤ max 1 cooldown + missing * max 1 restart := by
  unfold passesLeft
  split
  · exact Nat.zero_le _
  · exact Nat.le_refl _

namespace Turn.Approaches

variable {t : Turn c b} {goal v : Nat}

/-- Where the goal is reached, nothing is set. -/
theorem unset_of_arrived (h : t.Approaches goal v) (there : v = goal) :
    fanSettings t.trace = [] := by
  cases h with
  | arrived _ unset => exact unset
  | waits _ unset => exact unset
  | nearer moved => omega

/-- Coming from above, the speed sinks. -/
theorem sinks (h : t.Approaches goal v) (above : goal ≤ v) :
    goal ≤ speedAfter v t.trace ∧ speedAfter v t.trace ≤ v := by
  cases h with
  | arrived _ unset | waits _ unset =>
    rw [speedAfter_of_unset unset]
    exact ⟨above, Nat.le_refl v⟩
  | nearer moved => omega

/-- Coming from below, it climbs. -/
theorem climbs (h : t.Approaches goal v) (below : v ≤ goal) :
    v ≤ speedAfter v t.trace ∧ speedAfter v t.trace ≤ goal := by
  cases h with
  | arrived _ unset | waits _ unset =>
    rw [speedAfter_of_unset unset]
    exact ⟨Nat.le_refl v, below⟩
  | nearer moved => omega

/-- **Each pass lowers the bound.** -/
theorem passesLeft_le (h : t.Approaches goal v) :
    passesLeft c.params.cooldown (Nat.dist (speedAfter v t.trace) goal) t.after.cooldown ≤
      passesLeft c.params.cooldown (Nat.dist v goal) t.before.cooldown - 1 := by
  cases h with
  | arrived there unset =>
    rw [speedAfter_of_unset unset, there, Nat.dist_self, passesLeft_zero]
    exact Nat.zero_le _
  | waits hot unset ticked =>
    rw [speedAfter_of_unset unset, ticked]
    unfold passesLeft
    split
    · exact Nat.zero_le _
    · omega
  | nearer moved restarted =>
    rw [restarted]
    have shrinks : Nat.dist (speedAfter v t.trace) goal + 1 ≤ Nat.dist v goal := by
      unfold Nat.dist
      omega
    have shorter := Nat.mul_le_mul_right (max 1 c.params.cooldown) shrinks
    rw [Nat.succ_mul] at shorter
    unfold passesLeft
    split
    · exact Nat.zero_le _
    · split
      · omega
      · omega

end Turn.Approaches

/-! ## A row of passes -/

/-- Each pass approaches the goal from the speed that the ones before it have left. -/
def Approaching (goal v : Nat) : List (Turn c b) → Prop
  | [] => True
  | t :: ts => t.Approaches goal v ∧ Approaching goal (speedAfter v t.trace) ts

/-- After so many passes the goal is reached, and no later pass sets a fan. -/
structure Settles (goal v passes : Nat) (ts : List (Turn c b)) : Prop where
  settled : ∀ k u, passes ≤ k → (speedsAlong v ts)[k]? = some u → u = goal
  quiet : ∀ k t, passes ≤ k → ts[k]? = some t → fanSettings t.trace = []

theorem Settles.mono {goal v passes passes' : Nat} {ts : List (Turn c b)}
    (h : Settles goal v passes ts) (hle : passes ≤ passes') : Settles goal v passes' ts where
  settled k u hk hu := h.settled k u (Nat.le_trans hle hk) hu
  quiet k t hk ht := h.quiet k t (Nat.le_trans hle hk) ht

namespace Approaching

variable {goal v : Nat}

/-- **The goal is reached** when the bound has run out. -/
theorem settles {s : ControlState} {ws : List σ} (h : Approaching goal v (c.history b s ws)) :
    Settles goal v (passesLeft c.params.cooldown (Nat.dist v goal) s.cooldown)
      (c.history b s ws) := by
  have arrived : passesLeft c.params.cooldown (Nat.dist v goal) s.cooldown ≤ 0 → v = goal :=
    fun none => Nat.eq_of_dist_eq_zero (missing_of_passesLeft (Nat.le_zero.1 none))
  induction ws generalizing s v with
  | nil =>
    refine ⟨fun k u hk hu => ?_, fun k t _ ht => by cases ht⟩
    cases k with
    | zero =>
      cases hu
      exact arrived hk
    | succ k => cases hu
  | cons w ws ih =>
    obtain ⟨here, later⟩ := h
    have left : passesLeft c.params.cooldown _ _ ≤
        passesLeft c.params.cooldown (Nat.dist v goal) s.cooldown - 1 := here.passesLeft_le
    have rest := ih later fun none =>
      Nat.eq_of_dist_eq_zero (missing_of_passesLeft (Nat.le_zero.1 none))
    constructor
    · intro k u hk hu
      cases k with
      | zero =>
        cases hu
        exact arrived hk
      | succ k => exact rest.settled k u (by omega) hu
    · intro k t hk ht
      cases k with
      | zero =>
        cases ht
        exact here.unset_of_arrived (arrived hk)
      | succ k => exact rest.quiet k t (by omega) ht

/-- Coming from above, the speeds sink to the goal. -/
theorem descends {ts : List (Turn c b)} (h : Approaching goal v ts) (above : goal ≤ v) :
    (∀ u ∈ speedsAlong v ts, goal ≤ u ∧ u ≤ v) ∧ (speedsAlong v ts).Pairwise (· ≥ ·) := by
  induction ts generalizing v with
  | nil => exact ⟨List.forall_mem_singleton.2 ⟨above, Nat.le_refl v⟩, List.pairwise_singleton _ v⟩
  | cons t ts ih =>
    obtain ⟨here, later⟩ := h
    obtain ⟨still, slower⟩ := here.sinks above
    obtain ⟨bounds, ordered⟩ := ih later still
    have bounds : ∀ u ∈ speedsAlong (speedAfter v t.trace) ts, goal ≤ u ∧ u ≤ v := fun u hu =>
      ⟨(bounds u hu).1, Nat.le_trans (bounds u hu).2 slower⟩
    refine ⟨List.forall_mem_cons.2 ⟨⟨above, Nat.le_refl v⟩, bounds⟩, ?_⟩
    exact List.pairwise_cons.2 ⟨fun u hu => (bounds u hu).2, ordered⟩

/-- Coming from below, they climb to it. -/
theorem ascends {ts : List (Turn c b)} (h : Approaching goal v ts) (below : v ≤ goal) :
    (∀ u ∈ speedsAlong v ts, v ≤ u ∧ u ≤ goal) ∧ (speedsAlong v ts).Pairwise (· ≤ ·) := by
  induction ts generalizing v with
  | nil => exact ⟨List.forall_mem_singleton.2 ⟨Nat.le_refl v, below⟩, List.pairwise_singleton _ v⟩
  | cons t ts ih =>
    obtain ⟨here, later⟩ := h
    obtain ⟨faster, still⟩ := here.climbs below
    obtain ⟨bounds, ordered⟩ := ih later still
    have bounds : ∀ u ∈ speedsAlong (speedAfter v t.trace) ts, v ≤ u ∧ u ≤ goal := fun u hu =>
      ⟨Nat.le_trans faster (bounds u hu).1, (bounds u hu).2⟩
    refine ⟨List.forall_mem_cons.2 ⟨⟨Nat.le_refl v, below⟩, bounds⟩, ?_⟩
    exact List.pairwise_cons.2 ⟨fun u hu => (bounds u hu).1, ordered⟩

end Approaching

/-! ## The two loops -/

/-- Both hot factors speed up, and by a percent or more from the floor on. -/
structure Params.Climbing (p : Params) : Prop where
  climb : 100 < p.climbFactor ∧ 100 ≤ p.floor * (p.climbFactor - 100)
  rise : 100 < p.riseFactor ∧ 100 ≤ p.floor * (p.riseFactor - 100)

/-- Such a factor does not let a product round back to the speed. -/
theorem lt_scale {speed factor floor v : Nat} (speedsUp : 100 < factor)
    (enough : 100 ≤ floor * (factor - 100)) (above : floor ≤ speed)
    (h : scale speed factor = .ok v) : speed < v := by
  obtain ⟨-, rfl⟩ := scale_eq_ok h
  have gained : 100 ≤ speed * (factor - 100) :=
    Nat.le_trans enough (Nat.mul_le_mul_right _ above)
  have product : speed * factor = speed * 100 + speed * (factor - 100) := by
    rw [← Nat.mul_add, Nat.add_sub_cancel' (Nat.le_of_lt speedsUp)]
  omega

/-- With such factors the very hot rule speeds up. -/
theorem lt_escalate {p : Params} {current v : Nat} {s : ControlState} {samples : Readings}
    (climbing : p.Climbing) (floor : p.floor ≤ p.full)
    (h : ((escalate current samples s p).map fun r => r.map Prod.fst) = .ok (some v)) :
    current < v ∧ v ≤ p.full := by
  rcases escalate_cases h with ⟨none, -⟩ | ⟨none, -⟩ | ⟨factor, u, applied, hu, slow, hfactor⟩
  · cases none
  · cases none
  · obtain rfl := Option.some.inj applied
    have gains : 100 < factor ∧ 100 ≤ p.floor * (factor - 100) := by
      rcases hfactor with ⟨rfl, -⟩ | ⟨rfl, -⟩
      · exact climbing.rise
      · exact climbing.climb
    have faster : p.floor ≤ current → current < u := fun above =>
      lt_scale gains.1 gains.2 above hu
    omega

namespace Turn.Ideal

variable {t : Turn c b} {v : Nat}

/-- A cool pass approaches the floor. -/
theorem approaches_floor (h : t.Ideal v) (started : t.before.initialised = true)
    (on : t.before.enabled = true) (low : t.InBand .low) (slows : c.params.decayFactor ≤ 99)
    (above : c.params.floor ≤ v) : t.Approaches c.params.floor v := by
  obtain ⟨a, target, change⟩ := h.step started on low.calm
  rw [low.band_eq] at target
  rcases change with ⟨rfl, unset, ticked⟩ | ⟨rfl, restarted⟩
  · rcases decay_cases target with ⟨-, hot | there⟩ | ⟨-, -, -, moved⟩
    · have hot : t.before.cooldown - 1 ≠ 0 := hot
      exact .waits (by omega) unset ticked
    · exact .arrived (Nat.le_antisymm there above) unset
    · cases moved
  · obtain ⟨-, floor, slower⟩ := decay_lt slows target
    exact .nearer (.inl ⟨floor, slower⟩) restarted

/-- A very hot pass approaches full speed. -/
theorem approaches_full (h : t.Ideal v) (started : t.before.initialised = true)
    (on : t.before.enabled = true) (veryHigh : t.InBand .veryHigh) (climbing : c.params.Climbing)
    (floor : c.params.floor ≤ c.params.full) (below : v ≤ c.params.full) :
    t.Approaches c.params.full v := by
  obtain ⟨a, target, change⟩ := h.step started on veryHigh.calm
  rw [veryHigh.band_eq] at target
  rcases change with ⟨rfl, unset, ticked⟩ | ⟨rfl, restarted⟩
  · rcases escalate_cases target with ⟨-, there⟩ | ⟨-, -, -, hot⟩ | ⟨factor, u, moved, -⟩
    · exact .arrived (Nat.le_antisymm below there) unset
    · have hot : t.before.cooldown - 1 ≠ 0 := hot
      exact .waits (by omega) unset ticked
    · cases moved
  · obtain ⟨faster, full⟩ := lt_escalate climbing floor target
    exact .nearer (.inr ⟨faster, full⟩) restarted

end Turn.Ideal

/-- A loop approaches its goal if each of its passes does, from the speeds that it goes through. -/
theorem ClosedLoop.approaching {goal v : Nat} {band : Band} {P : Nat → Prop} {s : ControlState}
    {ws : List σ} (loop : ClosedLoop v (c.history b s ws)) (started : s.initialised = true)
    (on : s.enabled = true) (inBand : ∀ t ∈ c.history b s ws, t.InBand band) (start : P v)
    (pass : ∀ (t : Turn c b) (v : Nat), t.Ideal v → t.before.initialised = true →
      t.before.enabled = true → t.InBand band → P v →
      t.Approaches goal v ∧ P (speedAfter v t.trace)) :
    Approaching goal v (c.history b s ws) := by
  induction ws generalizing s v with
  | nil => trivial
  | cons w ws ih =>
    obtain ⟨ideal, later⟩ := loop
    obtain ⟨here, others⟩ := List.forall_mem_cons.1 inBand
    obtain ⟨nearer, kept⟩ := pass _ v ideal started on here start
    obtain ⟨started, on⟩ := Turn.stays_running (c := c) (b := b) (t := ⟨w, s⟩) started on
    exact ⟨nearer, ih later started on others kept⟩

/-- **The closed loop converges.** On an ideal chassis, from any state in which the algorithm runs,
(1) if every pass is cool, decay slows down and the speed is not below the floor, then the speed never
rises, never goes below the floor, and is at the floor after at most so many passes; (2) if every pass
is very hot, the hot factors speed up and the speed is below full speed, then the speed never drops,
never goes past full speed, and is at full speed after at most so many passes. No later pass sets a
fan. -/
theorem closed_loop_converges {s : ControlState} {ws : List σ} {v : Nat}
    (started : s.initialised = true) (on : s.enabled = true)
    (floor : c.params.floor ≤ c.params.full) (loop : ClosedLoop v (c.history b s ws)) :
    ((∀ t ∈ c.history b s ws, t.InBand .low) → c.params.decayFactor ≤ 99 → c.params.floor ≤ v →
      (speedsAlong v (c.history b s ws)).Pairwise (· ≥ ·) ∧
      (∀ u ∈ speedsAlong v (c.history b s ws), c.params.floor ≤ u) ∧
      Settles c.params.floor v
        (max 1 s.cooldown + (v - c.params.floor) * max 1 c.params.cooldown)
        (c.history b s ws)) ∧
    ((∀ t ∈ c.history b s ws, t.InBand .veryHigh) → c.params.Climbing → v < c.params.full →
      (speedsAlong v (c.history b s ws)).Pairwise (· ≤ ·) ∧
      (∀ u ∈ speedsAlong v (c.history b s ws), u ≤ c.params.full) ∧
      Settles c.params.full v
        (max 1 s.cooldown + (c.params.full - v) * max 1 c.params.cooldown)
        (c.history b s ws)) := by
  constructor
  · intro low slows above
    have approaching : Approaching c.params.floor v (c.history b s ws) := by
      refine loop.approaching (P := (c.params.floor ≤ ·)) started on low above ?_
      intro t v ideal started on low above
      have nearer := ideal.approaches_floor started on low slows above
      exact ⟨nearer, (nearer.sinks above).1⟩
    obtain ⟨bounds, ordered⟩ := approaching.descends above
    refine ⟨ordered, fun u hu => (bounds u hu).1, approaching.settles.mono ?_⟩
    rw [Nat.dist_eq_sub_of_le_right above]
    exact passesLeft_le _ _ _
  · intro veryHigh climbing slow
    have approaching : Approaching c.params.full v (c.history b s ws) := by
      refine loop.approaching (P := (· ≤ c.params.full)) started on veryHigh (Nat.le_of_lt slow) ?_
      intro t v ideal started on veryHigh below
      have nearer := ideal.approaches_full started on veryHigh climbing floor below
      exact ⟨nearer, (nearer.climbs below).2⟩
    obtain ⟨bounds, ordered⟩ := approaching.ascends (Nat.le_of_lt slow)
    refine ⟨ordered, fun u hu => (bounds u hu).2, approaching.settles.mono ?_⟩
    rw [Nat.dist_eq_sub_of_le (Nat.le_of_lt slow)]
    exact passesLeft_le _ _ _

section Trial

open Bench

/-- A pass on a healthy bench, with its fans at a speed and a core at a temperature. -/
def benchTurn (percentage : Nat) (mcelsius : Int) (s : ControlState) :
    Turn (hastyController 1) trialBoard :=
  ⟨.patched percentage [.heat .cpuCore0 mcelsius], s⟩

/-- Such a bench is ideal, if its pass is managed and the fans accept what it sets. -/
theorem ideal_benchTurn {percentage : Nat} {m : Int} {s : ControlState} {report : PassReport}
    (healthy : ∀ f ∈ Fan.chassisFans, (runningFan percentage f).healthy f = true)
    (started : s.initialised = true) (managed : (benchTurn percentage m s).result = .ok report)
    (accepted : refusals (benchTurn percentage m s).trace = []) :
    (benchTurn percentage m s).Ideal percentage := by
  have round : (benchTurn percentage m s).round =
      trialBoard.round .board (.patched percentage [.heat .cpuCore0 m]) := by
    unfold Turn.round
    rw [(Turn.start_of_initialised (t := benchTurn percentage m s) started).2.2]
    rfl
  constructor
  case awake =>
    rw [round]
    exact (heated_clear _).toAwake
  case fans =>
    intro f a hmem
    rw [round, heated_fans] at hmem
    obtain ⟨f', listed, heq⟩ := List.mem_map.1 hmem
    cases heq
    exact ⟨_, rfl, healthy f listed, rfl⟩
  case supplies =>
    intro p a hmem
    rw [round, heated_supplies] at hmem
    obtain ⟨p', -, heq⟩ := List.mem_map.1 hmem
    cases heq
    exact ⟨_, rfl, rfl⟩
  case accepted =>
    intro v refused
    have listed := mem_refusals.2 refused
    rw [accepted] at listed
    cases listed
  case fits =>
    intro e overflow
    rw [managed] at overflow
    cases overflow

/-- The states of a bench at a constant temperature, with its fans at one speed first and at another
one later. -/
def loopWorlds (first later : Nat) (mcelsius : Int) : List World :=
  [.patched first [.heat .cpuCore0 mcelsius], .patched later [.heat .cpuCore0 mcelsius],
    .patched later [.heat .cpuCore0 mcelsius]]

/-- The passes in these states. -/
def loopTurn (first later : Nat) (mcelsius : Int) : Nat → Turn (hastyController 1) trialBoard
  | 0 => benchTurn first mcelsius (running 1)
  | k + 1 => benchTurn later mcelsius (loopTurn first later mcelsius k).after

/-- They are a closed loop in one band, if the first one sets the later speed and the others keep
it. -/
theorem loop_of_managed (first later : Nat) (m : Int) (band : Band) (worst : Option Worst)
    (healthy : ∀ v ∈ [first, later], ∀ f ∈ Fan.chassisFans, (runningFan v f).healthy f = true)
    (moves : (loopTurn first later m 0).result =
      .ok (.managed band worst false false (some later)))
    (stays₁ : (loopTurn first later m 1).result = .ok (.managed band worst false false none))
    (stays₂ : (loopTurn first later m 2).result = .ok (.managed band worst false false none))
    (moved : speedAfter first (loopTurn first later m 0).trace = later)
    (stayed : speedAfter later (loopTurn first later m 1).trace = later)
    (accepted₀ : refusals (loopTurn first later m 0).trace = [])
    (accepted₁ : refusals (loopTurn first later m 1).trace = [])
    (accepted₂ : refusals (loopTurn first later m 2).trace = []) :
    let ts := (hastyController 1).history trialBoard (running 1) (loopWorlds first later m)
    ClosedLoop first ts ∧ ∀ t ∈ ts, t.InBand band := by
  have turns : (hastyController 1).history trialBoard (running 1) (loopWorlds first later m) =
      [loopTurn first later m 0, loopTurn first later m 1, loopTurn first later m 2] := rfl
  have started (k : Nat) : (loopTurn first later m k).before.initialised = true := by
    induction k with
    | zero => rfl
    | succ k ih => exact Turn.initialised_of_start (Turn.start_of_initialised ih).1
  simp only [turns]
  constructor
  · refine ⟨?_, ?_, ?_, trivial⟩
    · exact ideal_benchTurn (healthy first (by simp)) (started 0) moves accepted₀
    · rw [moved]
      exact ideal_benchTurn (healthy later (by simp)) (started 1) stays₁ accepted₁
    · rw [moved, stayed]
      exact ideal_benchTurn (healthy later (by simp)) (started 2) stays₂ accepted₂
  · simp only [List.forall_mem_cons]
    exact ⟨Turn.inBand_of_managed moves, Turn.inBand_of_managed stays₁,
      Turn.inBand_of_managed stays₂, List.forall_mem_nil _⟩

/-- Two benches in a loop: a cool one from 61 % down to the floor of 60 %, and a very hot one from
99 % up to full speed. -/
theorem closed_loop_converges_at_61_and_99 :
    let cool := (hastyController 1).history trialBoard (running 1) (loopWorlds 61 60 45000)
    let hot := (hastyController 1).history trialBoard (running 1) (loopWorlds 99 100 75000)
    ((speedsAlong 61 cool).Pairwise (· ≥ ·) ∧ (∀ u ∈ speedsAlong 61 cool, 60 ≤ u) ∧
      Settles 60 61 2 cool) ∧
    ((speedsAlong 99 hot).Pairwise (· ≤ ·) ∧ (∀ u ∈ speedsAlong 99 hot, u ≤ 100) ∧
      Settles 100 99 2 hot) := by
  have climbing : (hastyController 1).params.Climbing := ⟨by decide, by decide⟩
  obtain ⟨coolLoop, low⟩ := loop_of_managed 61 60 45000 .low none (by decide) (by rfl) (by rfl)
    (by rfl) (by rfl) (by rfl) (by rfl) (by rfl) (by rfl)
  obtain ⟨hotLoop, veryHigh⟩ := loop_of_managed 99 100 75000 .veryHigh (some ⟨.cpuCore0, 75000⟩)
    (by decide) (by rfl) (by rfl) (by rfl) (by rfl) (by rfl) (by rfl) (by rfl) (by rfl)
  exact ⟨(closed_loop_converges rfl rfl (by decide) coolLoop).1 low (by decide) (by decide),
    (closed_loop_converges rfl rfl (by decide) hotLoop).2 veryHigh climbing (by decide)⟩

end Trial

end SwitchThermal
