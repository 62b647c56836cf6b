import SwitchThermal.Bench.Trial
import SwitchThermal.Proofs.Failures
import SwitchThermal.Proofs.LatchedOnce
import SwitchThermal.Proofs.Overheating
import SwitchThermal.Proofs.Remembered
import SwitchThermal.Proofs.WatchdogFirst

/-!
# What a failed pass leaves behind

A pass changes the control state at several points and can fail between any two of them. Which
access it has failed at therefore tells which changes have been made.

* `Controller.Stops` — the accesses that a started pass can fail at, each with the control state
  that it leaves.
* `Controller.Ends.stops`, `Turn.stops` — a failed pass has failed at one of them, its last access.
* `LeftBehind` — the control state after a failed pass, by what the pass has failed at.
* `failed_pass` — every failed pass leaves its control state so, and a start in vain leaves all but
  one flag alone.
-/

set_option autoImplicit false

namespace SwitchThermal

variable {σ : Type} {b : Board σ} {c : Controller} {w : σ} {s s' : ControlState}
  {r : Except Halt PassReport} {qs : List Query} {e : Fault}

/-! ## Where a pass can fail -/

namespace Controller

/-- The accesses that a started pass can fail at, each with the control state that it leaves. -/
inductive Stops (c : Controller) (b : Board σ) (w : σ) (s : ControlState) :
    Query → ControlState → Prop where
  | refresh : Stops c b w s (.register Watchdog.refreshQuery) s
  | status : Stops c b w s (.register Watchdog.statusQuery) s.tickCooldown
  /-- The speed for a latched shutdown; no sensor is read before it. -/
  | fullSpeed (latched : (b.round c.table w).Latched) :
      Stops c b w s (speedAccess .primary c.params.full) s.tickCooldown
  | fan (f : Fan) (rs : List (Fan × FanReading)) :
      Stops c b w s (fanAccess f) (s.tickCooldown.rememberFans rs)
  | latch {q : RegisterQuery} (write : q ∈ Watchdog.latchQueries) :
      Stops c b w s (.register q) ((b.round c.table w).surveyed s)
  /-- The speed that has been chosen from what was read. -/
  | speed {v : Nat} (awake : (b.round c.table w).Awake) :
      Stops c b w s (speedAccess .primary v) ((b.round c.table w).noted c.table s)

/-- The latch writes end with the one that fails. -/
theorem latch_last (b : Board σ) (w : σ) :
    ∃ l q, (b.latch w).2 = l ++ [.register q] ∧ q ∈ Watchdog.latchQueries := by
  cases hw : (b unprotectAccess w).answer with
  | error e =>
    rw [Board.latch_refused hw]
    exact ⟨[], _, rfl, List.mem_cons_self⟩
  | ok u =>
    rw [Board.latch_unprotected hw]
    exact ⟨[unprotectAccess], _, rfl, List.mem_cons_of_mem _ List.mem_cons_self⟩

/-- A part of a pass that ends with a fault has failed at its last access. -/
theorem Ends.stops (h : c.Ends b w s r s' qs) (failed : r = .error (.fault e)) :
    ∃ l q, qs = l ++ [q] ∧ c.Stops b w s q s' := by
  cases h with
  | disabled | standing | fullSpeed => cases failed
  | unrefreshed => exact ⟨[], _, rfl, .refresh⟩
  | statusUnreadable => exact ⟨[.register Watchdog.refreshQuery], _, rfl, .status⟩
  | fullSpeedRefused on latched => exact ⟨dutyAccesses, _, rfl, .fullSpeed latched⟩
  | @fanUnreadable rs f => exact ⟨_, _, (List.append_assoc _ _ _).symm, .fan f rs⟩
  | managed on clear rest =>
    cases rest with
    | overflow | kept | applied => cases failed
    | @tripped before after x =>
      obtain ⟨l, q, last, write⟩ := latch_last b (b.after w (accessesTo before x))
      refine ⟨accessesTo before x ++ l, _, ?_, .latch write⟩
      rw [last, List.append_assoc]
    | refused => exact ⟨c.roundAccesses, _, rfl, .speed clear.toAwake⟩

/-- It has not come to the fans of the supplies, which are set after the primary fan. -/
theorem Ends.unset (h : c.Ends b w s r s' qs) (failed : r = .error (.fault e)) (p : PowerSupply)
    (v : Nat) : speedAccess (.supply p) v ∉ qs := by
  intro hmem
  cases h with
  | disabled | standing | fullSpeed => cases failed
  | unrefreshed => cases List.mem_singleton.1 hmem
  | statusUnreadable => cases sample_of_duty hmem
  | fullSpeedRefused =>
    rcases List.mem_append.1 hmem with hmem | hmem
    · cases sample_of_duty hmem
    · cases List.mem_singleton.1 hmem
  | fanUnreadable =>
    rcases List.mem_append.1 hmem with hmem | hmem
    · cases sample_of_duty hmem
    · rcases List.mem_append.1 hmem with hmem | hmem
      · obtain ⟨x, -, heq⟩ := List.mem_map.1 hmem
        cases heq
      · cases List.mem_singleton.1 hmem
  | managed on clear rest =>
    cases rest with
    | overflow | kept | applied => cases failed
    | tripped =>
      rcases List.mem_append.1 hmem with hmem | hmem
      · cases sample_of_accessesTo hmem
      · obtain ⟨q, -, heq⟩ := latch_accesses hmem
        cases heq
    | refused =>
      rcases List.mem_append.1 hmem with hmem | hmem
      · cases sample_of_round hmem
      · cases List.mem_singleton.1 hmem

/-- Wherever a pass fails, it leaves the baseline and all flags alone. -/
theorem Stops.kept {q : Query} (h : c.Stops b w s q s') :
    s'.baseline = s.baseline ∧ s'.enabled = s.enabled ∧ s'.initialised = s.initialised ∧
      s'.shutdownReported = s.shutdownReported := by
  cases h <;> exact ⟨rfl, rfl, rfl, rfl⟩

/-- One tick is taken off the cooldown between the reset and all else. -/
theorem Stops.cooldown {q : Query} (h : c.Stops b w s q s') :
    (q = .register Watchdog.refreshQuery → s'.cooldown = s.cooldown) ∧
      (q ≠ .register Watchdog.refreshQuery → s'.cooldown = s.cooldown - 1) := by
  cases h with
  | refresh => exact ⟨fun _ => rfl, fun other => absurd rfl other⟩
  | status | fullSpeed | fan | speed => exact ⟨nofun, fun _ => rfl⟩
  | latch write =>
    have other : Watchdog.refreshQuery ∉ Watchdog.latchQueries := by decide
    refine ⟨fun heq => ?_, fun _ => rfl⟩
    cases heq
    exact absurd write other

/-- The band is noted just before the speed that it asks for. -/
theorem Stops.band {q : Query} (h : c.Stops b w s q s') :
    (b.round c.table w).Awake ∧ (∃ v, q = speedAccess .primary v) ∧
        s'.previousBand = some ((b.round c.table w).band c.table) ∨
      ¬ ((b.round c.table w).Awake ∧ ∃ v, q = speedAccess .primary v) ∧
        s'.previousBand = s.previousBand := by
  cases h with
  | speed awake => exact .inl ⟨awake, ⟨_, rfl⟩, rfl⟩
  | fullSpeed latched => exact .inr ⟨fun ⟨awake, _⟩ => latched.not_awake awake, rfl⟩
  | refresh | status | fan | latch => exact .inr ⟨fun ⟨_, _, heq⟩ => (by cases heq), rfl⟩

/-- A start in vain only notes that the algorithm is enabled. -/
theorem Starts.vain {h : Halt} (start : c.Starts b w s (.error h) s' qs) :
    s' = { s with enabled := true } := by
  cases start <;> rfl

/-- It stops before the first baseline, so it accesses no device. -/
theorem Starts.unaccessed {h : Halt} (start : c.Starts b w s (.error h) s' qs) :
    ∀ q ∈ qs, q.isDevice = false := by
  intro q hq
  cases start with
  | unarmed =>
    refine isDevice_of_untouched (untouched_ready c q (List.mem_append_left _ ?_))
    exact (List.cons_prefix_cons.2 ⟨rfl, b.attempt_initial _ _⟩).subset hq
  | statusUnreadable => exact isDevice_of_untouched (untouched_ready c q hq)

end Controller

/-! ## The failed access -/

namespace Turn

variable {t : Turn c b}

/-- A failed pass has stopped at a fatal access exactly if that is its last access. -/
theorem stoppedBy_iff {q q' : Query} {l : List Query} (failed : t.result = .error (.fault e))
    (last : Program.queries t.trace = l ++ [q]) (fatal : q'.fatal = true) :
    StoppedBy q' t.trace t.result ↔ q' = q := by
  constructor
  · rintro ⟨e', answered, -⟩
    obtain ⟨u, v, split⟩ := List.append_of_mem answered
    have nothing := (ended_by_fatal split fatal).1
    rw [split, Program.queries_append, Program.queries_asked, nothing] at last
    exact List.singleton_inj.1 (List.append_inj' last rfl).2
  · rintro rfl
    obtain ⟨u, q, v, split, fatal, -⟩ := fatal_of_fault failed
    have nothing := (ended_by_fatal split fatal).1
    have last' := last
    rw [split, Program.queries_append, Program.queries_asked, nothing] at last'
    obtain rfl := List.singleton_inj.1 (List.append_inj' last' rfl).2
    exact ⟨e, split ▸ List.mem_append_right _ List.mem_cons_self, failed⟩

/-- The pass has failed at the speed that it has chosen from what it has read. -/
def SpeedRefused (t : Turn c b) : Prop :=
  t.round.Awake ∧ ∃ v, StoppedBy (speedAccess .primary v) t.trace t.result

/-- A pass that has started and fails stops at its last access. -/
theorem stops (failed : t.result = .error (.fault e)) (started : t.start.value.1 = .ok ()) :
    ∃ l q, Program.queries t.trace = l ++ [q] ∧ c.Stops b t.start.world t.ready q t.after ∧
      ∀ p v, speedAccess (.supply p) v ∉ Program.queries t.trace := by
  obtain ⟨starts, hstarts, world, ⟨h, vain, -⟩ | ⟨-, qs, hends, hpass⟩⟩ := t.parts
  · rw [started] at vain
    cases vain
  · rw [← world] at hends
    obtain ⟨l, q, last, stops⟩ := hends.stops failed
    have accesses : Program.queries t.trace = starts ++ qs := hpass.trace
    refine ⟨starts ++ l, q, ?_, stops, fun p v hmem => ?_⟩
    · rw [accesses, last, List.append_assoc]
    · rw [accesses] at hmem
      rcases List.mem_append.1 hmem with hmem | hmem
      · cases hstarts.access _ hmem
      · exact hends.unset failed p v hmem

end Turn

/-! ## What is left -/

/-- The control state after a failed pass that has set to work in the control state `s`. -/
structure LeftBehind (t : Turn c b) (s : ControlState) : Prop where
  baseline : t.after.baseline = s.baseline
  enabled : t.after.enabled = s.enabled
  initialised : t.after.initialised = s.initialised
  reported : t.after.shutdownReported = s.shutdownReported
  /-- A refused reset comes before the tick. -/
  unticked : StoppedBy (.register Watchdog.refreshQuery) t.trace t.result →
    t.after.cooldown = s.cooldown
  ticked : ¬ StoppedBy (.register Watchdog.refreshQuery) t.trace t.result →
    t.after.cooldown = s.cooldown - 1
  /-- The band is noted before the speed is set, so a refused speed comes with the band of the
  pass. -/
  noted : t.SpeedRefused → t.after.previousBand = some (t.round.band c.table)
  unnoted : ¬ t.SpeedRefused → t.after.previousBand = s.previousBand
  /-- A fan is remembered as it was before or as it was read. -/
  fans : ∀ f, t.after.previousFans.get? f = s.previousFans.get? f ∨
    ∃ reading, t.after.previousFans.get? f = some reading ∧
      .asked (fanAccess f) (.ok reading) ∈ t.trace
  supplies : ∀ p, t.after.previousSupplies.get? p = s.previousSupplies.get? p ∨
    ∃ reading, t.after.previousSupplies.get? p = some reading ∧
      .asked (supplyAccess p) (.ok reading) ∈ t.trace
  /-- The fans of the supplies have not been asked for any speed. -/
  supplyFans : ∀ p v, speedAccess (.supply p) v ∉ Program.queries t.trace

/-- What a failed pass leaves behind. -/
structure FailedPass (t : Turn c b) : Prop where
  /-- A controller that has been started before the pass. -/
  running : t.before.initialised = true → LeftBehind t t.before
  /-- A controller that the pass has started. -/
  starting : t.start.value.1 = .ok () → LeftBehind t t.ready
  /-- A start in vain has only read that the algorithm is enabled. -/
  vain : ∀ h, t.start.value.1 = .error h → t.after = { t.before with enabled := true } ∧
    t.after.initialised = false ∧ ∀ q ∈ Program.queries t.trace, q.isDevice = false

namespace Turn

variable {t : Turn c b}

/-- A full speed for a latched shutdown is no failure. -/
theorem not_first_of_failed (failed : t.result = .error (.fault e)) :
    t.result ≠ .ok (.shutdownLatched true) := by
  rw [failed]
  nofun

/-- A started pass that fails. -/
theorem leftBehind (failed : t.result = .error (.fault e)) (started : t.start.value.1 = .ok ()) :
    LeftBehind t t.ready := by
  obtain ⟨l, q, last, stops, unset⟩ := stops failed started
  have unreset : StoppedBy (.register Watchdog.refreshQuery) t.trace t.result ↔ _ :=
    stoppedBy_iff failed last rfl
  have refused : t.SpeedRefused ↔ t.round.Awake ∧ ∃ v, q = speedAccess .primary v :=
    and_congr_right fun _ => exists_congr fun v => (stoppedBy_iff failed last rfl).trans eq_comm
  obtain ⟨baseline, enabled, initialised, reported⟩ := stops.kept
  refine
    { baseline := baseline
      enabled := enabled
      initialised := initialised
      reported := reported
      unticked := fun h => stops.cooldown.1 (unreset.1 h).symm
      ticked := fun h => stops.cooldown.2 fun heq => h (unreset.2 heq.symm)
      noted := fun h => ?noted
      unnoted := fun h => ?unnoted
      fans := t.start_memory.1 ▸ t.fan_remembered
      supplies := t.start_memory.2 ▸ supply_remembered (not_first_of_failed failed)
      supplyFans := unset }
  case noted =>
    rcases stops.band with ⟨-, -, noted⟩ | ⟨other, -⟩
    · exact noted
    · exact absurd (refused.1 h) other
  case unnoted =>
    rcases stops.band with ⟨awake, speed, -⟩ | ⟨-, kept⟩
    · exact absurd (refused.2 ⟨awake, speed⟩) h
    · exact kept

/-- A start in vain. -/
theorem of_vain {h : Halt} (vain : t.start.value.1 = .error h) :
    t.after = { t.before with enabled := true } ∧ t.after.initialised = false ∧
      ∀ q ∈ Program.queries t.trace, q.isDevice = false := by
  obtain ⟨starts, hstarts, -, ⟨h', vain', hpass⟩ | ⟨started, -⟩⟩ := t.parts
  · rw [vain] at hstarts
    have accesses : Program.queries t.trace = starts := hpass.trace
    rw [show t.after = t.ready from hpass.state, accesses]
    exact ⟨hstarts.vain, (hstarts.flags_vain).1, hstarts.unaccessed⟩
  · rw [vain] at started
    cases started

end Turn

/-- **What a failed pass leaves behind**, from every control state and on every board. -/
theorem failed_pass (t : Turn c b) (failed : t.result = .error (.fault e)) : FailedPass t where
  running initialised := by
    obtain ⟨starts, hstarts, -⟩ := t.parts
    obtain ⟨started, ready, -⟩ := hstarts.of_initialised initialised
    exact ready ▸ Turn.leftBehind failed started
  starting started := Turn.leftBehind failed started
  vain _ vain := Turn.of_vain vain

section Trial

open Bench

/-- A pass that finds a core in its critical band, and a primary fan that refuses its speed. -/
def refusedTurn : Turn trialController trialBoard :=
  ⟨.patched 80 [.heat .cpuCore0 95000, .fanFault .primary (some (.internal "stalled"))], running 5⟩

/-- It leaves the critical band behind, and one pass less to wait. -/
theorem failed_pass_at_refused_speed :
    refusedTurn.result = .error (.fault (.internal "stalled")) ∧ FailedPass refusedTurn ∧
      refusedTurn.after.previousBand = some .critical ∧ refusedTurn.after.cooldown = 4 := by
  have failed : refusedTurn.result = .error (.fault (.internal "stalled")) := by rfl
  exact ⟨failed, failed_pass refusedTurn failed, by rfl, by rfl⟩

end Trial

end SwitchThermal
