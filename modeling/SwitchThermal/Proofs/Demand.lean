import SwitchThermal.Proofs.Guarded
import SwitchThermal.Proofs.History

/-!
# What a pass demands of the primary fan

The ends of a pass seen from the primary fan. A pass makes at most one demand of it: full speed for
a latched shutdown, or the speed that it has chosen.

* `Controller.demand` — the demand, as a function of the round and the state, with what the pass
  comes to if it is refused and if it is accepted.
* `Controller.Meets` — the ways in which a pass of a started controller meets its demand.
* `Controller.Ends.meets` — every end is one of them.
* `Turn.meets` — so is what follows the start of every pass.
-/

set_option autoImplicit false

namespace SwitchThermal

variable {σ : Type} {b : Board σ} {c : Controller} {w : σ} {s s' : ControlState}
  {r : Except Halt PassReport} {qs : List Query}

/-- What a pass demands of the primary fan, and what comes of it. -/
structure Demand where
  percentage : Nat
  /-- The control state if the speed is refused. -/
  held : ControlState
  /-- The report if it is accepted. -/
  report : PassReport
  /-- The control state if it is accepted. -/
  settled : ControlState

namespace Controller

/-- Full speed for a latched shutdown, unless it has been set before. -/
def fullSpeedDemand (c : Controller) (s : ControlState) : Option Demand :=
  if s.shutdownReported then none
  else some
    { percentage := c.params.full
      held := s.tickCooldown
      report := .shutdownLatched true
      settled := { Actuator.settle c.params none s.tickCooldown with shutdownReported := true } }

/-- The speed that the pass chooses, if it chooses one. -/
def commandDemand (c : Controller) (R : Round) (s : ControlState) : Option Demand :=
  match c.command R s with
  | .ok (some percentage) => some
    { percentage := percentage
      held := R.noted c.table s
      report := R.report c.table (some percentage)
      settled := Actuator.settle c.params (some (R.sweep c.table).samples) (R.noted c.table s) }
  | _ => none

/-- What a pass of a started controller demands of the primary fan. -/
def demand (c : Controller) (R : Round) (s : ControlState) : Option Demand :=
  match s.enabled, R.refresh, R.status with
  | true, .ok (), .ok status =>
    if Watchdog.isLatched status then c.fullSpeedDemand s
    else if allReadable R.fans && R.sensors.all (fun e => !trips e) then c.commandDemand R s
    else none
  | _, _, _ => none

variable {R : Round} {d : Demand}

theorem fullSpeedDemand_eq_some (h : c.fullSpeedDemand s = some d) :
    s.shutdownReported = false ∧ d =
      { percentage := c.params.full
        held := s.tickCooldown
        report := .shutdownLatched true
        settled :=
          { Actuator.settle c.params none s.tickCooldown with shutdownReported := true } } := by
  unfold fullSpeedDemand at h
  split at h
  · cases h
  · rename_i unreported
    exact ⟨Bool.eq_false_iff.2 unreported, (Option.some.inj h).symm⟩

theorem commandDemand_eq_some (h : c.commandDemand R s = some d) :
    ∃ percentage, c.command R s = .ok (some percentage) ∧ d =
      { percentage := percentage
        held := R.noted c.table s
        report := R.report c.table (some percentage)
        settled :=
          Actuator.settle c.params (some (R.sweep c.table).samples) (R.noted c.table s) } := by
  unfold commandDemand at h
  split at h
  · rename_i percentage command
    exact ⟨percentage, command, (Option.some.inj h).symm⟩
  · cases h

theorem demand_of_latched (on : s.enabled = true) (latched : R.Latched) :
    c.demand R s = c.fullSpeedDemand s := by
  obtain ⟨refreshed, status, read, latch⟩ := latched
  simp [demand, on, refreshed, read, latch]

theorem demand_of_calm (on : s.enabled = true) (clear : R.Clear)
    (calm : ∀ e ∈ R.sensors, trips e = false) : c.demand R s = c.commandDemand R s := by
  obtain ⟨⟨refreshed, status, read, unlatched⟩, readable⟩ := clear
  have still : (R.sensors.all fun e => !trips e) = true := by simpa using calm
  simp [demand, on, refreshed, read, unlatched, readable, still]

/-- A pass that makes a demand is enabled and has reset the watchdog. -/
theorem demand_met (h : c.demand R s = some d) :
    s.enabled = true ∧ R.refresh = .ok () ∧
      (R.Latched ∧ c.fullSpeedDemand s = some d ∨
        R.Clear ∧ (∀ e ∈ R.sensors, trips e = false) ∧ c.commandDemand R s = some d) := by
  unfold demand at h
  split at h
  · rename_i status on refreshed read
    refine ⟨on, refreshed, ?_⟩
    split at h
    · rename_i latch
      exact .inl ⟨⟨refreshed, status, read, latch⟩, h⟩
    · rename_i unlatched
      split at h
      · rename_i fine
        obtain ⟨readable, still⟩ := Bool.and_eq_true_iff.1 fine
        have calm : ∀ e ∈ R.sensors, trips e = false := by simpa using still
        exact .inr ⟨⟨⟨refreshed, status, read, Bool.eq_false_iff.2 unlatched⟩, readable⟩, calm, h⟩
      · cases h
  · cases h

/-! ## The ends of a pass -/

/-- How a pass of a started controller meets its demand: with a result and a control state, after
some accesses. -/
inductive Meets (c : Controller) (b : Board σ) (w : σ) (s : ControlState) :
    Except Halt PassReport → ControlState → List Query → Prop where
  /-- There is none, and no fan is set. -/
  | idle {r : Except Halt PassReport} {s' : ControlState} {qs : List Query}
      (none : c.demand (b.round c.table w) s = none) (unset : ∀ f v, speedAccess f v ∉ qs) :
      Meets c b w s r s' qs
  | refused {d : Demand} {e : Fault} {before : List Query}
      (demand : c.demand (b.round c.table w) s = some d) (sampling : ∀ q ∈ before, SampleAccess q)
      (refused : (b (speedAccess .primary d.percentage) (b.after w before)).answer = .error e) :
      Meets c b w s (.error (.fault e)) d.held (before ++ [speedAccess .primary d.percentage])
  | accepted {d : Demand} {before rest : List Query} {view : SupplyView}
      (demand : c.demand (b.round c.table w) s = some d) (sampling : ∀ q ∈ before, SampleAccess q)
      (accepted : (b (speedAccess .primary d.percentage) (b.after w before)).answer = .ok ())
      (follow : ∀ q ∈ rest, FollowAccess view d.percentage q) :
      Meets c b w s (.ok d.report) d.settled (before ++ speedAccess .primary d.percentage :: rest)

/-- Sampling sets no fan. -/
theorem unset_of_sampling (h : ∀ q ∈ qs, SampleAccess q) (f : Fan) (v : Nat) :
    speedAccess f v ∉ qs := by
  intro hmem
  cases h _ hmem

theorem Managed.meets (h : c.Managed b w s r s' qs) (on : s.enabled = true)
    (clear : (b.round c.table w).Clear) : c.Meets b w s r s' qs := by
  have sampling : ∀ q ∈ c.roundAccesses, SampleAccess q := fun q => sample_of_round
  cases h with
  | @tripped before later x reading split first trip =>
    have stirred : ((b.round c.table w).sensors.all fun e => !trips e) = false := by
      rw [split]
      simp [trip]
    obtain ⟨⟨refreshed, status, read, unlatched⟩, readable⟩ := clear
    refine .idle (by simp [demand, on, refreshed, read, unlatched, readable, stirred]) ?_
    intro f v hmem
    rcases List.mem_append.1 hmem with hmem | hmem
    · cases sample_of_accessesTo hmem
    · obtain ⟨q, -, hq⟩ := latch_accesses hmem
      cases hq
  | overflow calm exceeds =>
    refine .idle ?_ (unset_of_sampling sampling)
    rw [demand_of_calm on clear calm, commandDemand, exceeds]
  | kept calm keep =>
    refine .idle ?_ (unset_of_sampling sampling)
    rw [demand_of_calm on clear calm, commandDemand, keep]
  | applied calm change accepted follow =>
    have demanded := demand_of_calm (c := c) on clear calm
    rw [commandDemand, change] at demanded
    exact .accepted demanded sampling accepted follow
  | refused calm change refused =>
    have demanded := demand_of_calm (c := c) on clear calm
    rw [commandDemand, change] at demanded
    exact .refused demanded sampling refused

/-- **Every end of a pass meets its demand in one of the ways.** -/
theorem Ends.meets (h : c.Ends b w s r s' qs) : c.Meets b w s r s' qs := by
  have duty : ∀ q ∈ dutyAccesses, SampleAccess q := fun q => sample_of_duty
  cases h with
  | disabled off =>
    exact .idle (by simp [demand, off]) fun _ _ => List.not_mem_nil
  | unrefreshed on refused =>
    refine .idle (by simp [demand, refused]) (unset_of_sampling ?_)
    exact List.forall_mem_singleton.2 .refresh
  | statusUnreadable on refreshed unreadable =>
    exact .idle (by simp [demand, unreadable]) (unset_of_sampling duty)
  | standing on latched reported =>
    refine .idle ?_ (unset_of_sampling duty)
    rw [demand_of_latched on latched, fullSpeedDemand, if_pos reported]
  | fullSpeed on latched unreported accepted follow =>
    have demanded := demand_of_latched (c := c) on latched
    rw [fullSpeedDemand, unreported] at demanded
    exact .accepted demanded duty accepted follow
  | fullSpeedRefused on latched unreported refused =>
    have demanded := demand_of_latched (c := c) on latched
    rw [fullSpeedDemand, unreported] at demanded
    exact .refused demanded duty refused
  | fanUnreadable on awake unreadable =>
    obtain ⟨refreshed, status, read, unlatched⟩ := awake
    have partly : allReadable (b.round c.table w).fans = false := by
      rw [unreadable]
      simp [allReadable, Except.isOk, Except.toBool]
    refine .idle (by simp [demand, on, refreshed, read, unlatched, partly]) fun f v hmem => ?_
    rcases List.mem_append.1 hmem with hmem | hmem
    · exact unset_of_sampling duty f v hmem
    · rcases List.mem_append.1 hmem with hmem | hmem
      · obtain ⟨x, -, hx⟩ := List.mem_map.1 hmem
        cases hx
      · cases List.mem_singleton.1 hmem
  | managed on clear rest => exact rest.meets on clear

end Controller

/-! ## What becomes of a demand -/

namespace Controller

variable {before rest : List Query} {view : SupplyView} {percentage v : Nat}

/-- After a refusal no fan follows. -/
theorem nothing_follows (percentage : Nat) :
    ∀ q ∈ ([] : List Query), FollowAccess .query percentage q :=
  List.forall_mem_nil _

/-- A setting of the primary fan is the one that the pass demands. -/
theorem primary_of_recorded (sampling : ∀ q ∈ before, SampleAccess q)
    (follow : ∀ q ∈ rest, FollowAccess view percentage q) {a : Except Fault Unit}
    (h : .asked (speedAccess .primary v) a ∈
      b.record w (before ++ speedAccess .primary percentage :: rest)) :
    v = percentage ∧ a = (b (speedAccess .primary percentage) (b.after w before)).answer := by
  rw [Board.record_append, Board.record_cons] at h
  rcases List.mem_append.1 h with h | h
  · cases sampling _ (Board.made_of_recorded h)
  · rcases List.mem_cons.1 h with h | h
    · cases h
      exact ⟨rfl, rfl⟩
    · cases follow _ (Board.made_of_recorded h)

/-- A speed that is requested of the primary fan has been demanded. -/
theorem Meets.demanded (h : c.Meets b w s r s' qs) (requested : speedAccess .primary v ∈ qs) :
    ∃ d, c.demand (b.round c.table w) s = some d ∧ d.percentage = v := by
  have only {before rest : List Query} {view : SupplyView} {percentage : Nat}
      (sampling : ∀ q ∈ before, SampleAccess q)
      (follow : ∀ q ∈ rest, FollowAccess view percentage q)
      (hmem : speedAccess .primary v ∈ before ++ speedAccess .primary percentage :: rest) :
      percentage = v := by
    rcases List.mem_append.1 hmem with hmem | hmem
    · exact absurd hmem (unset_of_sampling sampling _ _)
    · rcases List.mem_cons.1 hmem with heq | hmem
      · cases heq
        rfl
      · cases follow _ hmem
  cases h with
  | idle none unset => exact absurd requested (unset _ _)
  | refused demand sampling answer =>
    exact ⟨_, demand, only sampling (nothing_follows _) requested⟩
  | accepted demand sampling answer follow => exact ⟨_, demand, only sampling follow requested⟩

/-- A speed that the primary fan refuses has been demanded, and the refusal ends the pass. -/
theorem Meets.of_refused (h : c.Meets b w s r s' qs) {e : Fault}
    (refused : .asked (speedAccess .primary v) (.error e) ∈ b.record w qs) :
    ∃ d, c.demand (b.round c.table w) s = some d ∧ d.percentage = v ∧ s' = d.held := by
  cases h with
  | idle none unset => exact absurd (Board.made_of_recorded refused) (unset _ _)
  | @refused d e before demand sampling answer =>
    obtain ⟨same, -⟩ := primary_of_recorded sampling (nothing_follows _) refused
    exact ⟨d, demand, same.symm, rfl⟩
  | accepted demand sampling answer follow =>
    obtain ⟨-, same⟩ := primary_of_recorded sampling follow refused
    rw [answer] at same
    cases same

/-- A demanded speed is the one that is requested. -/
theorem Meets.requested_iff (h : c.Meets b w s r s' qs) {d : Demand}
    (demand : c.demand (b.round c.table w) s = some d) :
    speedAccess .primary v ∈ qs ↔ v = d.percentage := by
  constructor
  · intro requested
    obtain ⟨d', demand', rfl⟩ := h.demanded requested
    rw [demand] at demand'
    cases demand'
    rfl
  · rintro rfl
    cases h with
    | idle none unset =>
      rw [none] at demand
      cases demand
    | refused demand' | accepted demand' =>
      rw [demand'] at demand
      cases demand
      exact List.mem_append_right _ List.mem_cons_self

/-- A demanded speed that is accepted settles the pass. -/
theorem Meets.of_accepted (h : c.Meets b w s r s' qs) {d : Demand}
    (demand : c.demand (b.round c.table w) s = some d)
    (accepted : .asked (speedAccess .primary v) (.ok ()) ∈ b.record w qs) :
    r = .ok d.report ∧ s' = d.settled := by
  cases h with
  | idle none unset => exact absurd (Board.made_of_recorded accepted) (unset _ _)
  | refused demand' sampling answer =>
    obtain ⟨-, same⟩ := primary_of_recorded sampling (nothing_follows _) accepted
    rw [answer] at same
    cases same
  | accepted demand' sampling answer follow =>
    rw [demand'] at demand
    cases demand
    exact ⟨rfl, rfl⟩

/-- Once the primary fan has accepted a speed, only the fans of the supplies are left to follow. -/
theorem Meets.accesses_of_accepted (h : c.Meets b w s r s' qs) {u later : List Entry}
    (split : b.record w qs = u ++ later)
    (accepted : .asked (speedAccess .primary v) (.ok ()) ∈ u) :
    ∃ before follow view, Program.queries u = before ++ speedAccess .primary v :: follow ∧
      (b (speedAccess .primary v) (b.after w before)).answer = .ok () ∧
      ∀ q ∈ follow, FollowAccess view v q := by
  have recorded : .asked (speedAccess .primary v) (.ok ()) ∈ b.record w qs := by
    rw [split]
    exact List.mem_append_left _ accepted
  cases h with
  | idle none unset => exact absurd (Board.made_of_recorded recorded) (unset _ _)
  | refused demand sampling answer =>
    obtain ⟨-, same⟩ := primary_of_recorded sampling (nothing_follows _) recorded
    rw [answer] at same
    cases same
  | @accepted d before rest view demand sampling answer follow =>
    obtain ⟨rfl, -⟩ := primary_of_recorded sampling follow recorded
    have unset : .asked (speedAccess .primary d.percentage) (.ok ()) ∉ b.record w before :=
      fun early => unset_of_sampling sampling _ _ (Board.made_of_recorded early)
    rw [Board.record_append, Board.record_cons] at split
    obtain ⟨m, rfl, others, here⟩ := split_after split.symm accepted unset
    cases m with
    | nil => cases here
    | cons e m =>
      obtain ⟨rfl, tail⟩ := List.cons.inj others
      have made : rest = Program.queries m ++ Program.queries later := by
        rw [← Program.queries_append, ← show _ = m ++ later from tail, Program.queries_record]
      refine ⟨before, Program.queries m, view, ?_, answer, fun q hq => follow q ?_⟩
      · rw [Program.queries_append, Program.queries_record, Program.queries_asked]
      · rw [made]
        exact List.mem_append_left _ hq

end Controller

/-! ## Whole passes -/

namespace Turn

/-- What follows the start of a pass meets its demand, unless the start is in vain. -/
theorem meets (t : Turn c b) :
    ∃ starts qs, (∀ q ∈ starts, c.StartAccess q) ∧ t.start.world = b.after t.world starts ∧
      answers t.trace = b.record t.world starts ++ b.record t.start.world qs ∧
      (t.start.value.1 = .ok () ∧ c.Meets b t.start.world t.ready t.result t.after qs ∨
        t.start.value.1 ≠ .ok () ∧ qs = []) := by
  obtain ⟨starts, hstarts, world, parts⟩ := t.parts
  rcases parts with ⟨h, vain, hpass⟩ | ⟨started, qs, hends, hpass⟩
  · refine ⟨starts, [], hstarts.access, world, ?_, .inr ⟨by rw [vain]; nofun, rfl⟩⟩
    rw [Board.record_nil, List.append_nil]
    exact hpass.answers
  · rw [← world] at hends
    refine ⟨starts, qs, hstarts.access, world, ?_, .inl ⟨started, hends.meets⟩⟩
    rw [world, ← Board.record_append]
    exact hpass.answers

/-- What follows the start of a pass that starts. -/
theorem meets_of_start {t : Turn c b} (h : t.start.value.1 = .ok ()) :
    ∃ starts qs, (∀ q ∈ starts, c.StartAccess q) ∧
      answers t.trace = b.record t.world starts ++ b.record t.start.world qs ∧
      c.Meets b t.start.world t.ready t.result t.after qs := by
  obtain ⟨starts, qs, access, -, entries, ⟨-, meets⟩ | ⟨vain, -⟩⟩ := t.meets
  · exact ⟨starts, qs, access, entries, meets⟩
  · exact absurd h vain

/-- A speed that a pass requests of the primary fan has been demanded. -/
theorem demanded {t : Turn c b} {v : Nat} (h : speedAccess .primary v ∈ Program.queries t.trace) :
    ∃ d, c.demand t.round t.ready = some d ∧ d.percentage = v := by
  obtain ⟨starts, qs, access, -, entries, met⟩ := t.meets
  rw [← queries_answers, entries, Program.queries_append, Program.queries_record,
    Program.queries_record] at h
  rcases List.mem_append.1 h with early | h
  · cases access _ early
  · rcases met with ⟨-, meets⟩ | ⟨-, rfl⟩
    · exact meets.demanded h
    · cases h

/-- Once the primary fan has accepted a speed, only the fans of the supplies are left to follow. -/
theorem accesses_of_accepted {t : Turn c b} {u rest : List Entry} {v : Nat}
    (split : t.trace = u ++ rest) (accepted : .asked (speedAccess .primary v) (.ok ()) ∈ u) :
    ∃ before follow view, Program.queries u = before ++ speedAccess .primary v :: follow ∧
      (b (speedAccess .primary v) (b.after t.world before)).answer = .ok () ∧
      ∀ q ∈ follow, FollowAccess view v q := by
  obtain ⟨starts, qs, access, world, entries, met⟩ := t.meets
  have unstarted : .asked (speedAccess .primary v) (.ok ()) ∉ b.record t.world starts := by
    intro early
    cases access _ (Board.made_of_recorded early)
  rw [split, answers_append] at entries
  obtain ⟨m, first, later, here⟩ := split_after entries (mem_answers.2 accepted) unstarted
  rcases met with ⟨-, meets⟩ | ⟨-, rfl⟩
  · obtain ⟨before, follow, view, made, answer, following⟩ := meets.accesses_of_accepted later here
    refine ⟨starts ++ before, follow, view, ?_, ?_, following⟩
    · rw [← queries_answers, first, Program.queries_append, Program.queries_record, made,
        List.append_assoc]
    · rw [Board.after_append, ← world]
      exact answer
  · obtain ⟨rfl, -⟩ := List.append_eq_nil_iff.1 later.symm
    cases here

end Turn

end SwitchThermal
