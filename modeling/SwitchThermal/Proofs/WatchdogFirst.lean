import SwitchThermal.Bench.Trial
import SwitchThermal.Proofs.Guarded
import SwitchThermal.Proofs.RegisterProtocol

/-!
# The watchdog comes first

Nothing on the board is touched before the watchdog looks after it.

* `Armed`, `Cleared` — the watchdog has been armed, and its timer reset, in a part of a trace.
* `Query.touches` — accesses to fans, supplies and sensors, and writes to the shutdown latch.
* `Starts.guarded`, `Duty.guarded` — within its start and after it, a pass touches nothing before
  the watchdog has been armed or reset.
* `watchdog_first` — along every history from a fresh state, the board is touched only after the
  watchdog has been armed, and reset in the same pass, and never after a failing register access.
-/

set_option autoImplicit false

namespace SwitchThermal

variable {σ : Type} {b : Board σ} {c : Controller} {w : σ} {s s₁ : ControlState}

/-! ## Arming and touching -/

/-- The writes that arm the watchdog, in order and all accepted. -/
def armEntries : List BusEntry :=
  [.written Watchdog.timeoutOffset 14, .written Watchdog.actionOffset 0x90,
   .written Watchdog.clearProtectOffset 0xee, .written Watchdog.clearOffset 0x11]

/-- Has the watchdog been armed? -/
def Armed (t : List Entry) : Prop :=
  armEntries <:+: busTrace t

/-- Has the timer been reset? -/
def Cleared (t : List Entry) : Prop :=
  ∃ value, .written Watchdog.clearOffset value ∈ busTrace t

/-- Have all register accesses been accepted? -/
def Accepted (t : List Entry) : Prop :=
  ∀ e ∈ busTrace t, e.accepted = true

/-- Is it an access to a fan, a supply or a sensor, be it a reading or a setting? -/
def Query.isDevice : Query → Bool
  | .device _ => true
  | .register _ | .controlFile _ => false

/-- Is it an access to a device, or a write to the shutdown latch or its protection? -/
def Query.touches : Query → Bool
  | .device _ => true
  | .register q => q.writesLatch
  | .controlFile _ => false

theorem Armed.extend {t : List Entry} (h : Armed t) (u : List Entry) : Armed (t ++ u) := by
  unfold Armed
  rw [busTrace_append]
  exact h.trans (List.prefix_append _ _).isInfix

theorem Armed.cleared {t : List Entry} (h : Armed t) : Cleared t :=
  ⟨0x11, h.subset (by simp [armEntries])⟩

theorem Cleared.append (t : List Entry) {u : List Entry} (h : Cleared u) : Cleared (t ++ u) := by
  obtain ⟨value, hmem⟩ := h
  refine ⟨value, ?_⟩
  rw [busTrace_append]
  exact List.mem_append_right _ hmem

theorem Cleared.extend {t : List Entry} (h : Cleared t) (u : List Entry) : Cleared (t ++ u) := by
  obtain ⟨value, hmem⟩ := h
  refine ⟨value, ?_⟩
  rw [busTrace_append]
  exact List.mem_append_left _ hmem

theorem accepted_append {t u : List Entry} : Accepted (t ++ u) ↔ Accepted t ∧ Accepted u := by
  unfold Accepted
  rw [busTrace_append, List.forall_mem_append]

theorem Guarded.of_accepted {K : Query → Bool} {t : List Entry} (h : Accepted t) :
    Guarded K Accepted t := by
  intro u q a v split _
  rw [split, accepted_append] at h
  exact h.1

theorem isDevice_of_untouched {q : Query} (h : q.touches = false) : q.isDevice = false := by
  cases q with
  | device d => cases h
  | register r => rfl
  | controlFile path => rfl

theorem accepted_of_onDevices {qs : List Query} (h : OnDevices qs) : Accepted (b.record w qs) := by
  have none : busTrace (b.record w qs) = [] := h.bus
  rw [Accepted, none]
  exact List.forall_mem_nil _

/-! ## The start -/

/-- An armed start has armed the watchdog. -/
theorem armed_ready
    (armed : (b.attempt (b.after w [c.settingsAccess]) Watchdog.armQueries).1 = .ok ()) :
    Armed (b.record w c.readyAccesses) := by
  have arming := b.performed_attempt (b.after w [c.settingsAccess]) Watchdog.armQueries
  rw [armed, Board.attempt_snd armed] at arming
  have entries : b.bus w c.armingAccesses = armEntries :=
    arming.written [(Watchdog.timeoutOffset, 14), (Watchdog.actionOffset, 0x90),
      (Watchdog.clearProtectOffset, 0xee), (Watchdog.clearOffset, 0x11)]
  have arm : armEntries <:+: b.bus w c.armingAccesses := entries ▸ List.infix_rfl
  rw [Controller.readyAccesses, Board.record_append]
  exact Armed.extend arm _

theorem untouched_ready (c : Controller) : ∀ q ∈ c.readyAccesses, q.touches = false := by
  intro q hq
  rcases List.mem_append.1 hq with hq | hq
  · rcases List.mem_cons.1 hq with rfl | hq
    · rfl
    · obtain ⟨r, hr, rfl⟩ := List.mem_map.1 hq
      have arm : ∀ r ∈ Watchdog.armQueries, (Query.register r).touches = false := by decide
      exact arm r hr
  · obtain rfl := List.mem_singleton.1 hq
    rfl

/-- A start either ends before the first baseline, or is armed when it comes to it and succeeds. -/
theorem Controller.Starts.accesses {r : Except Halt Unit} {qs : List Query}
    (h : c.Starts b w s r s₁ qs) : qs <+: c.readyAccesses ∨
      qs = c.readyAccesses ++ c.table.relevant.map sensorAccess ∧ r = .ok () ∧
        Armed (b.record w c.readyAccesses) := by
  cases h with
  | already => exact .inl List.nil_prefix
  | off => exact .inl ⟨_, rfl⟩
  | unarmed =>
    have arming : c.settingsAccess :: (b.attempt (b.after w [c.settingsAccess])
        Watchdog.armQueries).2 <+: c.armingAccesses :=
      List.cons_prefix_cons.2 ⟨rfl, b.attempt_initial _ _⟩
    exact .inl (arming.trans (List.prefix_append _ _))
  | statusUnreadable | latched => exact .inl List.prefix_rfl
  | sampled _ _ armed => exact .inr ⟨rfl, rfl, armed_ready armed⟩

/-- Nothing is touched within a start before the watchdog has been armed. -/
theorem Controller.Starts.guarded {r : Except Halt Unit} {qs : List Query}
    (h : c.Starts b w s r s₁ qs) :
    Guarded Query.touches (fun u => Cleared u ∧ Armed u) (b.record w qs) := by
  rcases h.accesses with early | ⟨rfl, -, armed⟩
  · exact .of_none fun q hq => untouched_ready c q (early.subset hq)
  · rw [Board.record_append, guarded_append]
    exact ⟨.of_none (untouched_ready c),
      .of_forall fun u => ⟨armed.cleared.extend u, armed.extend u⟩⟩

/-- A start that succeeds arms the watchdog, unless there is nothing to do. -/
theorem Controller.Starts.armed {qs : List Query} (h : c.Starts b w s (.ok ()) s₁ qs)
    (enabled : s₁.enabled = true) :
    s.initialised = true ∧ s.enabled = true ∨ Armed (b.record w qs) := by
  cases h with
  | already started => exact .inl ⟨started, enabled⟩
  | off => cases enabled
  | latched _ _ armed => exact .inr (armed_ready armed)
  | sampled _ _ armed =>
    rw [Board.record_append]
    exact .inr ((armed_ready armed).extend _)

/-- A start that succeeds has had no register access fail. -/
theorem Controller.Starts.accepted {qs : List Query} (h : c.Starts b w s (.ok ()) s₁ qs) :
    Accepted (b.record w qs) := by
  obtain ⟨x, performed, hx⟩ := h.performs
  cases x with
  | error e => cases hx
  | ok u => exact performed.complete.2

/-- No device is accessed within a start after a register access has failed. -/
theorem Controller.Starts.unfailed {r : Except Halt Unit} {qs : List Query}
    (h : c.Starts b w s r s₁ qs) : Guarded Query.isDevice Accepted (b.record w qs) := by
  rcases h.accesses with early | ⟨-, rfl, -⟩
  · exact .of_none fun q hq => isDevice_of_untouched (untouched_ready c q (early.subset hq))
  · exact .of_accepted h.accepted

/-! ## After the start -/

theorem untouched_duty : ∀ q ∈ dutyAccesses, q.touches = false := by decide

theorem cleared_duty {table : BandTable} (refreshed : (b.round table w).refresh = .ok ()) :
    Cleared (b.record w dutyAccesses) := by
  have duty := bus_duty table refreshed []
  rw [List.append_nil] at duty
  refine ⟨0x01, ?_⟩
  rw [show busTrace (b.record w dutyAccesses) = _ from duty]
  exact List.mem_cons_self

theorem accepted_duty {table : BandTable} {status : Nat}
    (refreshed : (b.round table w).refresh = .ok ())
    (read : (b.round table w).status = .ok status) : Accepted (b.record w dutyAccesses) := by
  have duty := bus_duty table refreshed []
  rw [List.append_nil, read] at duty
  rw [Accepted, show busTrace (b.record w dutyAccesses) = _ from duty]
  exact List.forall_mem_cons.2 ⟨rfl, List.forall_mem_singleton.2 rfl⟩

/-- Devices cannot refuse a register access. -/
theorem accepted_met {table : BandTable} {status : Nat} {devices : List Query}
    (refreshed : (b.round table w).refresh = .ok ())
    (read : (b.round table w).status = .ok status) (onDevices : OnDevices devices) :
    Accepted (b.record w (dutyAccesses ++ devices)) := by
  rw [Board.record_append, accepted_append]
  exact ⟨accepted_duty refreshed read, accepted_of_onDevices onDevices⟩

/-- Nothing is touched after the start before the timer has been reset. -/
theorem Controller.Duty.guarded {r : Except Halt PassReport} {qs : List Query}
    (h : c.Duty b w s r qs) : Guarded Query.touches Cleared (b.record w qs) := by
  have later {table : BandTable} (refreshed : (b.round table w).refresh = .ok ())
      (rs : List Query) : Guarded Query.touches Cleared (b.record w (dutyAccesses ++ rs)) := by
    rw [Board.record_append, guarded_append]
    exact ⟨.of_none untouched_duty, .of_forall fun u => (cleared_duty refreshed).extend u⟩
  cases h with
  | disabled => exact .of_none (List.forall_mem_nil _)
  | unrefreshed => exact .of_none (List.forall_mem_singleton.2 rfl)
  | statusUnreadable _ refreshed => exact later refreshed []
  | met _ refreshed => exact later refreshed _
  | latching _ refreshed =>
    rw [List.append_assoc]
    exact later refreshed _

/-- No device is accessed after the start once a register access has failed. -/
theorem Controller.Duty.unfailed {r : Except Halt PassReport} {qs : List Query}
    (h : c.Duty b w s r qs) : Guarded Query.isDevice Accepted (b.record w qs) := by
  cases h with
  | disabled => exact .of_none (List.forall_mem_nil _)
  | unrefreshed => exact .of_none (List.forall_mem_singleton.2 rfl)
  | statusUnreadable => exact .of_none fun q hq => isDevice_of_untouched (untouched_duty q hq)
  | met _ refreshed read onDevices =>
    exact .of_accepted (accepted_met refreshed read onDevices)
  | latching _ refreshed read _ onDevices =>
    rw [Board.record_append, guarded_append]
    refine ⟨.of_accepted (accepted_met refreshed read onDevices), .of_none fun q hq => ?_⟩
    obtain ⟨r, -, rfl⟩ := latch_accesses hq
    rfl

/-- A disabled pass accesses nothing after its start. -/
theorem Controller.Duty.enabled_or_nil {r : Except Halt PassReport} {qs : List Query}
    (h : c.Duty b w s r qs) : s.enabled = true ∨ qs = [] := by
  cases h with
  | disabled => exact .inr rfl
  | unrefreshed on | statusUnreadable on | met on | latching on => exact .inl on

/-! ## Whole passes -/

section Course

variable {s' : ControlState} {r : Except Halt PassReport} {qs : List Query} {armedBefore : Prop}

theorem Controller.Ends.enabled (h : c.Ends b w s r s' qs) : s'.enabled = s.enabled := by
  cases h with
  | managed on clear rest => cases rest <;> rfl
  | _ => rfl

/-- Nothing is touched in a pass before the watchdog has been reset in it, and armed in it or
before. -/
theorem Controller.Course.guarded (h : c.Course b w s r s' qs)
    (before : s.initialised = true → s.enabled = true → armedBefore) :
    Guarded Query.touches (fun u => Cleared u ∧ (armedBefore ∨ Armed u)) (b.record w qs) := by
  cases h with
  | vain start => exact start.guarded.mono fun u h => ⟨h.1, .inr h.2⟩
  | done start ends =>
    rw [Board.record_append, guarded_append]
    refine ⟨start.guarded.mono fun u h => ⟨h.1, .inr h.2⟩, ?_⟩
    rcases ends.duty.enabled_or_nil with enabled | rfl
    · have duty := ends.duty.guarded
      rcases start.armed enabled with ⟨started, on⟩ | armed
      · exact duty.mono fun u h => ⟨h.append _, .inl (before started on)⟩
      · exact duty.mono fun u h => ⟨h.append _, .inr (armed.extend u)⟩
    · exact .of_none (List.forall_mem_nil _)

/-- No device is accessed in a pass after a register access has failed. -/
theorem Controller.Course.unfailed (h : c.Course b w s r s' qs) :
    Guarded Query.isDevice Accepted (b.record w qs) := by
  cases h with
  | vain start => exact start.unfailed
  | done start ends =>
    rw [Board.record_append, guarded_append]
    exact ⟨start.unfailed, ends.duty.unfailed.mono fun u h =>
      accepted_append.2 ⟨start.accepted, h⟩⟩

/-- A pass that leaves an enabled controller started finds its watchdog armed, or arms it. -/
theorem Controller.Course.armed (h : c.Course b w s r s' qs)
    (before : s.initialised = true → s.enabled = true → armedBefore)
    (started : s'.initialised = true) (enabled : s'.enabled = true) :
    armedBefore ∨ Armed (b.record w qs) := by
  cases h with
  | vain start =>
    rw [start.flags_vain.1] at started
    cases started
  | done start ends =>
    rw [ends.enabled] at enabled
    rcases start.armed enabled with ⟨started, on⟩ | armed
    · exact .inl (before started on)
    · rw [Board.record_append]
      exact .inr (armed.extend _)

end Course

/-- What a pass owes to the watchdog, which may have been armed before. -/
structure WatchdogFirst (armedBefore : Prop) (t : List Entry) : Prop where
  /-- The timer has been reset in the pass before anything is touched. -/
  cleared : Guarded Query.touches Cleared t
  /-- The watchdog has been armed before anything is touched. -/
  armed : Guarded Query.touches (fun u => armedBefore ∨ Armed u) t
  /-- No device is accessed once a register access has failed, be it a reset or another one. -/
  halted : ∀ u q e v, t = u ++ .asked (.register q) (.error e) :: v →
    ∀ d a, .asked (.device d) a ∉ v

namespace Turn

variable {armedBefore : Prop}

/-- A pass whose watchdog has been armed before, if the pass does not have to start. -/
theorem watchdogFirst (t : Turn c b)
    (before : t.before.initialised = true → t.before.enabled = true → armedBefore) :
    WatchdogFirst armedBefore t.trace := by
  obtain ⟨qs, hcourse, hpass⟩ := t.course
  have recorded : answers t.trace = b.record t.world qs := hpass.answers
  have guarded : Guarded Query.touches (fun u => Cleared u ∧ (armedBefore ∨ Armed u)) t.trace := by
    refine .of_answers (recorded ▸ hcourse.guarded before) fun u hu => ?_
    unfold Cleared Armed at hu ⊢
    rwa [busTrace_answers] at hu
  have unfailed : Guarded Query.isDevice Accepted t.trace := by
    refine .of_answers (recorded ▸ hcourse.unfailed) fun u hu => ?_
    unfold Accepted at hu ⊢
    rwa [busTrace_answers] at hu
  refine ⟨guarded.mono fun u h => h.1, guarded.mono fun u h => h.2, ?_⟩
  intro u q e v split d a hmem
  obtain ⟨between, rest, rfl⟩ := List.append_of_mem hmem
  have accepted := unfailed (u ++ .asked (.register q) (.error e) :: between) (.device d) a rest
    (by rw [split, List.append_assoc]; rfl) rfl
  have refused : BusEntry.mk q (.error e) ∈
      busTrace (u ++ .asked (.register q) (.error e) :: between) :=
    mem_busTrace.2 (List.mem_append_right _ List.mem_cons_self)
  cases accepted _ refused

theorem armed_after (t : Turn c b)
    (before : t.before.initialised = true → t.before.enabled = true → armedBefore)
    (started : t.after.initialised = true) (enabled : t.after.enabled = true) :
    armedBefore ∨ Armed t.trace := by
  obtain ⟨qs, hcourse, hpass⟩ := t.course
  have bus : busTrace t.trace = busTrace (b.record t.world qs) := hpass.bus
  rw [Armed, bus]
  exact hcourse.armed before started enabled

end Turn

/-- **The watchdog comes first**, in every pass of every history from a fresh state. -/
theorem watchdog_first (c : Controller) (b : Board σ) (ws : List σ) {k : Nat} {t : Turn c b}
    (h : (c.history b .fresh ws)[k]? = some t) :
    WatchdogFirst (∃ i u, i < k ∧ (c.history b .fresh ws)[i]? = some u ∧ Armed u.trace)
      t.trace := by
  have armed := Controller.history_induction
    (P := fun k s => s.initialised = true → s.enabled = true →
      ∃ i u, i < k ∧ (c.history b .fresh ws)[i]? = some u ∧ Armed u.trace)
    (fun started => absurd started (by decide)) (fun k t hk before started enabled => ?step) h
  · exact t.watchdogFirst armed
  case step =>
    rcases t.armed_after before started enabled with ⟨i, u, earlier, hu, armed⟩ | armed
    · exact ⟨i, u, Nat.lt_succ_of_lt earlier, hu, armed⟩
    · exact ⟨k, t, k.lt_succ_self, hk, armed⟩

open Bench in
/-- The second pass on a cool bench surveys it, relying on the watchdog that the first has armed. -/
theorem watchdog_first_in_second_pass :
    let ws := [World.patched 80 [], World.patched 80 []]
    ∃ t, (trialController.history trialBoard .fresh ws)[1]? = some t ∧
      t.result = .ok (.managed .low none false false none) ∧
      WatchdogFirst (∃ i u, i < 1 ∧ (trialController.history trialBoard .fresh ws)[i]? = some u ∧
        Armed u.trace) t.trace := by
  intro ws
  have second : (trialController.history trialBoard .fresh ws)[1]? = some _ := rfl
  exact ⟨_, second, by rfl, watchdog_first trialController trialBoard ws second⟩

end SwitchThermal
