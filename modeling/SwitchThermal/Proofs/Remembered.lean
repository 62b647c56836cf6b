import SwitchThermal.Proofs.Guarded
import SwitchThermal.Proofs.History
import SwitchThermal.Proofs.Samples

/-!
# What a pass remembers of fans and supplies

A pass remembers the readings of its survey, and nothing else changes what it remembers. So the
memory of a pass is the one before it with the readings in its trace written over it.

* `Controller.Ends.fans_remembered`, `Controller.Ends.supplies_remembered` — the part after the
  start.
* `Turn.fans_remembered`, `Turn.supplies_remembered` — the whole pass. The supplies that are asked
  about for a latched shutdown are not remembered.
* `Turn.fan_remembered`, `Turn.supply_remembered` — what is remembered of one of them.
-/

set_option autoImplicit false

namespace SwitchThermal

variable {σ : Type} {b : Board σ} {c : Controller} {w : σ} {s s' : ControlState}
  {r : Except Halt PassReport} {qs : List Query}

/-! ## What is remembered -/

/-- What is remembered of a fan is the old reading or one of the new ones. -/
theorem ControlState.get?_rememberFans (s : ControlState) (rs : List (Fan × FanReading)) (f : Fan) :
    (s.rememberFans rs).previousFans.get? f = s.previousFans.get? f ∨
      ∃ reading, (s.rememberFans rs).previousFans.get? f = some reading ∧ (f, reading) ∈ rs :=
  Cells.get?_foldl_insert_cases rs s.previousFans f

theorem ControlState.get?_rememberSupplies (s : ControlState)
    (rs : List (PowerSupply × SupplyReading)) (p : PowerSupply) :
    (s.rememberSupplies rs).previousSupplies.get? p = s.previousSupplies.get? p ∨
      ∃ reading, (s.rememberSupplies rs).previousSupplies.get? p = some reading ∧
        (p, reading) ∈ rs :=
  Cells.get?_foldl_insert_cases rs s.previousSupplies p

/-- What a trace shows of a fan was answered. -/
theorem mem_sampledFans {t : List Entry} {f : Fan} {reading : FanReading}
    (h : (f, reading) ∈ sampledFans t) : .asked (fanAccess f) (.ok reading) ∈ t := by
  obtain ⟨e, hmem, he⟩ := List.mem_filterMap.1 h
  unfold fanSample at he
  split at he
  · cases he
    exact hmem
  · cases he

theorem mem_sampledSupplies {t : List Entry} {p : PowerSupply}
    {a : Except Fault SupplyReading} (h : (p, a) ∈ sampledSupplies t) :
    .asked (supplyAccess p) a ∈ t := by
  obtain ⟨e, hmem, he⟩ := List.mem_filterMap.1 h
  unfold supplySample at he
  split at he
  · cases he
    exact hmem
  · cases he

/-! ## Parts of a pass -/

namespace Controller

/-- The memory after a pass that gets as far as the sensors. -/
theorem Managed.remembered (h : c.Managed b w s r s' qs) :
    s'.previousFans =
        (s.rememberFans (readings (b.round c.table w).fans)).previousFans ∧
      s'.previousSupplies =
        (s.rememberSupplies (readings (b.round c.table w).supplies)).previousSupplies := by
  cases h with
  | tripped | overflow | kept | applied | refused => exact ⟨rfl, rfl⟩

/-- **The fans that are remembered** are those in the trace. -/
theorem Ends.fans_remembered (h : c.Ends b w s r s' qs) :
    s'.previousFans = (s.rememberFans (sampledFans (b.record w qs))).previousFans := by
  have none (unread : sampledFans (b.record w qs) = []) :
      s.previousFans = (s.rememberFans (sampledFans (b.record w qs))).previousFans := by
    rw [unread]
    rfl
  cases h with
  | disabled off => rfl
  | unrefreshed on refused => exact none rfl
  | statusUnreadable | standing => exact none (sampledFans_unsampled fun q => unsampled_duty)
  | fullSpeed on latched unreported accepted follow =>
    refine none ?_
    rw [Board.record_append, sampledFans_append, sampledFans_unsampled fun q => unsampled_duty]
    refine Board.filterMap_record_nil fun q hq a => ?_
    rcases List.mem_cons.1 hq with rfl | hq
    · exact (unsampled_speed _ _).fanSample a
    · cases follow q hq with
      | state p => rfl
      | set p => rfl
  | fullSpeedRefused on latched unreported refused =>
    refine none (sampledFans_unsampled fun q hq => ?_)
    rcases List.mem_append.1 hq with hq | hq
    · exact unsampled_duty hq
    · rw [List.mem_singleton.1 hq]
      exact unsampled_speed _ _
  | fanUnreadable on awake unreadable =>
    rw [(sampled_fault unreadable).1]
    rfl
  | managed on clear rest =>
    rw [rest.sampled.1]
    exact rest.remembered.1

/-- **The supplies that are remembered** are those in the trace, unless a latched shutdown has been
reported for the first time. -/
theorem Ends.supplies_remembered (h : c.Ends b w s r s' qs)
    (managed : r ≠ .ok (.shutdownLatched true)) :
    s'.previousSupplies =
      (s.rememberSupplies (readings (sampledSupplies (b.record w qs)))).previousSupplies := by
  have none (unread : sampledSupplies (b.record w qs) = []) :
      s.previousSupplies =
        (s.rememberSupplies (readings (sampledSupplies (b.record w qs)))).previousSupplies := by
    rw [unread]
    rfl
  cases h with
  | disabled off => rfl
  | unrefreshed on refused => exact none rfl
  | statusUnreadable | standing => exact none (sampledSupplies_unsampled fun q => unsampled_duty)
  | fullSpeed => exact absurd rfl managed
  | fullSpeedRefused on latched unreported refused =>
    refine none (sampledSupplies_unsampled fun q hq => ?_)
    rcases List.mem_append.1 hq with hq | hq
    · exact unsampled_duty hq
    · rw [List.mem_singleton.1 hq]
      exact unsampled_speed _ _
  | fanUnreadable on awake unreadable =>
    refine none ?_
    rw [Board.record_append, sampledSupplies_append,
      sampledSupplies_unsampled fun q => unsampled_duty, List.nil_append]
    refine Board.filterMap_record_nil fun q hq a => ?_
    rcases List.mem_append.1 hq with hq | hq
    · obtain ⟨x, -, rfl⟩ := List.mem_map.1 hq
      rfl
    · obtain rfl := List.mem_singleton.1 hq
      rfl
  | managed on clear rest =>
    rw [rest.sampled.2]
    exact rest.remembered.2

/-- A start remembers nothing. -/
theorem Starts.memory {x : Except Halt Unit} {s₁ : ControlState} (h : c.Starts b w s x s₁ qs) :
    s₁.previousFans = s.previousFans ∧ s₁.previousSupplies = s.previousSupplies := by
  cases h <;> exact ⟨rfl, rfl⟩

end Controller

/-! ## Whole passes -/

namespace Turn

variable {t : Turn c b} {starts : List Query}

/-- A start samples nothing, so a pass samples what the part after its start does. -/
theorem sampled_of_starts {x : Except Halt Unit} {s₁ : ControlState}
    (start : c.Starts b t.world t.before x s₁ starts)
    (entries : answers t.trace = b.record t.world (starts ++ qs)) :
    sampledFans t.trace = sampledFans (b.record (b.after t.world starts) qs) ∧
      sampledSupplies t.trace = sampledSupplies (b.record (b.after t.world starts) qs) := by
  rw [Board.record_append] at entries
  exact sampled_of_unsampled entries fun q hq => (start.access q hq).unsampled

/-- A start in vain leaves a pass without any sample. -/
theorem sampled_of_vain {x : Except Halt Unit} {s₁ : ControlState}
    (start : c.Starts b t.world t.before x s₁ starts)
    (entries : answers t.trace = b.record t.world starts) :
    sampledFans t.trace = [] ∧ sampledSupplies t.trace = [] := by
  rw [← List.append_nil starts] at entries
  exact sampled_of_starts start entries

/-- **What a pass remembers of the fans** is what it remembered before, and the readings in its
trace. -/
theorem fans_remembered (t : Turn c b) :
    t.after.previousFans = (t.before.rememberFans (sampledFans t.trace)).previousFans := by
  obtain ⟨starts, hstarts, -, ⟨h, -, hpass⟩ | ⟨-, qs, hends, hpass⟩⟩ := t.parts
  · rw [show t.after = t.ready from hpass.state, (sampled_of_vain hstarts hpass.answers).1]
    exact hstarts.memory.1
  · rw [(sampled_of_starts hstarts hpass.answers).1, hends.fans_remembered]
    exact congrArg (List.foldl _ · _) hstarts.memory.1

/-- **What it remembers of the supplies**, unless it has set full speed for a latched shutdown. -/
theorem supplies_remembered (t : Turn c b) (managed : t.result ≠ .ok (.shutdownLatched true)) :
    t.after.previousSupplies =
      (t.before.rememberSupplies (readings (sampledSupplies t.trace))).previousSupplies := by
  obtain ⟨starts, hstarts, -, ⟨h, -, hpass⟩ | ⟨-, qs, hends, hpass⟩⟩ := t.parts
  · rw [show t.after = t.ready from hpass.state, (sampled_of_vain hstarts hpass.answers).2]
    exact hstarts.memory.2
  · rw [(sampled_of_starts hstarts hpass.answers).2, hends.supplies_remembered managed]
    exact congrArg (List.foldl _ · _) hstarts.memory.2

/-- What the pass remembers of a fan. -/
theorem fan_remembered (t : Turn c b) (f : Fan) :
    t.after.previousFans.get? f = t.before.previousFans.get? f ∨
      ∃ reading, t.after.previousFans.get? f = some reading ∧
        .asked (fanAccess f) (.ok reading) ∈ t.trace := by
  rw [t.fans_remembered]
  refine (t.before.get?_rememberFans _ f).imp_right ?_
  rintro ⟨reading, remembered, sampled⟩
  exact ⟨reading, remembered, mem_sampledFans sampled⟩

/-- What it remembers of a supply, unless it has set full speed for a latched shutdown. -/
theorem supply_remembered (managed : t.result ≠ .ok (.shutdownLatched true)) (p : PowerSupply) :
    t.after.previousSupplies.get? p = t.before.previousSupplies.get? p ∨
      ∃ reading, t.after.previousSupplies.get? p = some reading ∧
        .asked (supplyAccess p) (.ok reading) ∈ t.trace := by
  rw [t.supplies_remembered managed]
  refine (t.before.get?_rememberSupplies _ p).imp_right ?_
  rintro ⟨reading, remembered, sampled⟩
  exact ⟨reading, remembered, mem_sampledSupplies (mem_readings.1 sampled)⟩

/-- The start of a pass remembers nothing. -/
theorem start_memory (t : Turn c b) :
    t.ready.previousFans = t.before.previousFans ∧
      t.ready.previousSupplies = t.before.previousSupplies := by
  obtain ⟨starts, hstarts, -⟩ := t.parts
  exact hstarts.memory

end Turn

end SwitchThermal
