import SwitchThermal.Controller
import SwitchThermal.Proofs.Run

/-!
# What a board shows in a pass

A pass resets the watchdog, reads the status, the chassis fans, the supplies and then the sensors
that steer the fans. The round of a board is what it answers to these accesses made in this order,
each in the state that the ones before it left. A pass that stops early makes fewer of them; the
round says what the others would have been.

* `poll`, `readings` — the answers to accesses of one kind, and those of them that are readings.
* `Board.round` — the round.
* `speedOf`, `fanProblem`, `supplyProblem` — what the surveys make of the answers.
* `Round.Awake`, `Round.Latched`, `Round.Clear` — how far the round lets a pass get.
-/

set_option autoImplicit false

namespace SwitchThermal

variable {σ κ α : Type}

/-! ## Accesses of one kind -/

/-- The answers to accesses of one kind, made one after another. -/
def poll (reply : κ → σ → Reply σ α) : List κ → σ → List (κ × Except Fault α)
  | [], _ => []
  | k :: rest, w => (k, (reply k w).answer) :: poll reply rest (reply k w).next

/-- An answer that is a reading. -/
def answered (e : κ × α) : κ × Except Fault α := (e.1, .ok e.2)

/-- The answers that are readings. -/
def readings (l : List (κ × Except Fault α)) : List (κ × α) :=
  l.filterMap fun e => e.2.toOption.map fun a => (e.1, a)

/-- Is every answer a reading? -/
def allReadable (l : List (κ × Except Fault α)) : Bool :=
  l.all fun e => e.2.isOk

theorem map_fst_poll (reply : κ → σ → Reply σ α) (l : List κ) (w : σ) :
    (poll reply l w).map Prod.fst = l := by
  induction l generalizing w with
  | nil => rfl
  | cons k rest ih => rw [poll, List.map_cons, ih]

/-- The board has given every answer of a poll, in some state. -/
theorem mem_poll {reply : κ → σ → Reply σ α} {l : List κ} {w : σ} {k : κ} {a : Except Fault α}
    (h : (k, a) ∈ poll reply l w) : ∃ w', (reply k w').answer = a := by
  induction l generalizing w with
  | nil => cases h
  | cons j l ih =>
    rcases List.mem_cons.1 h with heq | h
    · cases heq
      exact ⟨w, rfl⟩
    · exact ih h

/-- The first answers are those to the first accesses. -/
theorem poll_prefix {reply : κ → σ → Reply σ α} {l : List κ} {w : σ}
    {first rest : List (κ × Except Fault α)} (h : poll reply l w = first ++ rest) :
    l = first.map Prod.fst ++ rest.map Prod.fst ∧
      poll reply (first.map Prod.fst) w = first := by
  induction first generalizing l w with
  | nil =>
    refine ⟨?_, rfl⟩
    rw [← map_fst_poll reply l w, h]
    rfl
  | cons e first ih =>
    cases l with
    | nil => cases h
    | cons k l =>
      obtain ⟨rfl, htail⟩ := List.cons.inj h
      obtain ⟨hl, hfirst⟩ := ih htail
      exact ⟨congrArg (k :: ·) hl, congrArg ((k, (reply k w).answer) :: ·) hfirst⟩

/-- Accesses that leave the board as it is. -/
theorem poll_of_still {reply : κ → σ → Reply σ α} {w : σ} (h : ∀ k, (reply k w).next = w)
    (l : List κ) : poll reply l w = l.map fun k => (k, (reply k w).answer) := by
  induction l with
  | nil => rfl
  | cons k rest ih => rw [poll, h, ih, List.map_cons]

/-- The record of accesses made one after another holds the answers of their poll. -/
theorem Board.record_poll (b : Board σ) (access : κ → Query) (reply : κ → σ → Reply σ α)
    (entry : κ × Except Fault α → Entry) (l : List κ) (w : σ)
    (answer : ∀ k w, .asked (access k) (b (access k) w).answer = entry (k, (reply k w).answer))
    (next : ∀ k w, (b (access k) w).next = (reply k w).next) :
    b.record w (l.map access) = (poll reply l w).map entry := by
  induction l generalizing w with
  | nil => rfl
  | cons k rest ih => rw [List.map_cons, record_cons, poll, List.map_cons, answer, next, ih]

theorem readings_append (l l' : List (κ × Except Fault α)) :
    readings (l ++ l') = readings l ++ readings l' :=
  List.filterMap_append

theorem readings_cons (e : κ × Except Fault α) (l : List (κ × Except Fault α)) :
    readings (e :: l) = readings [e] ++ readings l :=
  readings_append [e] l

@[simp] theorem readings_map_answered (rs : List (κ × α)) :
    readings (rs.map answered) = rs := by
  induction rs with
  | nil => rfl
  | cons e rest ih => simpa [readings, answered, Except.toOption] using ih

theorem mem_readings {l : List (κ × Except Fault α)} {k : κ} {a : α} :
    (k, a) ∈ readings l ↔ (k, .ok a) ∈ l := by
  simp only [readings, List.mem_filterMap, Option.map_eq_some_iff, Prod.mk.injEq]
  constructor
  · rintro ⟨⟨k', x⟩, hmem, a', ha, rfl, rfl⟩
    cases x with
    | error e => cases ha
    | ok x =>
      cases ha
      exact hmem
  · intro h
    exact ⟨_, h, a, rfl, rfl, rfl⟩

/-- Either all answers are readings, or a first one is not. -/
theorem readable_or_fault (l : List (κ × Except Fault α)) :
    (∃ rs : List (κ × α), l = rs.map answered) ∨
      ∃ (rs : List (κ × α)) (k : κ) (e : Fault) (rest : List (κ × Except Fault α)),
        l = rs.map answered ++ (k, .error e) :: rest := by
  induction l with
  | nil => exact .inl ⟨[], rfl⟩
  | cons x rest ih =>
    obtain ⟨k, a | a⟩ := x
    · exact .inr ⟨[], k, a, rest, rfl⟩
    · rcases ih with ⟨rs, rfl⟩ | ⟨rs, j, e, tail, rfl⟩
      · exact .inl ⟨(k, a) :: rs, rfl⟩
      · exact .inr ⟨(k, a) :: rs, j, e, tail, rfl⟩

theorem allReadable_iff {l : List (κ × Except Fault α)} :
    allReadable l = true ↔ ∃ rs : List (κ × α), l = rs.map answered := by
  constructor
  · intro h
    rcases readable_or_fault l with hrs | ⟨rs, k, e, rest, rfl⟩
    · exact hrs
    · simp [allReadable, Except.isOk, Except.toBool] at h
  · rintro ⟨rs, rfl⟩
    simp [allReadable, answered, Except.isOk, Except.toBool]

/-! ## The accesses of a pass -/

/-- The reading of a fan as an access. -/
abbrev fanAccess (f : Fan) : Query := .device (.fan f)

/-- The reading of a supply as an access. -/
abbrev supplyAccess (p : PowerSupply) : Query := .device (.supply p)

/-- The reading of a sensor as an access. -/
abbrev sensorAccess (x : Sensor) : Query := .device (.sensor x)

/-- The speed setting of a fan as an access. -/
abbrev speedAccess (f : Fan) (percentage : Nat) : Query := .device (.setFan f percentage)

/-- The reset of the watchdog and the read of the status. -/
def dutyAccesses : List Query :=
  [.register Watchdog.refreshQuery, .register Watchdog.statusQuery]

/-- The readings of the chassis fans and the supplies. -/
def surveyAccesses : List Query :=
  Fan.chassisFans.map fanAccess ++ PowerSupply.all.map supplyAccess

/-- The accesses by which a pass finds out how the board is. -/
inductive SampleAccess : Query → Prop where
  | refresh : SampleAccess (.register Watchdog.refreshQuery)
  | status : SampleAccess (.register Watchdog.statusQuery)
  | fan (slot : Fin 8) : SampleAccess (fanAccess (.chassis slot))
  | supply (p : PowerSupply) : SampleAccess (supplyAccess p)
  | sensor (x : Sensor) : SampleAccess (sensorAccess x)

theorem sample_of_duty {q : Query} (h : q ∈ dutyAccesses) : SampleAccess q := by
  rcases List.mem_cons.1 h with rfl | h
  · exact .refresh
  · obtain rfl := List.mem_singleton.1 h
    exact .status

theorem sample_of_chassisFan {f : Fan} (h : f ∈ Fan.chassisFans) : SampleAccess (fanAccess f) := by
  obtain ⟨slot, -, rfl⟩ := List.mem_map.1 h
  exact .fan slot

theorem sample_of_survey {q : Query} (h : q ∈ surveyAccesses) : SampleAccess q := by
  rcases List.mem_append.1 h with h | h
  · obtain ⟨f, hf, rfl⟩ := List.mem_map.1 h
    exact sample_of_chassisFan hf
  · obtain ⟨p, -, rfl⟩ := List.mem_map.1 h
    exact .supply p

/-- Is it a write to the shutdown latch or to its protection? -/
def RegisterQuery.writesLatch : RegisterQuery → Bool
  | .read .. => false
  | .write _ offset _ _ =>
    offset == Watchdog.protectOffset || offset == Watchdog.statusOffset

/-- No access of the sampling writes the latch. -/
theorem SampleAccess.not_latch {q : RegisterQuery} (h : SampleAccess (.register q)) :
    q.writesLatch = false := by
  cases h with
  | refresh => decide
  | status => decide

namespace Board

/-- The answers of fans read one after another. -/
def pollFans (b : Board σ) : List Fan → σ → List (Fan × Except Fault FanReading) :=
  poll fun f => b (fanAccess f)

/-- The answers of supplies read one after another. -/
def pollSupplies (b : Board σ) :
    List PowerSupply → σ → List (PowerSupply × Except Fault SupplyReading) :=
  poll fun p => b (supplyAccess p)

/-- The answers of sensors read one after another. -/
def pollSensors (b : Board σ) : List Sensor → σ → List (Sensor × Except Fault SensorReading) :=
  poll fun x => b (sensorAccess x)

end Board

/-- The answers to the accesses of a pass. -/
structure Round where
  /-- The answer to the reset of the watchdog. -/
  refresh : Except Fault Unit
  status : Except Fault Nat
  fans : List (Fan × Except Fault FanReading)
  supplies : List (PowerSupply × Except Fault SupplyReading)
  /-- The answers of the sensors that steer the fans, in table order. -/
  sensors : List (Sensor × Except Fault SensorReading)

/-- What a board answers to the accesses of a pass made in order. -/
def Board.round (b : Board σ) (table : BandTable) (w : σ) : Round where
  refresh := (b (.register Watchdog.refreshQuery) w).answer
  status := (b (.register Watchdog.statusQuery)
    (b.after w [.register Watchdog.refreshQuery])).answer
  fans := b.pollFans Fan.chassisFans (b.after w dutyAccesses)
  supplies := b.pollSupplies PowerSupply.all
    (b.after w (dutyAccesses ++ Fan.chassisFans.map fanAccess))
  sensors := b.pollSensors table.relevant (b.after w (dutyAccesses ++ surveyAccesses))

theorem mem_round_relevant {b : Board σ} {table : BandTable} {w : σ} {x : Sensor}
    {a : Except Fault SensorReading} (h : (x, a) ∈ (b.round table w).sensors) :
    x ∈ table.relevant := by
  have polled : (b.round table w).sensors.map Prod.fst = table.relevant := map_fst_poll _ _ _
  rw [← polled]
  exact List.mem_map_of_mem h

/-! ## Findings -/

/-- The speed of the last healthy fan, in percent; `start` if there is none. -/
def speedOf (start : Nat) (rs : List (Fan × FanReading)) : Nat :=
  rs.foldl (fun v e => if e.2.healthy e.1 then e.2.percentage else v) start

/-- Is one of the fans not healthy? -/
def fanProblem (rs : List (Fan × FanReading)) : Bool :=
  rs.any fun e => !e.2.healthy e.1

/-- Is one of the supplies unreadable or absent? -/
def supplyProblem (l : List (PowerSupply × Except Fault SupplyReading)) : Bool :=
  l.any fun e =>
    match e.2 with
    | .ok r => !r.present
    | .error _ => true

theorem fanProblem_eq_false_iff {rs : List (Fan × FanReading)} :
    fanProblem rs = false ↔ ∀ f r, (f, r) ∈ rs → r.present = true ∧ f.rpmValid r.rpm = true := by
  simp only [fanProblem, FanReading.healthy, List.any_eq_false, Bool.not_eq_true', Prod.forall,
    Bool.not_eq_false, Bool.and_eq_true]

theorem supplyProblem_eq_false_iff {l : List (PowerSupply × Except Fault SupplyReading)} :
    supplyProblem l = false ↔ ∀ p a, (p, a) ∈ l → ∃ r, a = .ok r ∧ r.present = true := by
  rw [supplyProblem, List.any_eq_false]
  constructor
  · intro h p a hmem
    have there := h (p, a) hmem
    cases a with
    | error e => exact absurd rfl there
    | ok r => exact ⟨r, rfl, by simpa using there⟩
  · rintro h ⟨p, a⟩ hmem
    obtain ⟨r, rfl, there⟩ := h p a hmem
    simp [there]

/-- The state with fan readings remembered. -/
def ControlState.rememberFans (s : ControlState) (rs : List (Fan × FanReading)) : ControlState :=
  { s with previousFans := rs.foldl (fun m e => m.insert e.1 e.2) s.previousFans }

/-- The state with supply readings remembered. -/
def ControlState.rememberSupplies (s : ControlState) (rs : List (PowerSupply × SupplyReading)) :
    ControlState :=
  { s with previousSupplies := rs.foldl (fun m e => m.insert e.1 e.2) s.previousSupplies }

namespace Round

/-- The watchdog can be reset, and the shutdown has not latched. -/
structure Awake (R : Round) : Prop where
  refreshed : R.refresh = .ok ()
  unlatched : ∃ status, R.status = .ok status ∧ Watchdog.isLatched status = false

/-- The watchdog can be reset, and the shutdown has latched. -/
structure Latched (R : Round) : Prop where
  refreshed : R.refresh = .ok ()
  latched : ∃ status, R.status = .ok status ∧ Watchdog.isLatched status = true

/-- A shutdown that has latched does not let a pass go on. -/
theorem Latched.not_awake {R : Round} (h : R.Latched) : ¬ R.Awake := by
  obtain ⟨-, status, read, latched⟩ := h
  rintro ⟨-, status', read', unlatched⟩
  rw [read] at read'
  cases read'
  rw [latched] at unlatched
  cases unlatched

/-- The watchdog can be reset, the shutdown has not latched, and all chassis fans are readable. -/
structure Clear (R : Round) : Prop extends R.Awake where
  readable : allReadable R.fans = true

/-- The chassis speed that a pass goes by: that of the last healthy chassis fan, in percent, or
zero. -/
def speed (R : Round) : Nat := speedOf 0 (readings R.fans)

/-- Has a chassis fan or a supply a problem? -/
def problem (R : Round) : Bool :=
  fanProblem (readings R.fans) || supplyProblem R.supplies

end Round

end SwitchThermal
