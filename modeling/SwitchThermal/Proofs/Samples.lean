import SwitchThermal.Proofs.Guarded
import SwitchThermal.Proofs.Pass

/-!
# What a trace shows of fans and supplies

The readings of a pass as its trace holds them, for statements about what the pass has seen rather
than about what the board would have shown.

* `sampledFans`, `sampledSupplies`, `sampledSpeed`, `sampledProblem` — the readings of chassis fans
  and supplies in a trace, and the speed and the problems that they show.
* `Commanded` — a chassis speed that was asked for, accepted or not.
* `Managed.sampled` — a pass that gets as far as the sensors has sampled the whole round.
* `Ends.sampled_cases` — any other pass either reads no chassis fan, or stops at one and asks for no
  speed.
-/

set_option autoImplicit false

namespace SwitchThermal

variable {σ : Type} {b : Board σ} {w : σ}

/-! ## Samples -/

/-- The reading of a chassis fan, if the entry is one. -/
def fanSample : Entry → Option (Fan × FanReading)
  | .asked (.device (.fan (.chassis slot))) (.ok r) => some (.chassis slot, r)
  | _ => none

/-- The answer of a supply, if the entry is one. -/
def supplySample : Entry → Option (PowerSupply × Except Fault SupplyReading)
  | .asked (.device (.supply p)) a => some (p, a)
  | _ => none

/-- The reading of a sensor, if the entry is one. -/
def sensorSample : Entry → Option (Sensor × SensorReading)
  | .asked (.device (.sensor x)) (.ok reading) => some (x, reading)
  | _ => none

/-- The readings of chassis fans in a trace. -/
def sampledFans (t : List Entry) : List (Fan × FanReading) :=
  t.filterMap fanSample

/-- The answers of supplies in a trace. -/
def sampledSupplies (t : List Entry) : List (PowerSupply × Except Fault SupplyReading) :=
  t.filterMap supplySample

/-- The chassis speed that a trace shows: that of the last healthy chassis fan, or zero. -/
def sampledSpeed (t : List Entry) : Nat :=
  speedOf 0 (sampledFans t)

/-- Does a trace show a problem with a chassis fan or a supply? -/
def sampledProblem (t : List Entry) : Bool :=
  fanProblem (sampledFans t) || supplyProblem (sampledSupplies t)

/-- A chassis fan was asked for a speed. -/
def Commanded (v : Nat) (t : List Entry) : Prop :=
  ∃ slot, speedAccess (.chassis slot) v ∈ Program.queries t

theorem sampledFans_append (t u : List Entry) :
    sampledFans (t ++ u) = sampledFans t ++ sampledFans u :=
  List.filterMap_append

theorem sampledSupplies_append (t u : List Entry) :
    sampledSupplies (t ++ u) = sampledSupplies t ++ sampledSupplies u :=
  List.filterMap_append

theorem mem_sensorSamples {t : List Entry} {x : Sensor} {reading : SensorReading}
    (h : .asked (sensorAccess x) (.ok reading) ∈ t) :
    (x, reading) ∈ t.filterMap sensorSample :=
  List.mem_filterMap.2 ⟨_, h, rfl⟩

/-- Not a reading of a chassis fan or a supply. -/
structure Unsampled (q : Query) : Prop where
  fan : ∀ slot, q ≠ fanAccess (.chassis slot)
  supply : ∀ p, q ≠ supplyAccess p

theorem Unsampled.fanSample {q : Query} (h : Unsampled q) (a : Except Fault q.Payload) :
    fanSample (.asked q a) = none := by
  unfold SwitchThermal.fanSample
  split
  · rename_i slot r heq
    cases heq
    exact absurd rfl (h.fan slot)
  · rfl

theorem Unsampled.supplySample {q : Query} (h : Unsampled q) (a : Except Fault q.Payload) :
    supplySample (.asked q a) = none := by
  unfold SwitchThermal.supplySample
  split
  · rename_i p a heq
    cases heq
    exact absurd rfl (h.supply p)
  · rfl

theorem sampledFans_unsampled {qs : List Query} (h : ∀ q ∈ qs, Unsampled q) :
    sampledFans (b.record w qs) = [] :=
  Board.filterMap_record_nil fun q hq => (h q hq).fanSample

theorem sampledSupplies_unsampled {qs : List Query} (h : ∀ q ∈ qs, Unsampled q) :
    sampledSupplies (b.record w qs) = [] :=
  Board.filterMap_record_nil fun q hq => (h q hq).supplySample

/-- A trace that begins with answers that are no samples samples what the rest does. -/
theorem sampled_of_unsampled {t rest : List Entry} {qs : List Query}
    (entries : answers t = b.record w qs ++ rest) (unsampled : ∀ q ∈ qs, Unsampled q) :
    sampledFans t = sampledFans rest ∧ sampledSupplies t = sampledSupplies rest := by
  constructor
  · rw [sampledFans, ← filterMap_answers (fun _ => rfl), entries]
    show sampledFans _ = _
    rw [sampledFans_append, sampledFans_unsampled unsampled, List.nil_append]
  · rw [sampledSupplies, ← filterMap_answers (fun _ => rfl), entries]
    show sampledSupplies _ = _
    rw [sampledSupplies_append, sampledSupplies_unsampled unsampled, List.nil_append]

theorem sampledFans_record_fans {l : List Fan} (h : ∀ f ∈ l, f.isChassis = true) :
    sampledFans (b.record w (l.map fanAccess)) = readings (b.pollFans l w) := by
  induction l generalizing w with
  | nil => rfl
  | cons f l ih =>
    have hchassis := h f List.mem_cons_self
    have rest := ih (w := (b (fanAccess f) w).next) fun f hf => h f (List.mem_cons_of_mem _ hf)
    cases f with
    | supply p => cases hchassis
    | chassis slot =>
      rw [Board.pollFans, poll, readings_cons, List.map_cons, Board.record_cons]
      show sampledFans ([_] ++ _) = _
      rw [sampledFans_append, rest]
      congr 1
      cases (b (fanAccess (.chassis slot)) w).answer <;> rfl

theorem sampledSupplies_record_supplies (l : List PowerSupply) (w : σ) :
    sampledSupplies (b.record w (l.map supplyAccess)) = b.pollSupplies l w := by
  induction l generalizing w with
  | nil => rfl
  | cons p l ih => exact congrArg ((p, (b (supplyAccess p) w).answer) :: ·) (ih _)

theorem sampledFans_supplies (l : List PowerSupply) (w : σ) :
    sampledFans (b.record w (l.map supplyAccess)) = [] := by
  refine Board.filterMap_record_nil fun q hq a => ?_
  obtain ⟨p, -, rfl⟩ := List.mem_map.1 hq
  rfl

theorem sampledSupplies_fans (l : List Fan) (w : σ) :
    sampledSupplies (b.record w (l.map fanAccess)) = [] := by
  refine Board.filterMap_record_nil fun q hq a => ?_
  obtain ⟨f, -, rfl⟩ := List.mem_map.1 hq
  rfl

theorem asked_of_pollSensors {l : List Sensor} {x : Sensor} {a : Except Fault SensorReading}
    (h : (x, a) ∈ b.pollSensors l w) :
    .asked (sensorAccess x) a ∈ b.record w (l.map sensorAccess) := by
  induction l generalizing w with
  | nil => cases h
  | cons y l ih =>
    rcases List.mem_cons.1 h with heq | h
    · cases heq
      exact List.mem_cons_self
    · exact List.mem_cons_of_mem _ (ih h)

theorem pollSensors_of_asked {l : List Sensor} {x : Sensor} {a : Except Fault SensorReading}
    (h : .asked (sensorAccess x) a ∈ b.record w (l.map sensorAccess)) :
    (x, a) ∈ b.pollSensors l w := by
  induction l generalizing w with
  | nil => cases h
  | cons y l ih =>
    rcases List.mem_cons.1 h with heq | h
    · cases heq
      exact List.mem_cons_self
    · exact List.mem_cons_of_mem _ (ih h)

/-! ## Kinds of accesses -/

theorem unsampled_register (q : RegisterQuery) : Unsampled (.register q) :=
  ⟨fun _ => nofun, fun _ => nofun⟩

theorem unsampled_sensor (x : Sensor) : Unsampled (sensorAccess x) :=
  ⟨fun _ => nofun, fun _ => nofun⟩

theorem unsampled_speed (f : Fan) (v : Nat) : Unsampled (speedAccess f v) :=
  ⟨fun _ => nofun, fun _ => nofun⟩

theorem unsampled_duty {q : Query} (h : q ∈ dutyAccesses) : Unsampled q := by
  rcases List.mem_cons.1 h with rfl | h
  · exact unsampled_register _
  · rw [List.mem_singleton.1 h]
    exact unsampled_register _

theorem unsampled_sweep {before : List (Sensor × Except Fault SensorReading)} {x : Sensor}
    {q : Query} (h : q ∈ sweepAccesses before x) : Unsampled q := by
  rcases List.mem_append.1 h with h | h
  · obtain ⟨e, -, rfl⟩ := List.mem_map.1 h
    exact unsampled_sensor e.1
  · rw [List.mem_singleton.1 h]
    exact unsampled_sensor x

theorem FollowAccess.unsampled {records : List SupplyReading} {percentage : Nat} {q : Query}
    (h : FollowAccess (.sampled records) percentage q) : Unsampled q := by
  cases h with
  | speed p => exact ⟨fun _ => nofun, fun _ => nofun⟩
  | set p => exact unsampled_speed _ _

namespace Controller

variable {c : Controller} {s s' : ControlState} {r : Except Halt PassReport} {qs : List Query}

theorem StartAccess.unsampled {q : Query} (h : c.StartAccess q) : Unsampled q := by
  cases h with
  | settings => exact ⟨fun _ => nofun, fun _ => nofun⟩
  | arm q => exact unsampled_register q
  | status => exact unsampled_register _
  | sensor x => exact unsampled_sensor x

/-- A pass that gets as far as the sensors begins with the reset, the status and the survey, and
samples no fan or supply after it. -/
theorem Managed.accesses (h : c.Managed b w s r s' qs) :
    ∃ rest, qs = dutyAccesses ++ surveyAccesses ++ rest ∧ ∀ q ∈ rest, Unsampled q := by
  have sensors : ∀ q ∈ c.table.relevant.map sensorAccess, Unsampled q := by
    intro q hq
    obtain ⟨x, -, rfl⟩ := List.mem_map.1 hq
    exact unsampled_sensor x
  cases h with
  | tripped split first trip =>
    refine ⟨_, List.append_assoc _ _ _, fun q hq => ?_⟩
    rcases List.mem_append.1 hq with hq | hq
    · exact unsampled_sweep hq
    · obtain ⟨q', -, rfl⟩ := latch_accesses hq
      exact unsampled_register q'
  | overflow calm exceeds => exact ⟨_, rfl, sensors⟩
  | kept calm keep => exact ⟨_, rfl, sensors⟩
  | applied calm change accepted follow =>
    refine ⟨_, List.append_assoc _ _ _, fun q hq => ?_⟩
    rcases List.mem_append.1 hq with hq | hq
    · exact sensors q hq
    · rcases List.mem_cons.1 hq with rfl | hq
      · exact unsampled_speed _ _
      · exact (follow q hq).unsampled
  | refused calm change refused =>
    refine ⟨_, List.append_assoc _ _ _, fun q hq => ?_⟩
    rcases List.mem_append.1 hq with hq | hq
    · exact sensors q hq
    · rw [List.mem_singleton.1 hq]
      exact unsampled_speed _ _

/-- When no sensor trips, it reads them all. -/
theorem Managed.accesses_of_calm (h : c.Managed b w s r s' qs)
    (calm : ∀ e ∈ (b.round c.table w).sensors, trips e = false) :
    ∃ rest, qs = c.roundAccesses ++ rest := by
  cases h with
  | tripped split first trip =>
    rw [calm _ (split ▸ List.mem_append_right _ List.mem_cons_self)] at trip
    cases trip
  | overflow | kept => exact ⟨[], (List.append_nil _).symm⟩
  | applied | refused => exact ⟨_, rfl⟩

/-- **A pass that gets as far as the sensors has sampled the whole round.** -/
theorem Managed.sampled (h : c.Managed b w s r s' qs) :
    sampledFans (b.record w qs) = readings (b.round c.table w).fans ∧
      sampledSupplies (b.record w qs) = (b.round c.table w).supplies := by
  obtain ⟨rest, rfl, unsampled⟩ := h.accesses
  unfold surveyAccesses
  rw [Board.record_append, Board.record_append, Board.record_append, Board.after_append]
  simp only [sampledFans_append, sampledSupplies_append]
  rw [sampledFans_unsampled fun q => unsampled_duty, sampledFans_unsampled unsampled,
    sampledFans_supplies, sampledSupplies_unsampled fun q => unsampled_duty,
    sampledSupplies_unsampled unsampled, sampledSupplies_fans, sampledSupplies_record_supplies,
    sampledFans_record_fans (by decide)]
  simp only [List.nil_append, List.append_nil]
  refine ⟨rfl, ?_⟩
  rw [← Board.after_append]
  rfl

/-- Fans of which one is unreadable: only the ones before it are sampled. -/
theorem sampled_fault {rs : List (Fan × FanReading)} {f : Fan} {e : Fault}
    {rest : List (Fan × Except Fault FanReading)}
    (h : (b.round c.table w).fans = rs.map answered ++ (f, .error e) :: rest) :
    sampledFans (b.record w (dutyAccesses ++ (rs.map (fun x => fanAccess x.1) ++ [fanAccess f]))) =
        rs ∧
      ∃ f' ∈ Fan.chassisFans, f' ∉ rs.map Prod.fst := by
  have split : b.pollFans Fan.chassisFans (b.after w dutyAccesses) =
      (rs.map answered ++ [(f, .error e)]) ++ rest := by
    rw [List.append_assoc]
    exact h
  have names : (rs.map answered ++ [(f, (.error e : Except Fault FanReading))]).map Prod.fst =
      rs.map Prod.fst ++ [f] := by
    simp [answered]
  obtain ⟨listed, first⟩ := poll_prefix split
  rw [names] at listed first
  have chassis : ∀ f' ∈ rs.map Prod.fst ++ [f], f'.isChassis = true := by
    intro f' hf'
    have hmem : f' ∈ Fan.chassisFans := by
      rw [listed]
      exact List.mem_append_left _ hf'
    obtain ⟨slot, -, rfl⟩ := List.mem_map.1 hmem
    rfl
  constructor
  · rw [Board.record_append, sampledFans_append, sampledFans_unsampled fun q => unsampled_duty,
      List.nil_append, show rs.map (fun x => fanAccess x.1) ++ [fanAccess f] =
        (rs.map Prod.fst ++ [f]).map fanAccess by simp, sampledFans_record_fans chassis,
      show b.pollFans _ _ = _ from first, readings_append, readings_map_answered]
    exact List.append_nil rs
  · have once : (rs.map Prod.fst ++ [f] ++ rest.map Prod.fst).Nodup := by
      rw [← listed]
      decide
    refine ⟨f, ?_, fun again => ?_⟩
    · rw [listed]
      exact List.mem_append_left _ (List.mem_append_right _ List.mem_cons_self)
    · exact (List.nodup_append.1 (List.nodup_append.1 once).1).2.2 f again f List.mem_cons_self rfl

/-- **A pass that does not get as far as the sensors** reads no chassis fan, or stops at one before
it has read them all and asks for no speed. -/
theorem Ends.sampled_cases (h : c.Ends b w s r s' qs) :
    sampledFans (b.record w qs) = [] ∨
      ((∃ f ∈ Fan.chassisFans, f ∉ (sampledFans (b.record w qs)).map Prod.fst) ∧
        ∀ f v, speedAccess f v ∉ qs) ∨
      (s.enabled = true ∧ (b.round c.table w).Clear ∧ c.Managed b w s r s' qs) := by
  cases h with
  | disabled off => exact .inl rfl
  | unrefreshed on refused =>
    left
    refine sampledFans_unsampled fun q hq => ?_
    rw [List.mem_singleton.1 hq]
    exact unsampled_register _
  | statusUnreadable on refreshed unreadable =>
    exact .inl (sampledFans_unsampled fun q => unsampled_duty)
  | standing on latched reported => exact .inl (sampledFans_unsampled fun q => unsampled_duty)
  | fullSpeed on latched unreported accepted follow =>
    left
    rw [Board.record_append, sampledFans_append, sampledFans_unsampled fun q => unsampled_duty]
    refine Board.filterMap_record_nil fun q hq a => ?_
    rcases List.mem_cons.1 hq with rfl | hq
    · exact (unsampled_speed _ _).fanSample a
    · cases follow q hq with
      | state p => rfl
      | set p => rfl
  | fullSpeedRefused on latched unreported refused =>
    left
    refine sampledFans_unsampled fun q hq => ?_
    rcases List.mem_append.1 hq with hq | hq
    · exact unsampled_duty hq
    · rw [List.mem_singleton.1 hq]
      exact unsampled_speed _ _
  | fanUnreadable on awake unreadable =>
    obtain ⟨sampled, partly⟩ := sampled_fault unreadable
    refine .inr (.inl ⟨by rw [sampled]; exact partly, fun f v hv => ?_⟩)
    rcases List.mem_append.1 hv with hv | hv
    · cases sample_of_duty hv
    · rcases List.mem_append.1 hv with hv | hv
      · obtain ⟨x, -, hx⟩ := List.mem_map.1 hv
        cases hx
      · cases List.mem_singleton.1 hv
  | managed on clear rest => exact .inr (.inr ⟨on, clear, rest⟩)

/-- When no sensor trips, the chassis speed that is asked for is the command. -/
theorem Managed.commanded_iff (h : c.Managed b w s r s' qs)
    (calm : ∀ e ∈ (b.round c.table w).sensors, trips e = false) (v : Nat) :
    (∃ slot, speedAccess (.chassis slot) v ∈ qs) ↔
      c.command (b.round c.table w) s = .ok (some v) := by
  have notSampled : ∀ slot, speedAccess (.chassis slot) v ∉ c.roundAccesses := by
    intro slot hv
    cases sample_of_round hv
  cases h with
  | tripped split first trip =>
    rw [calm _ (split ▸ List.mem_append_right _ List.mem_cons_self)] at trip
    cases trip
  | overflow calm exceeds =>
    rw [exceeds]
    exact ⟨fun ⟨slot, hv⟩ => absurd hv (notSampled slot), fun h => by cases h⟩
  | kept calm keep =>
    rw [keep]
    exact ⟨fun ⟨slot, hv⟩ => absurd hv (notSampled slot), fun h => by cases h⟩
  | applied calm change accepted follow =>
    rw [change]
    constructor
    · rintro ⟨slot, hv⟩
      rcases List.mem_append.1 hv with hv | hv
      · exact absurd hv (notSampled slot)
      · rcases List.mem_cons.1 hv with heq | hv
        · cases heq
          rfl
        · cases follow _ hv
    · intro heq
      cases heq
      exact ⟨0, List.mem_append_right _ List.mem_cons_self⟩
  | refused calm change refused =>
    rw [change]
    constructor
    · rintro ⟨slot, hv⟩
      rcases List.mem_append.1 hv with hv | hv
      · exact absurd hv (notSampled slot)
      · cases List.mem_singleton.1 hv
        rfl
    · intro heq
      cases heq
      exact ⟨0, List.mem_append_right _ List.mem_cons_self⟩

/-- The accesses up to the choice of a speed include the readings of the sensors. -/
theorem asked_of_round {x : Sensor} {a : Except Fault SensorReading} (rest : List Query)
    (h : (x, a) ∈ (b.round c.table w).sensors) :
    .asked (sensorAccess x) a ∈ b.record w (c.roundAccesses ++ rest) := by
  rw [roundAccesses, Board.record_append, Board.record_append]
  exact List.mem_append_left _ (List.mem_append_right _ (asked_of_pollSensors h))

/-- In a pass that gets as far as the sensors, the answers of the sensors up to the first trip are
in the record. -/
theorem Managed.sensors_recorded (h : c.Managed b w s r s' qs) :
    (∃ x reading, trips (x, .ok reading) = true ∧
        .asked (sensorAccess x) (.ok reading) ∈ b.record w qs) ∨
      ∀ x a, (x, a) ∈ (b.round c.table w).sensors →
        trips (x, a) = false ∧ .asked (sensorAccess x) a ∈ b.record w qs := by
  cases h with
  | @tripped before after x reading split first trip =>
    refine .inl ⟨x, reading, trip, ?_⟩
    have polled : b.pollSensors c.table.relevant (b.after w (dutyAccesses ++ surveyAccesses)) =
        (before ++ [(x, .ok reading)]) ++ after := by
      rw [List.append_assoc]
      exact split
    obtain ⟨-, upTo⟩ := poll_prefix polled
    have hx : (x, .ok reading) ∈ b.pollSensors
        ((before ++ [(x, (.ok reading : Except Fault SensorReading))]).map Prod.fst)
        (b.after w (dutyAccesses ++ surveyAccesses)) := by
      rw [show b.pollSensors _ _ = _ from upTo]
      exact List.mem_append_right _ List.mem_cons_self
    have accesses : sweepAccesses before x =
        ((before ++ [(x, (.ok reading : Except Fault SensorReading))]).map Prod.fst).map
          sensorAccess := by
      simp [sweepAccesses]
    rw [accessesTo, accesses, Board.record_append, Board.record_append]
    exact List.mem_append_left _ (List.mem_append_right _ (asked_of_pollSensors hx))
  | overflow calm exceeds =>
    refine .inr fun x a hx => ⟨calm _ hx, ?_⟩
    rw [← List.append_nil c.roundAccesses]
    exact asked_of_round [] hx
  | kept calm keep =>
    refine .inr fun x a hx => ⟨calm _ hx, ?_⟩
    rw [← List.append_nil c.roundAccesses]
    exact asked_of_round [] hx
  | applied calm change accepted follow => exact .inr fun x a hx => ⟨calm _ hx, asked_of_round _ hx⟩
  | refused calm change refused => exact .inr fun x a hx => ⟨calm _ hx, asked_of_round _ hx⟩

end Controller

end SwitchThermal
