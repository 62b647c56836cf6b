import SwitchThermal.Proofs.Duty
import SwitchThermal.Proofs.History

/-!
# The register protocol of a pass

A pass accesses at most three rows of registers, in this order: the start row, if it starts the
controller and the control file enables the algorithm; the duty row, if the algorithm is enabled;
and the latch row, if a sensor passes its shutdown limit.

* `startScript`, `dutyScript` — the first two rows in full; `Watchdog.latchQueries` is the third.
* `Turn.startRow`, `Turn.dutyRow` — the rows that a pass has before it.
* `Turn.performs` — the rows are performed one after another, up to the first failure.
* `register_protocol` — order, completeness, and what a failure and a success come to.
-/

set_option autoImplicit false

namespace SwitchThermal

variable {σ : Type} {b : Board σ} {c : Controller} {w : σ} {s : ControlState}

/-! ## The rows -/

/-- A start arms the watchdog and reads the status. -/
def startScript : List RegisterQuery :=
  Watchdog.armQueries ++ [Watchdog.statusQuery]

/-- The duty resets the watchdog and reads the status. -/
def dutyScript : List RegisterQuery :=
  [Watchdog.refreshQuery, Watchdog.statusQuery]

/-- The rows in full. -/
example : startScript ++ dutyScript ++ Watchdog.latchQueries =
    [.write 0x2500 0xc9 1 14, .write 0x2500 0xcb 1 0x90, .write 0x2500 0xc8 1 0xee,
     .write 0x2500 0xc7 1 0x11, .read 0x2500 0x2e 1, .write 0x2500 0xc7 1 0x01,
     .read 0x2500 0x2e 1, .write 0x2500 0x2f 1 0xfb, .write 0x2500 0x2e 1 0xfb] := rfl

namespace Turn

/-- Does the pass have to arm the watchdog? -/
def starting (t : Turn c b) : Bool :=
  !t.before.initialised && (c.settings b t.world).enabled

/-- Is the algorithm enabled in the pass? -/
def enabled (t : Turn c b) : Bool :=
  if t.before.initialised then t.before.enabled else (c.settings b t.world).enabled

/-- The start row, if the pass has to go through it. -/
def startRow (t : Turn c b) : List RegisterQuery :=
  if t.starting then startScript else []

/-- The duty row, if the pass has to go through it. -/
def dutyRow (t : Turn c b) : List RegisterQuery :=
  if t.enabled then dutyScript else []

end Turn

/-! ## Performing the rows -/

/-- Once the watchdog is armed, the status decides how the start row ends. -/
theorem performed_ready
    (armed : (b.attempt (b.after w [c.settingsAccess]) Watchdog.armQueries).1 = .ok ()) :
    Performed startScript (b.bus w c.readyAccesses)
      ((b (.register Watchdog.statusQuery) (b.after w c.armingAccesses)).answer.map
        fun _ => ()) := by
  have arming := b.performed_attempt (b.after w [c.settingsAccess]) Watchdog.armQueries
  rw [armed, Board.attempt_snd armed] at arming
  rw [Controller.readyAccesses, Board.bus_append]
  exact arming.append (.single b _ _)

/-- A start performs the start row. -/
theorem Controller.Starts.performs {r : Except Halt Unit} {s₁ : ControlState} {qs : List Query}
    (h : c.Starts b w s r s₁ qs) :
    ∃ x, Performed (Turn.startRow (c := c) (b := b) ⟨w, s⟩) (b.bus w qs) x ∧
      r = x.mapError Halt.fault := by
  have row (unstarted : s.initialised = false) (enabled : (c.settings b w).enabled = true) :
      Turn.startRow (c := c) (b := b) ⟨w, s⟩ = startScript := by
    simp [Turn.startRow, Turn.starting, unstarted, enabled]
  cases h with
  | already started =>
    have none : Turn.startRow (c := c) (b := b) ⟨w, s⟩ = [] := by
      simp [Turn.startRow, Turn.starting, started]
    rw [none]
    exact ⟨.ok (), .done, rfl⟩
  | off unstarted disabled =>
    have none : Turn.startRow (c := c) (b := b) ⟨w, s⟩ = [] := by
      simp [Turn.startRow, Turn.starting, disabled]
    rw [none]
    exact ⟨.ok (), .done, rfl⟩
  | unarmed unstarted enabled refused =>
    have arming := b.performed_attempt (b.after w [c.settingsAccess]) Watchdog.armQueries
    rw [refused] at arming
    rw [row unstarted enabled]
    exact ⟨_, arming.append_stop _, rfl⟩
  | statusUnreadable unstarted enabled armed unreadable =>
    have ready := performed_ready armed
    rw [unreadable] at ready
    rw [row unstarted enabled]
    exact ⟨_, ready, rfl⟩
  | latched unstarted enabled armed read latched =>
    have ready := performed_ready armed
    rw [read] at ready
    rw [row unstarted enabled]
    exact ⟨_, ready, rfl⟩
  | sampled unstarted enabled armed read unlatched =>
    have ready := performed_ready armed
    have sensors : OnDevices (c.table.relevant.map sensorAccess) := .map _ _
    rw [read] at ready
    rw [row unstarted enabled, Board.bus_append, sensors.bus, List.append_nil]
    exact ⟨_, ready, rfl⟩

/-- The entries of a pass whose watchdog is reset. -/
theorem bus_duty (table : BandTable) (refreshed : (b.round table w).refresh = .ok ())
    (qs : List Query) :
    b.bus w (dutyAccesses ++ qs) = .written Watchdog.clearOffset 0x01 ::
      ⟨Watchdog.statusQuery, (b.round table w).status⟩ :: b.bus (b.after w dutyAccesses) qs := by
  have accepted : (b (.register Watchdog.refreshQuery) w).answer = .ok () := refreshed
  rw [dutyAccesses, List.cons_append, Board.bus_register, accepted]
  rfl

/-- After its start, a pass performs the duty row, and then perhaps the latch row. -/
theorem Controller.Duty.performs {r : Except Halt PassReport} {qs : List Query}
    (h : c.Duty b w s r qs) :
    ∃ row x, Performed ((if s.enabled then dutyScript else []) ++ row) (b.bus w qs) x ∧
      (∀ e, x = .error e → r = .error (.fault e)) ∧
      (row = [] ∨ row = Watchdog.latchQueries ∧ s.enabled = true ∧ ∃ status rest,
        b.bus w qs = .written Watchdog.clearOffset 0x01 :: .status status :: rest ∧
          Watchdog.isLatched status = false) := by
  cases h with
  | disabled off =>
    rw [off]
    exact ⟨[], .ok (), .done, nofun, .inl rfl⟩
  | unrefreshed on refused =>
    have resetting : (b (.register Watchdog.refreshQuery) w).answer = .error _ := refused
    rw [on, Board.bus_register, resetting]
    exact ⟨[], _, .stop _, fun e he => by cases he; rfl, .inl rfl⟩
  | statusUnreadable on refreshed unreadable =>
    have duty := bus_duty c.table refreshed []
    rw [List.append_nil, unreadable] at duty
    rw [on, duty]
    exact ⟨[], _, .next (.stop _), fun e he => by cases he; rfl, .inl rfl⟩
  | met on refreshed read onDevices =>
    rw [on, bus_duty c.table refreshed, read, onDevices.bus]
    exact ⟨[], .ok (), .next (.next .done), nofun, .inl rfl⟩
  | @latching status devices report on refreshed read unlatched onDevices =>
    have latch := b.performed_attempt (b.after w (dutyAccesses ++ devices)) Watchdog.latchQueries
    rw [← Board.latch_eq_attempt] at latch
    rw [on, Board.bus_append, bus_duty c.table refreshed, read, onDevices.bus]
    refine ⟨Watchdog.latchQueries, _, .next (.next latch), fun e he => ?_,
      .inr ⟨rfl, rfl, status, _, rfl, unlatched⟩⟩
    rw [he]
    rfl

/-! ## The flags of a pass -/

/-- A start that succeeds leaves the controller started and decides whether the algorithm runs. -/
theorem Controller.Starts.flags {s₁ : ControlState} {qs : List Query}
    (h : c.Starts b w s (.ok ()) s₁ qs) :
    s₁.initialised = true ∧ s₁.enabled = Turn.enabled (c := c) (b := b) ⟨w, s⟩ := by
  cases h with
  | already started => simp [Turn.enabled, started]
  | off unstarted disabled => simp [Turn.enabled, unstarted, disabled]
  | latched unstarted enabled | sampled unstarted enabled => simp [Turn.enabled, unstarted, enabled]

/-- Only a start in which the watchdog is to be armed can be in vain, and it starts nothing. -/
theorem Controller.Starts.flags_vain {s₁ : ControlState} {qs : List Query} {halt : Halt}
    (h : c.Starts b w s (.error halt) s₁ qs) :
    s₁.initialised = false ∧ Turn.starting (c := c) (b := b) ⟨w, s⟩ = true := by
  cases h with
  | unarmed unstarted enabled | statusUnreadable unstarted enabled =>
    exact ⟨unstarted, by simp [Turn.starting, unstarted, enabled]⟩

/-- After its start, a pass leaves the flag of the start alone. -/
theorem Controller.Ends.initialised {s' : ControlState} {r : Except Halt PassReport}
    {qs : List Query} (h : c.Ends b w s r s' qs) : s'.initialised = s.initialised := by
  cases h with
  | managed on clear rest => cases rest <;> rfl
  | _ => rfl

/-! ## Whole passes -/

namespace Turn

/-- The rows of a pass are performed one after another, up to the first failure, and the latch row
only after an unlatched status. -/
theorem performs (t : Turn c b) :
    ∃ row x, Performed (t.startRow ++ t.dutyRow ++ row) (busTrace t.trace) x ∧
      (∀ e, x = .error e → t.result = .error (.fault e)) ∧
      (row = [] ∨ row = Watchdog.latchQueries ∧ ∃ before status rest,
        busTrace t.trace = before ++ .status status :: rest ∧
          before.length + 1 = (t.startRow ++ t.dutyRow).length ∧
          Watchdog.isLatched status = false) := by
  obtain ⟨qs, hcourse, hpass⟩ := t.course
  rw [show busTrace t.trace = b.bus t.world qs from hpass.bus]
  generalize t.result = r, t.after = s' at hcourse ⊢
  cases hcourse with
  | vain start =>
    obtain ⟨x, performed, hx⟩ := start.performs
    cases x with
    | ok u => cases hx
    | error e =>
      cases hx
      exact ⟨[], _, (performed.append_stop _).append_stop _, fun _ he => by cases he; rfl, .inl rfl⟩
  | @done s₁ _ starts _ _ start ends =>
    obtain ⟨x, performed, hx⟩ := start.performs
    cases x with
    | error e => cases hx
    | ok u =>
      obtain ⟨row, x, duty, fault, latch⟩ := ends.duty.performs
      rw [start.flags.2] at duty latch
      have rows := performed.append duty
      rw [← List.append_assoc] at rows
      rw [Board.bus_append]
      refine ⟨row, x, rows, fault, latch.imp_right ?_⟩
      rintro ⟨hrow, enabled, status, rest, hbus, unlatched⟩
      have started : (b.bus t.world starts).length = t.startRow.length := by
        rw [← performed.complete.1, List.length_map]
      have duty : t.dutyRow.length = 2 := by
        rw [dutyRow, show t.enabled = true from enabled]
        rfl
      refine ⟨hrow, b.bus t.world starts ++ [.written Watchdog.clearOffset 0x01], status, rest,
        ?_, ?_, unlatched⟩
      · rw [hbus, List.append_assoc]
        rfl
      · rw [List.length_append, List.length_append, started, duty]
        rfl

/-- When the controller is started after a pass. -/
theorem initialised_iff (t : Turn c b) :
    t.after.initialised = true ↔ t.before.initialised = true ∨
      (c.settings b t.world).enabled = false ∨
      ∃ u v, busTrace t.trace = u ++ v ∧ u.map BusEntry.query = startScript ∧
        ∀ e ∈ u, e.accepted = true := by
  obtain ⟨qs, hcourse, hpass⟩ := t.course
  rw [show busTrace t.trace = b.bus t.world qs from hpass.bus]
  generalize t.result = r, t.after = s' at hcourse ⊢
  cases hcourse with
  | vain start =>
    obtain ⟨unstarted, starting⟩ := start.flags_vain
    obtain ⟨x, performed, hx⟩ := start.performs
    rw [startRow, if_pos starting] at performed
    have fresh : t.before.initialised = false ∧ (c.settings b t.world).enabled = true := by
      simpa [Turn.starting] using starting
    constructor
    · intro started
      rw [unstarted] at started
      cases started
    · rintro (started | disabled | ⟨u, v, split, made, accepted⟩)
      · rw [fresh.1] at started
        cases started
      · rw [fresh.2] at disabled
        cases disabled
      · have none := performed.nothing_left split made
        rw [none, List.append_nil] at split
        rw [performed.ok_of_accepted (split ▸ accepted)] at hx
        cases hx
  | done start ends =>
    obtain ⟨x, performed, hx⟩ := start.performs
    have started : s'.initialised = true := by
      rw [ends.initialised, start.flags.1]
    refine iff_of_true started ?_
    cases starting : t.starting with
    | false =>
      rw [Turn.starting, Bool.and_eq_false_iff, Bool.not_eq_false'] at starting
      exact starting.imp_right .inl
    | true =>
      rw [startRow, if_pos starting] at performed
      cases x with
      | error e => cases hx
      | ok u =>
        obtain ⟨made, accepted⟩ := performed.complete
        exact .inr (.inr ⟨_, _, b.bus_append t.world _ _, made, accepted⟩)

end Turn

/-- What a pass does on the register bus. -/
structure RegisterProtocol (t : Turn c b) : Prop where
  /-- The accesses are the first ones of the three rows, in order. -/
  order : (busTrace t.trace).map BusEntry.query <+:
    t.startRow ++ t.dutyRow ++ Watchdog.latchQueries
  /-- The latch row follows a status that is not latched. -/
  latch : ∀ u v, busTrace t.trace = u ++ v → v ≠ [] →
    u.map BusEntry.query = t.startRow ++ t.dutyRow →
    ∃ before status, u = before ++ [.status status] ∧
      Watchdog.isLatched status = false
  /-- A failing access is the last one, and its fault is how the pass ends. -/
  stops : ∀ u v q e, busTrace t.trace = u ++ ⟨q, .error e⟩ :: v →
    v = [] ∧ t.result = .error (.fault e)
  /-- Without a failing access the first two rows are complete. -/
  complete : (∀ e ∈ busTrace t.trace, e.accepted = true) →
    t.startRow ++ t.dutyRow <+: (busTrace t.trace).map BusEntry.query
  /-- The controller is started afterwards if it was before, or if the control file disables the
  algorithm, or if the whole start row was accepted; and not otherwise. -/
  initialised : t.after.initialised = true ↔ t.before.initialised = true ∨
    (c.settings b t.world).enabled = false ∨
    ∃ u v, busTrace t.trace = u ++ v ∧ u.map BusEntry.query = startScript ∧
      ∀ e ∈ u, e.accepted = true

/-- **Every pass keeps to the register protocol**, whatever the board answers. -/
theorem register_protocol (t : Turn c b) : RegisterProtocol t := by
  obtain ⟨row, x, performed, fault, latch⟩ := t.performs
  refine ⟨?order, ?latch, ?stops, ?complete, t.initialised_iff⟩
  case order =>
    rcases latch with rfl | ⟨rfl, -⟩
    · rw [List.append_nil] at performed
      exact performed.queries.trans (List.prefix_append _ _)
    · exact performed.queries
  case latch =>
    intro u v hsplit hv hu
    rcases latch with rfl | ⟨-, before, status, rest, hbus, hlength, unlatched⟩
    · rw [List.append_nil] at performed
      exact absurd (performed.nothing_left hsplit hu) hv
    · have length : u.length = (before ++ [BusEntry.status status]).length := by
        rw [List.length_append, List.length_singleton, hlength, ← hu, List.length_map]
      have split : u ++ v = (before ++ [BusEntry.status status]) ++ rest := by
        rw [← hsplit, hbus, List.append_assoc]
        rfl
      exact ⟨before, status, (List.append_inj split length).1, unlatched⟩
  case stops =>
    intro u v q e hsplit
    obtain ⟨hv, hx⟩ := performed.fault hsplit
    exact ⟨hv, fault e hx⟩
  case complete =>
    intro accepted
    have ok := performed.ok_of_accepted accepted
    rw [ok] at performed
    rw [performed.complete.1]
    exact List.prefix_append _ _

end SwitchThermal
