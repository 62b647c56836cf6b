import SwitchThermal.Proofs.Start

/-!
# The duty of a pass

The ends of a pass seen from the register bus. An enabled pass has a duty before all else: it resets
the watchdog and reads the status. Fans, supplies and sensors are accessed after that, and the
shutdown is latched last.

* `Controller.Duty` — the ways in which a pass of a started controller meets its registers.
* `Controller.Ends.duty` — every end is one of them.
* `Controller.Course.registers` — the registers that a whole pass accesses.
-/

set_option autoImplicit false

namespace SwitchThermal

variable {σ : Type} {b : Board σ} {w : σ} {s s' : ControlState} {r : Except Halt PassReport}
  {qs : List Query}

/-- Are all the accesses made to devices? -/
def OnDevices (qs : List Query) : Prop :=
  ∀ q ∈ qs, ∃ d, q = .device d

namespace OnDevices

variable {qs rs : List Query}

theorem nil : OnDevices [] := List.forall_mem_nil _

theorem cons {d : DeviceQuery} (h : OnDevices qs) : OnDevices (.device d :: qs) :=
  List.forall_mem_cons.2 ⟨⟨d, rfl⟩, h⟩

theorem append (h : OnDevices qs) (h' : OnDevices rs) : OnDevices (qs ++ rs) :=
  List.forall_mem_append.2 ⟨h, h'⟩

theorem map {κ : Type} (f : κ → DeviceQuery) (l : List κ) :
    OnDevices (l.map fun k => .device (f k)) := by
  intro q hq
  obtain ⟨k, -, rfl⟩ := List.mem_map.1 hq
  exact ⟨f k, rfl⟩

theorem bus (h : OnDevices qs) : b.bus w qs = [] := by
  refine Board.bus_of_silent fun q hq r hr => ?_
  obtain ⟨d, rfl⟩ := h q hq
  cases hr

end OnDevices

theorem onDevices_survey : OnDevices surveyAccesses :=
  (OnDevices.map _ _).append (OnDevices.map _ _)

theorem onDevices_sweep (before : List (Sensor × Except Fault SensorReading)) (x : Sensor) :
    OnDevices (sweepAccesses before x) := by
  have sensors := OnDevices.map fun e : Sensor × Except Fault SensorReading => .sensor e.1
  exact (sensors before).append (.cons .nil)

/-- Setting the chassis speed and then the fans of the supplies. -/
theorem onDevices_set {view : SupplyView} {percentage : Nat} {rest : List Query}
    (follow : ∀ q ∈ rest, FollowAccess view percentage q) :
    OnDevices (speedAccess .primary percentage :: rest) := by
  refine .cons fun q hq => ?_
  cases follow q hq with
  | state p => exact ⟨_, rfl⟩
  | speed records p => exact ⟨_, rfl⟩
  | set view p => exact ⟨_, rfl⟩

/-- The register accesses of the control loop: arming, duty and latch. -/
def Watchdog.queries : List RegisterQuery :=
  armQueries ++ refreshQuery :: statusQuery :: latchQueries

namespace Controller

variable {c : Controller}

/-- How a pass of a started controller meets its registers: with a result, after some accesses. -/
inductive Duty (c : Controller) (b : Board σ) (w : σ) (s : ControlState) :
    Except Halt PassReport → List Query → Prop where
  | disabled (off : s.enabled = false) : Duty c b w s (.ok .disabled) []
  | unrefreshed {e : Fault} (on : s.enabled = true)
      (refused : (b.round c.table w).refresh = .error e) :
      Duty c b w s (.error (.fault e)) [.register Watchdog.refreshQuery]
  | statusUnreadable {e : Fault} (on : s.enabled = true)
      (refreshed : (b.round c.table w).refresh = .ok ())
      (unreadable : (b.round c.table w).status = .error e) :
      Duty c b w s (.error (.fault e)) dutyAccesses
  /-- Nothing but devices is accessed after the duty. -/
  | met {status : Nat} {r : Except Halt PassReport} {devices : List Query} (on : s.enabled = true)
      (refreshed : (b.round c.table w).refresh = .ok ())
      (read : (b.round c.table w).status = .ok status) (onDevices : OnDevices devices) :
      Duty c b w s r (dutyAccesses ++ devices)
  /-- The shutdown is latched in the end. -/
  | latching {status : Nat} {devices : List Query} {report : PassReport} (on : s.enabled = true)
      (refreshed : (b.round c.table w).refresh = .ok ())
      (read : (b.round c.table w).status = .ok status)
      (unlatched : Watchdog.isLatched status = false) (onDevices : OnDevices devices) :
      Duty c b w s
        (((b.latch (b.after w (dutyAccesses ++ devices))).1.mapError Halt.fault).map fun _ => report)
        (dutyAccesses ++ devices ++ (b.latch (b.after w (dutyAccesses ++ devices))).2)

theorem onDevices_round (c : Controller) :
    OnDevices (surveyAccesses ++ c.table.relevant.map sensorAccess) :=
  onDevices_survey.append (.map _ _)

/-- **Every end of a pass meets its registers in one of the ways.** -/
theorem Ends.duty (h : c.Ends b w s r s' qs) : c.Duty b w s r qs := by
  cases h with
  | disabled off => exact .disabled off
  | unrefreshed on refused => exact .unrefreshed on refused
  | statusUnreadable on refreshed unreadable => exact .statusUnreadable on refreshed unreadable
  | standing on latched reported =>
    obtain ⟨refreshed, status, read, -⟩ := latched
    have met := Duty.met (c := c) (r := .ok (.shutdownLatched false)) on refreshed read .nil
    rwa [List.append_nil] at met
  | fullSpeed on latched unreported accepted follow =>
    obtain ⟨refreshed, status, read, -⟩ := latched
    exact .met on refreshed read (onDevices_set follow)
  | fullSpeedRefused on latched unreported refused =>
    obtain ⟨refreshed, status, read, -⟩ := latched
    exact .met on refreshed read (.cons .nil)
  | fanUnreadable on awake unreadable =>
    obtain ⟨refreshed, status, read, -⟩ := awake
    have fans := OnDevices.map fun e : Fan × FanReading => .fan e.1
    exact .met on refreshed read ((fans _).append (.cons .nil))
  | managed on clear rest =>
    obtain ⟨refreshed, status, read, unlatched⟩ := clear.toAwake
    cases rest with
    | tripped split first trip =>
      rw [accessesTo, List.append_assoc dutyAccesses]
      exact .latching on refreshed read unlatched (onDevices_survey.append (onDevices_sweep _ _))
    | overflow calm exceeds | kept calm keep =>
      rw [roundAccesses, List.append_assoc]
      exact .met on refreshed read c.onDevices_round
    | applied calm change accepted follow =>
      rw [roundAccesses, List.append_assoc, List.append_assoc, ← List.append_assoc surveyAccesses]
      exact .met on refreshed read (c.onDevices_round.append (onDevices_set follow))
    | refused calm change refused =>
      rw [roundAccesses, List.append_assoc, List.append_assoc, ← List.append_assoc surveyAccesses]
      exact .met on refreshed read (c.onDevices_round.append (.cons .nil))

/-! ## The registers of a pass -/

theorem StartAccess.registers {q : RegisterQuery} (h : c.StartAccess (.register q)) :
    q ∈ Watchdog.queries := by
  cases h with
  | arm _ listed => exact List.mem_append_left _ listed
  | status => decide

theorem Duty.registers (h : c.Duty b w s r qs) {q : RegisterQuery} (hq : .register q ∈ qs) :
    q ∈ Watchdog.queries := by
  have duty : ∀ q, .register q ∈ dutyAccesses → q ∈ Watchdog.queries := by
    intro q hq
    have listed : q = Watchdog.refreshQuery ∨ q = Watchdog.statusQuery := by
      simpa [dutyAccesses] using hq
    rcases listed with rfl | rfl <;> decide
  have elsewhere {devices : List Query} (onDevices : OnDevices devices) :
      Query.register q ∉ devices := by
    intro hq
    obtain ⟨d, heq⟩ := onDevices _ hq
    cases heq
  cases h with
  | disabled => cases hq
  | unrefreshed =>
    cases List.mem_singleton.1 hq
    decide
  | statusUnreadable => exact duty q hq
  | met on refreshed read onDevices =>
    exact duty q ((List.mem_append.1 hq).resolve_right (elsewhere onDevices))
  | latching on refreshed read unlatched onDevices =>
    rcases List.mem_append.1 hq with hq | hq
    · exact duty q ((List.mem_append.1 hq).resolve_right (elsewhere onDevices))
    · obtain ⟨q', listed, heq⟩ := latch_accesses hq
      cases heq
      exact List.mem_append_right _ (List.mem_cons_of_mem _ (List.mem_cons_of_mem _ listed))

/-- **A pass accesses the registers of the watchdog and of the latch only**, in a few ways. -/
theorem Course.registers (h : c.Course b w s r s' qs) {q : RegisterQuery}
    (hq : .register q ∈ qs) : q ∈ Watchdog.queries := by
  cases h with
  | vain start => exact (start.access _ hq).registers
  | done start ends =>
    rcases List.mem_append.1 hq with hq | hq
    · exact (start.access _ hq).registers
    · exact ends.duty.registers hq

end Controller

end SwitchThermal
