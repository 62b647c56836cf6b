import SwitchThermal.Period
import SwitchThermal.Proofs.Frame
import SwitchThermal.Proofs.Round

/-!
# How an update of the panel ends

What an update of the LEDs and a scan of the rails access, and what the report of an update says about
the system LED.

* `WatchAccess` — the device accesses of the panel and of the rails: none of them sets a fan.
* `Panel.Updates` — how an update ends; it reads the status once, before it lights the system LED.
* `Panel.update_updates` — every update ends in one of the ways.
* `Panel.Updates.system_red` — under a latched shutdown the system LED is reported red.
-/

set_option autoImplicit false

namespace SwitchThermal

variable {σ α β : Type} {b : Board σ} {w : σ}

/-! ## Accesses -/

/-- The device accesses of the panel and of the rails. -/
inductive WatchAccess : Query → Prop where
  | fan (f : Fan) : WatchAccess (fanAccess f)
  | supply (p : PowerSupply) : WatchAccess (supplyAccess p)
  | sensor (x : Sensor) : WatchAccess (sensorAccess x)
  | rail (r : Rail) : WatchAccess (.device (.rail r))
  | light (led : Led) (mode : LedMode) : WatchAccess (.device (.setLed led mode))

namespace Panel

theorem fanHealthy_only (f : Fan) : (fanHealthy f).Only WatchAccess :=
  .device_bind (.fan f) (fun _ => .pure _) fun _ => .bind (.tell _) fun _ => .pure false

theorem supplyHealthy_only (p : PowerSupply) : (supplyHealthy p).Only WatchAccess :=
  .device_bind (.supply p) (fun _ => .pure _) fun _ => .bind (.tell _) fun _ => .pure false

theorem sensorHealthy_only (x : Sensor) : (sensorHealthy x).Only WatchAccess :=
  .device_bind (.sensor x) (fun _ => .pure _) fun _ => .bind (.tell _) fun _ => .pure false

theorem allHealthy_only {check : α → Program Bool} (h : ∀ a, (check a).Only WatchAccess)
    (l : List α) : (allHealthy check l).Only WatchAccess := by
  induction l with
  | nil => exact .pure true
  | cons a l ih =>
    refine .bind (h a) fun healthy => ?_
    cases healthy with
    | true => exact ih
    | false => exact .pure false

theorem light_only (led : Led) (mode : LedMode) : (light led mode).Only WatchAccess :=
  .device_bind (.light led mode) (fun _ => .pure _) fun _ => .bind (.tell _) fun _ => .pure _

theorem updateTray_only (tray : Led × List Fan) : (updateTray tray).Only WatchAccess :=
  (allHealthy_only fanHealthy_only tray.2).bind fun _ => light_only _ _

theorem updateSupplies_only : updateSupplies.Only WatchAccess :=
  (allHealthy_only supplyHealthy_only PowerSupply.all).bind fun _ => light_only _ _

/-! ## What is lit -/

/-- An LED is reported with the mode that is asked of it, whether it accepts it or not. -/
theorem light_value (b : Board σ) (led : Led) (mode : LedMode) (w : σ) :
    ((light led mode).run b w).value = (led, mode) := by
  unfold light
  rw [Program.run_bind]
  cases ((Program.device (.setLed led mode)).run b w).value <;> rfl

/-- An LED that is to show the health of something. -/
theorem lightHealth_value (b : Board σ) (led : Led) (check : Program Bool) (w : σ) :
    ((do light led (.ofHealth (← check))).run b w).value =
      (led, .ofHealth (check.run b w).value) := by
  rw [Program.run_bind, light_value]

/-- What holds of each value of a `mapM` whatever the board's state. -/
theorem map_mapM_value {κ : Type} {f : α → Program β} {g : β → κ} {k : α → κ}
    (h : ∀ a w, g ((f a).run b w).value = k a) (l : List α) (w : σ) :
    ((l.mapM f).run b w).value.map g = l.map k := by
  induction l generalizing w with
  | nil => rfl
  | cons a l ih =>
    rw [List.mapM_cons, Program.run_bind, Program.run_bind]
    show g _ :: List.map g _ = _
    rw [h, ih, List.map_cons]

theorem trays_elsewhere (b : Board σ) (w : σ) :
    ∀ e ∈ ((trays.mapM updateTray).run b w).value, e.1 ≠ .system := by
  have lit (tray : Led × List Fan) (w : σ) : ((updateTray tray).run b w).value.1 = tray.1 :=
    congrArg Prod.fst (lightHealth_value b tray.1 _ w)
  intro e he
  have listed : e.1 ∈ trays.map Prod.fst := by
    rw [← map_mapM_value lit trays w]
    exact List.mem_map_of_mem he
  have noSystem : ∀ led ∈ trays.map Prod.fst, led ≠ .system := by decide
  exact noSystem e.1 listed

theorem supplies_elsewhere (b : Board σ) (w : σ) : (updateSupplies.run b w).value.1 ≠ .system := by
  have lit : (updateSupplies.run b w).value.1 = .psu :=
    congrArg Prod.fst (lightHealth_value b .psu _ _)
  rw [lit]
  decide

/-! ## Updates -/

/-- How an update of the panel ends: with a result, after some accesses. -/
inductive Updates (b : Board σ) (w : σ) : Except Fault LedReport → List Query → Prop where
  /-- The status cannot be read. -/
  | unreadable {e : Fault} {before : List Query} (watches : ∀ q ∈ before, WatchAccess q)
      (unreadable : (b (.register Watchdog.statusQuery) (b.after w before)).answer = .error e) :
      Updates b w (.error e) (before ++ [.register Watchdog.statusQuery])
  | lit {status : Nat} {mode : LedMode} {others : List (Led × LedMode)} {before later : List Query}
      (watches : ∀ q ∈ before, WatchAccess q)
      (read : (b (.register Watchdog.statusQuery) (b.after w before)).answer = .ok status)
      (elsewhere : ∀ e ∈ others, e.1 ≠ .system)
      (red : Watchdog.isLatched status = true → mode = .red)
      (follow : ∀ q ∈ later, WatchAccess q) :
      Updates b w (.ok ⟨others ++ [(.system, mode)]⟩)
        (before ++ .register Watchdog.statusQuery :: later)

/-- The system LED, lit as the answer to the read of the status tells. -/
theorem yields_updateSystem (b : Board σ) (w : σ) :
    (∃ e, (b (.register Watchdog.statusQuery) w).answer = .error e ∧
        Program.Yields b w updateSystem.run (.error e) [.register Watchdog.statusQuery]) ∨
      ∃ status mode later, (b (.register Watchdog.statusQuery) w).answer = .ok status ∧
        (Watchdog.isLatched status = true → mode = .red) ∧ (∀ q ∈ later, WatchAccess q) ∧
        Program.Yields b w updateSystem.run (.ok (.system, mode))
          (.register Watchdog.statusQuery :: later) := by
  unfold updateSystem
  cases read : (b (.register Watchdog.statusQuery) w).answer with
  | error e =>
    have unread : Program.Yields b w Watchdog.latched.run (.error e)
        [.register Watchdog.statusQuery] := Action.yields_register_bind_error read
    exact .inl ⟨e, rfl, unread.bind_quiet (.pure _)⟩
  | ok status =>
    have latched : Program.Yields b w Watchdog.latched.run (.ok (Watchdog.isLatched status))
        [.register Watchdog.statusQuery] := Action.yields_register_bind read (.pure _)
    right
    cases hl : Watchdog.isLatched status with
    | true =>
      rw [hl] at latched
      have red := light_only .system .red
      exact ⟨status, .red, _, rfl, fun _ => rfl, red.queries b _,
        latched.bind (Action.yields_lift ⟨light_value b .system .red _, rfl⟩)⟩
    | false =>
      rw [hl] at latched
      have watched : (do
          light .system (.ofHealth (← allHealthy sensorHealthy systemSensors))).Only WatchAccess :=
        (allHealthy_only sensorHealthy_only systemSensors).bind fun _ => light_only _ _
      refine ⟨status, _, _, rfl, fun red => ?_, watched.queries b _,
        latched.bind (Action.yields_lift ⟨lightHealth_value b .system _ _, rfl⟩)⟩
      rw [hl] at red
      cases red

/-- **Every update of the panel ends in one of the ways.** -/
theorem update_updates (b : Board σ) (w : σ) :
    ∃ r qs, Updates b w r qs ∧ Program.Yields b w update.run r qs := by
  have trayWatches : (trays.mapM updateTray).Only WatchAccess := .mapM updateTray_only trays
  obtain ⟨fans, first, hfans, hfirst⟩ : ∃ fans first, Program.Yields b w (trays.mapM updateTray)
      fans first ∧ ∀ q ∈ first, WatchAccess q := ⟨_, _, ⟨rfl, rfl⟩, trayWatches.queries b w⟩
  obtain ⟨supplies, second, hsupplies, hsecond⟩ : ∃ supplies second,
      Program.Yields b (b.after w first) updateSupplies supplies second ∧
        ∀ q ∈ second, WatchAccess q := ⟨_, _, ⟨rfl, rfl⟩, updateSupplies_only.queries b _⟩
  have before : ∀ q ∈ first ++ second, WatchAccess q := List.forall_mem_append.2 ⟨hfirst, hsecond⟩
  have elsewhere : ∀ e ∈ fans ++ [supplies], e.1 ≠ .system := by
    refine List.forall_mem_append.2 ⟨?_, List.forall_mem_singleton.2 ?_⟩
    · rw [← hfans.value]
      exact trays_elsewhere b w
    · rw [← hsupplies.value]
      exact supplies_elsewhere b _
  unfold update
  rcases yields_updateSystem b (b.after w (first ++ second)) with
    ⟨e, unread, hsystem⟩ | ⟨status, mode, later, read, red, follow, hsystem⟩
  · refine ⟨_, _, .unreadable before unread, ?_⟩
    rw [Board.after_append] at hsystem
    rw [List.append_assoc first second]
    exact Action.yields_lift_bind hfans (Action.yields_lift_bind hsupplies
      (hsystem.bind_quiet (.pure _)))
  · refine ⟨_, _, .lit before read elsewhere red follow, ?_⟩
    rw [Board.after_append] at hsystem
    rw [List.append_assoc first second]
    have last : Program.Yields b (b.after (b.after w first) second)
        (do
          let system ← updateSystem
          return (⟨fans ++ [supplies, system]⟩ : LedReport) : Action LedReport).run
        (.ok ⟨fans ++ [supplies] ++ [(.system, mode)]⟩)
        (.register Watchdog.statusQuery :: later) := by
      rw [List.append_assoc fans]
      exact hsystem.bind_quiet (.pure _)
    exact Action.yields_lift_bind hfans (Action.yields_lift_bind hsupplies last)

/-- **Under a latched shutdown the system LED is reported red.** -/
theorem Updates.system_red {r : LedReport} {qs : List Query} (h : Updates b w (.ok r) qs)
    (latched : ∀ (before : List Query) (status : Nat), (∀ q ∈ before, WatchAccess q) →
      (b (.register Watchdog.statusQuery) (b.after w before)).answer = .ok status →
      Watchdog.isLatched status = true) : r.mode? .system = some .red := by
  cases h with
  | @lit status mode others before later watches read elsewhere red =>
    have none : others.find? (fun e => e.1 = .system) = none := by
      rw [List.find?_eq_none]
      intro e he
      simpa using elsewhere e he
    unfold LedReport.mode?
    rw [List.find?_append, none, red (latched before status watches read)]
    rfl

/-- An update accesses devices, and reads the status. -/
theorem Updates.accesses {r : Except Fault LedReport} {qs : List Query} (h : Updates b w r qs) :
    ∀ q ∈ qs, WatchAccess q ∨ q = .register Watchdog.statusQuery := by
  intro q hq
  cases h with
  | unreadable watches =>
    exact (List.mem_append.1 hq).imp (watches q) List.mem_singleton.1
  | lit watches read elsewhere red follow =>
    rcases List.mem_append.1 hq with hq | hq
    · exact .inl (watches q hq)
    · exact (List.mem_cons.1 hq).symm.imp (follow q) id

end Panel

/-! ## Rails -/

theorem RailMonitor.scanOver_only (l : List Rail) (m : RailMonitor) :
    (scanOver l m).Only WatchAccess := by
  induction l generalizing m with
  | nil => exact .pure _
  | cons rail l ih =>
    refine .device_bind (.rail rail) (fun r => ?_) fun e => .bind (.tell _) fun _ => ih m
    exact .bind (.tellAll _) fun _ => (ih _).bind fun _ => .pure _

end SwitchThermal
