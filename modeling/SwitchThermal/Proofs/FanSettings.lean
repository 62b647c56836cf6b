import SwitchThermal.Proofs.Demand
import SwitchThermal.Proofs.LatchedOnce
import SwitchThermal.Proofs.SpeedDirection

/-!
# The report tells what was done to the fans

A pass makes at most one setting of a chassis fan, the one that it demands of the primary fan. Only
once that is accepted do the fans of the supplies follow, at the same speed.

* `fanSettings`, `chassisSettings` — the settings in a trace, with their answers.
* `FanCommand` — the settings that come of a demand, and how the pass ends with them.
* `Turn.fanCommand` — the settings of every pass are of that kind.
* `Turn.managed_iff` — when a pass reports that it has applied a speed.
* `fans_reported` — what the report of a pass says about its settings, and in which order they come.
-/

set_option autoImplicit false

namespace SwitchThermal

variable {σ : Type} {b : Board σ} {c : Controller} {w : σ} {s s' : ControlState}
  {r : Except Halt PassReport} {qs : List Query}

/-! ## Settings -/

/-- A setting of a fan, with the answer to it. -/
structure FanSetting where
  fan : Fan
  percentage : Nat
  answer : Except Fault Unit

/-- The setting, if the entry is one. -/
def fanSetting? : Entry → Option FanSetting
  | .asked (.device (.setFan f v)) a => some ⟨f, v, a⟩
  | _ => none

/-- The settings in a trace. -/
def fanSettings (t : List Entry) : List FanSetting :=
  t.filterMap fanSetting?

/-- The settings of chassis fans in a trace. -/
def chassisSettings (t : List Entry) : List FanSetting :=
  (fanSettings t).filter fun x => x.fan.isChassis

theorem fanSettings_append (t u : List Entry) :
    fanSettings (t ++ u) = fanSettings t ++ fanSettings u :=
  List.filterMap_append

theorem fanSettings_answers (t : List Entry) : fanSettings (answers t) = fanSettings t :=
  filterMap_answers (fun _ => rfl) t

theorem mem_fanSettings {t : List Entry} {f : Fan} {v : Nat} {a : Except Fault Unit} :
    ⟨f, v, a⟩ ∈ fanSettings t ↔ .asked (speedAccess f v) a ∈ t := by
  unfold fanSettings
  rw [List.mem_filterMap]
  constructor
  · rintro ⟨e, hmem, he⟩
    unfold fanSetting? at he
    split at he
    · cases he
      exact hmem
    · cases he
  · intro h
    exact ⟨_, h, rfl⟩

/-- Accesses that set no fan. -/
theorem fanSettings_unset (unset : ∀ f v, speedAccess f v ∉ qs) :
    fanSettings (b.record w qs) = [] := by
  refine Board.filterMap_record_nil fun q hq a => ?_
  unfold fanSetting?
  split
  · rename_i f v a heq
    cases heq
    exact absurd hq (unset f v)
  · rfl

/-- The fans of the supplies, when they follow a speed. -/
theorem fanSettings_follow {view : SupplyView} {percentage : Nat}
    (follow : ∀ q ∈ qs, FollowAccess view percentage q) :
    ∀ x ∈ fanSettings (b.record w qs), (∃ p, x.fan = .supply p) ∧ x.percentage = percentage := by
  rintro ⟨f, v, a⟩ hx
  have made := Board.made_of_recorded (mem_fanSettings.1 hx)
  cases follow _ made with
  | set => exact ⟨⟨_, rfl⟩, rfl⟩

/-! ## Commands -/

/-- The settings that come of a demand, and how the pass ends with them. -/
inductive FanCommand : Option Demand → Except Halt PassReport → List FanSetting → Prop where
  | idle {r : Except Halt PassReport} : FanCommand none r []
  | refused {d : Demand} {e : Fault} :
      FanCommand (some d) (.error (.fault e)) [⟨.primary, d.percentage, .error e⟩]
  /-- The fans of the supplies follow at the same speed. -/
  | accepted {d : Demand} {followers : List FanSetting}
      (follow : ∀ x ∈ followers, (∃ p, x.fan = .supply p) ∧ x.percentage = d.percentage) :
      FanCommand (some d) (.ok d.report) (⟨.primary, d.percentage, .ok ()⟩ :: followers)

namespace FanCommand

variable {demand : Option Demand} {settings : List FanSetting}

/-- Of the chassis fans, only the primary one is set, as the pass demands and at most once. -/
theorem chassis (h : FanCommand demand r settings) :
    (settings.filter fun x => x.fan.isChassis) = [] ∨
      ∃ d a, demand = some d ∧
        (settings.filter fun x => x.fan.isChassis) = [⟨.primary, d.percentage, a⟩] := by
  cases h with
  | idle => exact .inl rfl
  | @refused d e => exact .inr ⟨d, .error e, rfl, rfl⟩
  | @accepted d followers follow =>
    have none : (followers.filter fun x => x.fan.isChassis) = [] := by
      rw [List.filter_eq_nil_iff]
      intro x hx
      obtain ⟨⟨p, supply⟩, -⟩ := follow x hx
      rw [supply]
      nofun
    exact .inr ⟨d, .ok (), rfl, congrArg _ none⟩

/-- A fan of a supply is set after the primary fan has accepted the same speed. -/
theorem accepted_before (h : FanCommand demand r settings) {earlier later : List FanSetting}
    {p : PowerSupply} {v : Nat} {a : Except Fault Unit}
    (split : settings = earlier ++ ⟨.supply p, v, a⟩ :: later) :
    ⟨.primary, v, .ok ()⟩ ∈ earlier := by
  cases h with
  | idle => simp at split
  | refused =>
    cases earlier with
    | nil => cases (List.cons.inj split).1
    | cons x earlier => simp at split
  | @accepted d followers follow =>
    cases earlier with
    | nil => cases (List.cons.inj split).1
    | cons x earlier =>
      obtain ⟨rfl, rfl⟩ := List.cons.inj split
      have same : v = d.percentage :=
        (follow ⟨.supply p, v, a⟩ (List.mem_append_right _ List.mem_cons_self)).2
      rw [same]
      exact List.mem_cons_self

/-- A demand that does not end with a fault has been accepted. -/
theorem of_ok {report : PassReport} {d : Demand} (h : FanCommand (some d) (.ok report) settings) :
    report = d.report ∧ ⟨.primary, d.percentage, .ok ()⟩ ∈ settings := by
  cases h with
  | accepted => exact ⟨rfl, List.mem_cons_self⟩

end FanCommand

namespace Controller

/-- **The settings of a pass come of its demand.** -/
theorem Meets.fanCommand (h : c.Meets b w s r s' qs) :
    FanCommand (c.demand (b.round c.table w) s) r (fanSettings (b.record w qs)) := by
  cases h with
  | idle none unset =>
    rw [none, fanSettings_unset unset]
    exact .idle
  | refused demand sampling refused =>
    rw [demand, Board.record_append, fanSettings_append,
      fanSettings_unset (unset_of_sampling sampling), Board.record_cons, refused]
    exact .refused
  | @accepted d before rest view demand sampling accepted follow =>
    rw [demand, Board.record_append, fanSettings_append,
      fanSettings_unset (unset_of_sampling sampling), Board.record_cons, accepted]
    exact .accepted (fanSettings_follow follow)

/-- The report that comes of a demand says that a speed has been set. -/
theorem changes_of_demand {R : Round} {d : Demand} (h : c.demand R s = some d) :
    d.report.changesSpeed = true := by
  obtain ⟨-, -, ⟨-, demand⟩ | ⟨-, -, demand⟩⟩ := demand_met h
  · obtain ⟨-, rfl⟩ := fullSpeedDemand_eq_some demand
    rfl
  · obtain ⟨percentage, -, rfl⟩ := commandDemand_eq_some demand
    rfl

/-- Full speed for a latched shutdown is set on demand. -/
theorem Ends.demand_of_first (h : c.Ends b w s (.ok (.shutdownLatched true)) s' qs) :
    ∃ d, c.demand (b.round c.table w) s = some d ∧ d.percentage = c.params.full := by
  obtain ⟨on, latched, unreported⟩ := h.of_first
  have demanded := demand_of_latched (c := c) on latched
  rw [fullSpeedDemand, unreported] at demanded
  exact ⟨_, demanded, rfl⟩

end Controller

/-! ## Whole passes -/

namespace Turn

variable {t : Turn c b}

/-- The pass has read an unlatched status, so it goes on to manage the fans. -/
def SawNoLatch (t : Turn c b) : Prop :=
  ∃ earlier status later, t.StatusRead earlier status later ∧ Watchdog.isLatched status = false

/-- **The settings of every pass** come of a demand: its own one, or none if it starts in vain. -/
theorem fanCommand (t : Turn c b) :
    ∃ demand, FanCommand demand t.result (fanSettings t.trace) ∧
      (t.start.value.1 = .ok () → demand = c.demand t.round t.ready) ∧
      ∀ d, demand = some d → d.report.changesSpeed = true := by
  obtain ⟨starts, qs, access, -, entries, met⟩ := t.meets
  have unset : ∀ f v, speedAccess f v ∉ starts := fun f v hmem => by cases access _ hmem
  have settings : fanSettings t.trace = fanSettings (b.record t.start.world qs) := by
    rw [← fanSettings_answers, entries, fanSettings_append, fanSettings_unset unset,
      List.nil_append]
  rw [settings]
  rcases met with ⟨started, meets⟩ | ⟨vain, rfl⟩
  · exact ⟨_, meets.fanCommand, fun _ => rfl, fun d => Controller.changes_of_demand⟩
  · refine ⟨none, .idle, fun started => absurd started vain, fun d demand => ?_⟩
    cases demand

/-- A managed pass has read an unlatched status. -/
theorem sawNoLatch_of_managed {band : Band} {worst : Option Worst} {fans supplies : Bool}
    {applied : Option Nat} (h : t.result = .ok (.managed band worst fans supplies applied)) :
    t.SawNoLatch := by
  obtain ⟨starts, qs, -, clear, hmanaged, entries⟩ := managed_parts h
  obtain ⟨refreshed, status, read, unlatched⟩ := clear.toAwake
  obtain ⟨rest, rfl, -⟩ := hmanaged.accesses
  have duty : b.record t.start.world (dutyAccesses ++ surveyAccesses ++ rest) =
      .asked (.register Watchdog.refreshQuery) t.round.refresh ::
        .asked (.register Watchdog.statusQuery) t.round.status ::
        b.record (b.after t.start.world dutyAccesses) (surveyAccesses ++ rest) := by
    rw [List.append_assoc]
    rfl
  rw [duty, refreshed, read] at entries
  have before : answers t.trace = (b.record t.world starts ++ [resetEntry]) ++
      statusEntry status ::
        b.record (b.after t.start.world dutyAccesses) (surveyAccesses ++ rest) := by
    rw [entries, List.append_assoc]
    rfl
  obtain ⟨earlier, later, split, hearlier, -⟩ := split_of_answers before
  refine ⟨earlier, status, later, ⟨split, ?_⟩, unlatched⟩
  have reset : resetEntry ∈ answers earlier := by
    rw [hearlier]
    exact List.mem_append_right _ List.mem_cons_self
  exact mem_answers.1 reset

/-- **When a pass reports that it has applied a speed**: the shutdown had not latched, and the primary
fan has accepted the speed. -/
theorem managed_iff (t : Turn c b) (v : Nat) :
    (∃ band worst fans supplies, t.result = .ok (.managed band worst fans supplies (some v))) ↔
      t.SawNoLatch ∧ .asked (speedAccess .primary v) (.ok ()) ∈ t.trace := by
  constructor
  · rintro ⟨band, worst, fans, supplies, h⟩
    obtain ⟨starts, qs, -, -, hmanaged, entries⟩ := managed_parts h
    refine ⟨sawNoLatch_of_managed h, mem_answers.1 ?_⟩
    rw [entries]
    exact List.mem_append_right _ hmanaged.accepted
  · rintro ⟨⟨earlier, status, later, read, unlatched⟩, accepted⟩
    obtain ⟨starts, rest, hstarts, -, hends, refreshed, hstatus, recorded, -⟩ := read.parts
    have awake : (b.round c.table (b.after t.world starts)).Awake :=
      ⟨refreshed, status, hstatus, unlatched⟩
    have entry : .asked (speedAccess .primary v) (.ok ()) ∈
        b.record (b.after t.world starts) (dutyAccesses ++ rest) := by
      rw [← mem_answers, recorded, Board.record_append] at accepted
      refine (List.mem_append.1 accepted).resolve_left fun early => ?_
      cases hstarts.access _ (Board.made_of_recorded early)
    obtain ⟨d, demand, rfl⟩ := hends.meets.demanded (Board.made_of_recorded entry)
    obtain ⟨result, -⟩ := hends.meets.of_accepted demand entry
    obtain ⟨-, -, ⟨latched, -⟩ | ⟨-, -, command⟩⟩ := Controller.demand_met demand
    · exact absurd awake latched.not_awake
    · obtain ⟨percentage, -, rfl⟩ := Controller.commandDemand_eq_some command
      exact ⟨_, _, _, _, result⟩

/-- A pass that sets full speed for a latched shutdown demands it. -/
theorem demand_of_first (h : t.ReportsFirst) :
    t.start.value.1 = .ok () ∧
      ∃ d, c.demand t.round t.ready = some d ∧ d.percentage = c.params.full := by
  obtain ⟨starts, -, world, ⟨e, -, hpass⟩ | ⟨started, qs, hends, -⟩⟩ := t.parts
  · have result := show t.result = .error e from hpass.result
    rw [show t.result = _ from h] at result
    cases result
  · rw [show t.result = _ from h, ← world] at hends
    exact ⟨started, hends.demand_of_first⟩

end Turn

/-- What the report of a pass says about the settings of fans, and in which order they come. -/
structure FansReported (t : Turn c b) : Prop where
  /-- A chassis fan is set at most once, -/
  once : (chassisSettings t.trace).length ≤ 1
  /-- and it is the primary one. -/
  primary : ∀ x ∈ chassisSettings t.trace, x.fan = .primary
  /-- A fan of a supply is set to the speed that the primary fan has accepted before. -/
  follow : ∀ (earlier : List Entry) (p : PowerSupply) (v : Nat) (a : Except Fault Unit)
    (later : List Entry), t.trace = earlier ++ .asked (speedAccess (.supply p) v) a :: later →
    .asked (speedAccess .primary v) (.ok ()) ∈ earlier
  /-- A speed is reported as applied when the status was unlatched and the primary fan has accepted
  the speed. -/
  applied : ∀ v, (∃ band worst fans supplies,
      t.result = .ok (.managed band worst fans supplies (some v))) ↔
    t.SawNoLatch ∧ .asked (speedAccess .primary v) (.ok ()) ∈ t.trace
  /-- Any other report but the first one of a latched shutdown says that no fan was set. -/
  untouched : ∀ report, t.result = .ok report → report.changesSpeed = false →
    fanSettings t.trace = []
  /-- The first report of a latched shutdown says that full speed was set. -/
  latched : t.result = .ok (.shutdownLatched true) →
    chassisSettings t.trace = [⟨.primary, c.params.full, .ok ()⟩]

/-- **The report tells what was done to the fans**, whatever the state and the board. -/
theorem fans_reported (t : Turn c b) : FansReported t := by
  obtain ⟨demand, command, demanded, changes⟩ := t.fanCommand
  refine ⟨?once, ?primary, ?follow, t.managed_iff, ?untouched, ?latched⟩
  case once =>
    unfold chassisSettings
    rcases command.chassis with none | ⟨d, a, -, one⟩
    · rw [none]
      exact Nat.zero_le 1
    · rw [one]
      exact Nat.le_refl 1
  case primary =>
    unfold chassisSettings
    intro x hx
    rcases command.chassis with none | ⟨d, a, -, one⟩
    · rw [none] at hx
      cases hx
    · rw [one, List.mem_singleton] at hx
      rw [hx]
  case follow =>
    intro earlier p v a later split
    have settings : fanSettings t.trace =
        fanSettings earlier ++ ⟨.supply p, v, a⟩ :: fanSettings later := by
      rw [split, fanSettings_append]
      rfl
    exact mem_fanSettings.1 (command.accepted_before settings)
  case untouched =>
    intro report result unchanged
    rw [result] at command
    cases demand with
    | none =>
      generalize fanSettings t.trace = settings at command ⊢
      cases command with
      | idle => rfl
    | some d =>
      have changed := changes d rfl
      rw [← command.of_ok.1, unchanged] at changed
      cases changed
  case latched =>
    intro first
    obtain ⟨started, d, hd, full⟩ := Turn.demand_of_first first
    rw [demanded started, hd, first] at command
    have accepted := command.of_ok.2
    have chassis : ⟨.primary, d.percentage, .ok ()⟩ ∈ chassisSettings t.trace :=
      List.mem_filter.2 ⟨accepted, rfl⟩
    unfold chassisSettings at chassis ⊢
    rcases command.chassis with none | ⟨d', a, -, one⟩
    · rw [none] at chassis
      cases chassis
    · rw [one, List.mem_singleton] at chassis
      rw [one, ← chassis, full]

end SwitchThermal
