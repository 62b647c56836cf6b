import SwitchThermal.Proofs.Frame
import SwitchThermal.Proofs.Guarded
import SwitchThermal.Proofs.History

/-!
# Which failures end a pass

An access that fails either ends the pass or is passed over, and which of the two depends on the
access alone: not on the state, and not on what has failed before.

* `Query.fatal`, `Query.tolerated` — the accesses of either kind.
* `Heeded` — how the answers of a part of a pass and its result go together. `Heeded.bind` puts two
  parts together.
* `Action.Heeds`, `Pass.Heeds` — an action or a part of a pass heeds its failures on every board.
  The rules follow the ways in which they are put together.
* `Turn.heeded` — so does every pass.
* `failure_policy` — a pass ends with a fault exactly when a fatal access fails, and then at once
  and with the fault of the first one.
-/

set_option autoImplicit false

namespace SwitchThermal

variable {σ α β : Type} {b : Board σ} {c : Controller} {w : σ}

/-! ## The two kinds -/

/-- Does a failure of the access end the pass? That of a register, of the reading of a chassis fan
or of the setting of the primary fan does. -/
def Query.fatal : Query → Bool
  | .register _ => true
  | .device (.fan f) => f.isChassis
  | .device (.setFan f _) => decide (f = .primary)
  | .controlFile _ | .device (.sensor _) | .device (.supply _) | .device (.rail _)
  | .device (.setLed ..) => false

/-- Is a failure of the access passed over? That of the control file, of a sensor, of a supply or of
its fan is. -/
def Query.tolerated : Query → Bool
  | .controlFile _ | .device (.sensor _) | .device (.supply _) => true
  | .device (.fan f) | .device (.setFan f _) => !f.isChassis
  | .register _ | .device (.rail _) | .device (.setLed ..) => false

theorem Query.not_fatal_of_tolerated {q : Query} (h : q.tolerated = true) : q.fatal = false := by
  cases q with
  | controlFile path => rfl
  | register r => cases h
  | device d =>
    cases d with
    | sensor x | supply p => rfl
    | rail r | setLed led mode => cases h
    | fan f => simpa [Query.tolerated, Query.fatal] using h
    | setFan f v =>
      have other : f ≠ .primary := by
        rintro rfl
        cases h
      simpa [Query.fatal] using other

/-! ## Answers and results -/

/-- All failures among the answers are tolerated. -/
def Tolerable (t : List Entry) : Prop :=
  ∀ q e, .asked q (.error e) ∈ t → q.tolerated = true

theorem not_tolerable {t : List Entry} {q : Query} {e : Fault} (fatal : q.fatal = true)
    (failed : .asked q (.error e) ∈ t) : ¬ Tolerable t := by
  intro tolerable
  rw [Query.not_fatal_of_tolerated (tolerable q e failed)] at fatal
  cases fatal

theorem tolerable_answers {t : List Entry} : Tolerable (answers t) ↔ Tolerable t :=
  forall₂_congr fun _ _ => imp_congr_left mem_answers

theorem tolerable_append {t u : List Entry} :
    Tolerable (t ++ u) ↔ Tolerable t ∧ Tolerable u := by
  constructor
  · intro h
    exact ⟨fun q e hmem => h q e (List.mem_append_left _ hmem),
      fun q e hmem => h q e (List.mem_append_right _ hmem)⟩
  · rintro ⟨ht, hu⟩ q e hmem
    rcases List.mem_append.1 hmem with hmem | hmem
    · exact ht q e hmem
    · exact hu q e hmem

theorem tolerable_record {qs : List Query} (h : ∀ q ∈ qs, q.tolerated = true) :
    Tolerable (b.record w qs) :=
  fun q _ hmem => h q (Board.made_of_recorded hmem)

/-- How answers and a result go together. Either all failures are tolerated and the result is no
fault; or a fatal access fails after tolerated failures only, nothing is accessed after it, and the
result is its fault. -/
inductive Heeded : List Entry → Except Halt α → Prop where
  | spared {t : List Entry} {r : Except Halt α} (tolerable : Tolerable t)
      (faultless : ∀ e, r ≠ .error (.fault e)) : Heeded t r
  | ended {t : List Entry} {q : Query} {e : Fault} (tolerable : Tolerable t)
      (fatal : q.fatal = true) : Heeded (t ++ [.asked q (.error e)]) (.error (.fault e))

namespace Heeded

variable {t u : List Entry}

/-- A fatal failure is the last answer. -/
theorem of_fatal {q : Query} {e : Fault} {r : Except Halt α}
    (h : Heeded (t ++ .asked q (.error e) :: u) r) (fatal : q.fatal = true) :
    u = [] ∧ r = .error (.fault e) := by
  have failed : .asked q (.error e) ∈ t ++ .asked q (.error e) :: u :=
    List.mem_append_right _ List.mem_cons_self
  generalize shape : t ++ .asked q (.error e) :: u = es at h failed
  cases h with
  | spared tolerable => exact absurd tolerable (not_tolerable fatal failed)
  | @ended before last e' tolerable =>
    obtain rfl | ⟨u, y, rfl⟩ := u.eq_nil_or_concat
    · obtain ⟨-, same⟩ := List.append_inj' shape rfl
      cases same
      exact ⟨rfl, rfl⟩
    · rw [List.concat_eq_append, ← List.cons_append, ← List.append_assoc] at shape
      obtain ⟨rfl, -⟩ := List.append_inj' shape rfl
      exact absurd tolerable (not_tolerable fatal (List.mem_append_right _ List.mem_cons_self))

/-- A part that goes on, and the next one. -/
theorem bind {a : α} {r : Except Halt β} (first : Heeded t (.ok a)) (rest : Heeded u r) :
    Heeded (t ++ u) r := by
  cases first with
  | spared before =>
    cases rest with
    | spared after faultless => exact .spared (tolerable_append.2 ⟨before, after⟩) faultless
    | ended after fatal =>
      rw [← List.append_assoc]
      exact .ended (tolerable_append.2 ⟨before, after⟩) fatal

/-- A part that stops, whatever would have come next. -/
theorem stop {h : Halt} (first : Heeded t (.error h : Except Halt α)) :
    Heeded t (.error h : Except Halt β) := by
  cases first with
  | spared before faultless =>
    refine .spared before fun e he => faultless e ?_
    cases he
    rfl
  | ended before fatal => exact .ended before fatal

/-- No access at all. -/
theorem nil {r : Except Halt α} (faultless : ∀ e, r ≠ .error (.fault e)) : Heeded [] r :=
  .spared (fun _ _ hmem => (List.not_mem_nil hmem).elim) faultless

/-- A single fatal access, and a result that is its answer. -/
theorem single {q : Query} (fatal : q.fatal = true) (answer : Except Fault q.Payload) :
    Heeded [.asked q answer] (answer.mapError Halt.fault) := by
  cases answer with
  | error e => exact .ended (t := []) (fun _ _ hmem => (List.not_mem_nil hmem).elim) fatal
  | ok a =>
    refine .spared (fun q' e hmem => ?_) fun e he => by cases he
    cases List.mem_singleton.1 hmem

end Heeded

/-! ## Actions -/

namespace Action

/-- On every board the action heeds its failures. -/
structure Heeds (x : Action α) : Prop where
  yields : ∀ {σ : Type} (b : Board σ) (w : σ), ∃ r qs,
    Program.Yields b w x.run r qs ∧ Heeded (b.record w qs) (r.mapError Halt.fault)

namespace Heeds

theorem pure (a : α) : Heeds (Pure.pure a) where
  yields _ _ := ⟨_, [], .pure _, .nil nofun⟩

theorem tell (n : Notice) : Heeds (Action.tell n) where
  yields _ _ := ⟨_, [], ⟨rfl, rfl⟩, .nil nofun⟩

theorem register (q : RegisterQuery) : Heeds (Action.register q) where
  yields _ _ := ⟨_, _, yields_register, .single rfl _⟩

theorem bind {x : Action α} {f : α → Action β} (hx : Heeds x) (hf : ∀ a, Heeds (f a)) :
    Heeds (x >>= f) := by
  refine ⟨fun b w => ?_⟩
  obtain ⟨r, qs, hrun, heeded⟩ := hx.yields b w
  cases r with
  | error e => exact ⟨.error e, qs, hrun.bind_quiet (.pure _), heeded.stop⟩
  | ok a =>
    obtain ⟨r, rs, hrun', heeded'⟩ := (hf a).yields b (b.after w qs)
    refine ⟨r, qs ++ rs, hrun.bind hrun', ?_⟩
    rw [Board.record_append]
    exact heeded.bind heeded'

end Heeds

end Action

/-! ## Passes -/

namespace Pass

/-- On every board the part of a pass heeds its failures. -/
structure Heeds (p : Pass α) : Prop where
  yields : ∀ {σ : Type} (b : Board σ) (w : σ) (s : ControlState), ∃ r s' qs,
    Yields b w s p r s' qs ∧ Heeded (b.record w qs) r

namespace Heeds

theorem pure (a : α) : Heeds (Pure.pure a : Pass α) where
  yields _ _ _ := ⟨_, _, [], .pure a, .nil nofun⟩

theorem bind {p : Pass α} {f : α → Pass β} (hp : Heeds p) (hf : ∀ a, Heeds (f a)) :
    Heeds (p >>= f) := by
  refine ⟨fun b w s => ?_⟩
  obtain ⟨r, s₁, qs, hrun, heeded⟩ := hp.yields b w s
  cases r with
  | error h => exact ⟨_, s₁, qs, .bind_error hrun, heeded.stop⟩
  | ok a =>
    obtain ⟨r, s₂, rs, hrun', heeded'⟩ := (hf a).yields b (b.after w qs) s₁
    refine ⟨r, s₂, qs ++ rs, hrun.bind hrun', ?_⟩
    rw [Board.record_append]
    exact heeded.bind heeded'

/-- A program all of whose failures are tolerated. -/
theorem ofProgram {p : Program α} (hp : p.Only fun q => q.tolerated = true) :
    Heeds (Pass.ofProgram p) where
  yields b w s := ⟨_, s, _, .ofProgram (Program.yields_run b w p),
    .spared (tolerable_record (hp.queries b w)) nofun⟩

theorem ask {q : DeviceQuery} (tolerated : (Query.device q).tolerated = true) :
    Heeds (Pass.ask q) :=
  ofProgram (.device tolerated)

theorem tell (n : Notice) : Heeds (Pass.tell n) := ofProgram (.tell n)

theorem tellAll (ns : List Notice) : Heeds (Pass.tellAll ns) where
  yields _ _ s := ⟨_, s, [], .tellAll ns, .nil nofun⟩

theorem get_bind {f : ControlState → Pass β} (hf : ∀ s, Heeds (f s)) : Heeds (get >>= f) where
  yields b w s := (hf s).yields b w s

theorem modify (g : ControlState → ControlState) : Heeds (modify g : Pass PUnit) where
  yields _ _ s := ⟨_, g s, [], .modify g, .nil nofun⟩

theorem need {q : DeviceQuery} (fatal : (Query.device q).fatal = true)
    (notice : Fault → Notice) : Heeds (Pass.need q notice) := by
  refine ⟨fun b w s => ?_⟩
  have heeded := Heeded.single fatal (b (.device q) w).answer
  cases answer : (b (.device q) w).answer with
  | error e =>
    rw [answer] at heeded
    refine ⟨_, s, _, .need_error answer, ?_⟩
    rw [Board.record_cons, answer]
    exact heeded.stop
  | ok a =>
    rw [answer] at heeded
    refine ⟨_, s, _, .need answer, ?_⟩
    rw [Board.record_cons, answer]
    exact heeded

theorem perform {x : Action α} (hx : x.Heeds) : Heeds (Pass.perform x) := by
  refine ⟨fun b w s => ?_⟩
  obtain ⟨r, qs, hrun, heeded⟩ := hx.yields b w
  cases r with
  | error e => exact ⟨_, s, qs, .perform_error hrun, heeded⟩
  | ok a => exact ⟨_, s, qs, .perform hrun, heeded⟩

theorem bounded (x : Except Overflow α) : Heeds (Pass.bounded x) := by
  refine ⟨fun b w s => ⟨_, s, [], .bounded x, .nil fun e he => ?_⟩⟩
  cases x <;> cases he

theorem onFault {p : Pass α} {notice : Fault → Notice} (hp : Heeds p) :
    Heeds (p.onFault notice) := by
  refine ⟨fun b w s => ?_⟩
  obtain ⟨r, s₁, qs, hrun, heeded⟩ := hp.yields b w s
  exact ⟨r, s₁, qs, hrun.onFault, heeded⟩

theorem foldlM {κ γ : Type} {f : γ → κ → Pass γ} {l : List κ} (hf : ∀ v, ∀ k ∈ l, Heeds (f v k))
    (v : γ) : Heeds (l.foldlM f v) := by
  induction l generalizing v with
  | nil => exact .pure v
  | cons k l ih =>
    rw [List.foldlM_cons]
    exact .bind (hf v k List.mem_cons_self) fun v' =>
      ih (fun v k hk => hf v k (List.mem_cons_of_mem _ hk)) v'

end Heeds

end Pass

/-! ## The parts of a pass -/

theorem heeds_arm : Watchdog.arm.Heeds :=
  .bind (.register _) fun _ => .bind (.register _) fun _ => .bind (.register _) fun _ =>
    .bind (.register _) fun _ => .tell _

theorem heeds_refresh : Watchdog.refresh.Heeds :=
  .bind (.tell _) fun _ => .register _

theorem heeds_latched : Watchdog.latched.Heeds :=
  .bind (.register _) fun _ => .pure _

theorem heeds_latch : Watchdog.latch.Heeds :=
  .bind (.register _) fun _ => .register _

/-- An unreadable chassis fan ends the survey. -/
theorem heeds_surveyFans : surveyFans.Heeds := by
  have each : ∀ v, ∀ f ∈ Fan.chassisFans, (surveyFan v f).Heeds := by
    intro v f hf
    have chassis : (Query.device (.fan f)).fatal = true := by
      obtain ⟨slot, -, rfl⟩ := List.mem_map.1 hf
      rfl
    exact .bind (.need chassis _) fun r => .get_bind fun s =>
      .bind (.tellAll _) fun _ => .bind (.modify _) fun _ => .pure _
  refine .bind (.foldlM each _) fun v => ?_
  split
  · exact .bind (.tell _) fun _ => .pure v
  · exact .pure v

/-- An unreadable supply does not. -/
theorem heeds_surveySupplies : surveySupplies.Heeds := by
  have each : ∀ v, ∀ p ∈ PowerSupply.all, (surveySupply v p).Heeds := by
    intro v p _
    refine .bind (.ask rfl) fun answer => ?_
    cases answer with
    | ok r =>
      exact .get_bind fun s => .bind (.tellAll _) fun _ => .bind (.modify _) fun _ => .pure _
    | error e => exact .bind (.tell _) fun _ => .pure _
  refine .bind (.foldlM each _) fun v => ?_
  split
  · exact .bind (.tell _) fun _ => .pure v
  · exact .pure v

/-- Nor does an unreadable sensor end the sweep. -/
theorem heeds_sweepOver (table : BandTable) (l : List Sensor) (v : Sweep) :
    (sweepOver table l v).Heeds := by
  induction l generalizing v with
  | nil => exact .pure _
  | cons x l ih =>
    refine .bind (.ask rfl) fun answer => ?_
    cases answer with
    | error e => exact .bind (.tell _) fun _ => ih v
    | ok r =>
      simp only
      split
      · exact .bind (.tell _) fun _ => ih v
      · split
        · exact .bind (.tell _) fun _ => .bind (.perform heeds_latch) fun _ => .pure _
        · split
          · exact .bind (.tell _) fun _ => ih _
          · exact ih _

theorem FollowAccess.tolerated {view : SupplyView} {percentage : Nat} {q : Query}
    (h : FollowAccess view percentage q) : q.tolerated = true := by
  cases h <;> rfl

/-- Of the settings of a speed only that of the primary fan must not be refused. -/
theorem heeds_setFans (params : Params) (percentage : Nat) (view : SupplyView)
    (samples : Option Readings) : (Actuator.setFans params percentage view samples).Heeds := by
  have follow : (PowerSupply.all.forM (Actuator.followSupply view percentage)).Only
      fun q => q.tolerated = true :=
    .forM (fun p => (followSupply_only view percentage p).mono fun _ => FollowAccess.tolerated) _
  exact .bind (.need rfl _) fun _ => .bind (.ofProgram follow) fun _ =>
    .bind (.modify _) fun _ => .tell _

namespace Controller

variable (c : Controller)

/-- Of a start only the register accesses must not fail. -/
theorem heeds_start : c.start.Heeds := by
  have settings : (readSettings c.controlFile).Only fun q => q.tolerated = true := by
    refine ⟨rfl, fun answer => ?_⟩
    cases answer with
    | ok text => trivial
    | error e => trivial
  have temperatures : (firstTemperatures c.table.relevant).Only fun q => q.tolerated = true := by
    refine .foldlM (fun m x => ?_) _ _
    refine .bind (.bind (.device rfl) fun answer => ?_) fun _ => .pure _
    cases answer with
    | ok r => exact .pure _
    | error e => exact .bind (.tell _) fun _ => .pure _
  refine .bind (.ofProgram settings) fun settings => ?_
  refine .bind (.modify _) fun _ => .bind (.tell _) fun _ => ?_
  split
  · exact .tell _
  · refine .bind (.tell _) fun _ => .bind (.perform heeds_arm) fun _ => ?_
    refine .bind (.perform heeds_latched) fun latched => ?_
    split
    · exact .bind (.ofProgram temperatures) fun samples => .modify _
    · exact .pure _

theorem heeds_ensureStarted : c.ensureStarted.Heeds := by
  refine .get_bind fun s => ?_
  split
  · exact .bind (.onFault c.heeds_start) fun _ => .modify _
  · exact .pure _

theorem heeds_keepShutdown : c.keepShutdown.Heeds := by
  refine .get_bind fun s => ?_
  split
  · exact .pure _
  · exact .bind (.tell _) fun _ => .bind (heeds_setFans _ _ _ _) fun _ =>
      .bind (.modify _) fun _ => .pure _

theorem heeds_noteBand (v : Severity) : (noteBand v).Heeds := by
  refine .get_bind fun s => ?_
  split
  · exact .bind (.tell _) fun _ => .modify _
  · exact .pure _

theorem heeds_choose (problem : Bool) (current : Nat) (v : Sweep) :
    (c.choose problem current v).Heeds := by
  unfold choose
  split
  · exact .pure _
  · exact .get_bind fun s => .bind (.tellAll _) fun _ => .bounded _

theorem heeds_conclude (fans : FanSurvey) (supplies : SupplySurvey) (v : Sweep) :
    (c.conclude fans supplies v).Heeds := by
  refine .bind (heeds_noteBand v.severity) fun _ => ?_
  refine .bind (c.heeds_choose _ _ _) fun speed => ?_
  cases speed with
  | none => exact .pure _
  | some percentage => exact .bind (heeds_setFans _ _ _ _) fun _ => .pure _

theorem heeds_manage : c.manage.Heeds := by
  refine .bind heeds_surveyFans fun fans => .bind heeds_surveySupplies fun supplies => ?_
  refine .bind (heeds_sweepOver _ _ _) fun result => ?_
  cases result with
  | complete v => exact c.heeds_conclude fans supplies v
  | tripped x mcelsius threshold => exact .pure _

/-- **A pass heeds its failures.** -/
theorem heeds_pass : c.pass.Heeds := by
  refine .bind c.heeds_ensureStarted fun _ => .get_bind fun s => ?_
  split
  · exact .pure _
  · refine .bind (.perform heeds_refresh) fun _ => .bind (.modify _) fun _ => ?_
    refine .bind (.perform heeds_latched) fun latched => ?_
    split
    · exact c.heeds_keepShutdown
    · exact c.heeds_manage

end Controller

/-! ## Whole passes -/

namespace Turn

theorem heeded (t : Turn c b) : Heeded (answers t.trace) t.result := by
  obtain ⟨r, s', qs, hrun, heeded⟩ := c.heeds_pass.yields b t.world t.before
  have recorded : answers t.trace = b.record t.world qs := hrun.answers
  have result : t.result = r := hrun.result
  rw [recorded, result]
  exact heeded

/-- **A fatal failure ends the pass** at once, with its fault. -/
theorem ended_by_fatal {t : Turn c b} {u v : List Entry} {q : Query} {e : Fault}
    (split : t.trace = u ++ .asked q (.error e) :: v) (fatal : q.fatal = true) :
    Program.queries v = [] ∧ t.result = .error (.fault e) := by
  have heeded := t.heeded
  rw [split, answers_append] at heeded
  obtain ⟨nothing, hresult⟩ := Heeded.of_fatal (u := answers v) heeded fatal
  refine ⟨?_, hresult⟩
  rw [← queries_answers, nothing]
  rfl

/-- **A fault at the end of a pass** is that of a fatal access, and only tolerated ones have failed
before it. -/
theorem fatal_of_fault {t : Turn c b} {e : Fault} (h : t.result = .error (.fault e)) :
    ∃ u q v, t.trace = u ++ .asked q (.error e) :: v ∧ q.fatal = true ∧ Tolerable u := by
  have heeded := t.heeded
  rw [h] at heeded
  generalize hanswers : answers t.trace = es at heeded
  cases heeded with
  | spared tolerable faultless => exact absurd rfl (faultless e)
  | @ended before q e tolerable fatal =>
    obtain ⟨u, v, split, rfl, -⟩ := split_of_answers hanswers
    exact ⟨u, q, v, split, fatal, tolerable_answers.1 tolerable⟩

end Turn

/-- Which failures end a pass, and how. -/
structure FailurePolicy (t : Turn c b) : Prop where
  /-- After a fatal failure nothing is accessed, and the pass ends with its fault. -/
  ends : ∀ u q e v, t.trace = u ++ .asked q (.error e) :: v → q.fatal = true →
    Program.queries v = [] ∧ t.result = .error (.fault e)
  /-- A fault at the end of the pass is that of a fatal access, and before it only tolerated ones
  have failed. -/
  cause : ∀ e, t.result = .error (.fault e) →
    ∃ u q v, t.trace = u ++ .asked q (.error e) :: v ∧ q.fatal = true ∧ Tolerable u
  fails_iff : (∃ e, t.result = .error (.fault e)) ↔
    ∃ q e, q.fatal = true ∧ .asked q (.error e) ∈ t.trace
  /-- No combination of tolerated failures ends the pass. -/
  tolerates : Tolerable t.trace → ∀ e, t.result ≠ .error (.fault e)

/-- **Which failures end a pass**: from every control state and on every board, those of a register,
of a chassis fan that cannot be read and of the primary fan that refuses its speed. -/
theorem failure_policy (t : Turn c b) : FailurePolicy t where
  ends _ _ _ _ split fatal := Turn.ended_by_fatal split fatal
  cause _ h := Turn.fatal_of_fault h
  fails_iff := by
    constructor
    · rintro ⟨e, h⟩
      obtain ⟨u, q, v, split, fatal, -⟩ := Turn.fatal_of_fault h
      refine ⟨q, e, fatal, ?_⟩
      rw [split]
      exact List.mem_append_right _ List.mem_cons_self
    · rintro ⟨q, e, fatal, hmem⟩
      obtain ⟨u, v, split⟩ := List.append_of_mem hmem
      exact ⟨e, (Turn.ended_by_fatal split fatal).2⟩
  tolerates tolerable e h := by
    obtain ⟨u, q, v, split, fatal, -⟩ := Turn.fatal_of_fault h
    rw [split] at tolerable
    exact not_tolerable fatal (List.mem_append_right _ List.mem_cons_self) tolerable

end SwitchThermal
