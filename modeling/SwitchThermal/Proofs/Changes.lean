import SwitchThermal.Controller
import SwitchThermal.Proofs.Round
import SwitchThermal.Proofs.Run

/-!
# What a pass says of the changes it sees

Of a fan or a supply a pass says what its readings are worth, each compared with the one before.
What is compared is the reading alone, so the parts of a pass need not be told apart: the readings
and the messages of a pass are those of its parts, one after another.

* `Watch` — an entity that is watched: its readings in a trace, what is remembered of it, and what a
  reading is worth, given the one before it.
* `Watch.changes`, `Watch.latest` — the messages that readings in a row are worth, and what is
  remembered after them.
* `Watch.Follows` — a part of a pass says of the entity what the changes are worth, and remembers
  its last reading. The rules follow the ways in which passes are put together.
* `Watch.Sound.pass` — so does every pass, if the survey does, unless it sets full speed for a
  latched shutdown.
-/

set_option autoImplicit false

namespace SwitchThermal

variable {σ α β P : Type}

/-- Does it tell of an absence or of an invalid speed? -/
def Notice.problem : Notice → Bool
  | .fanAbsent _ | .fanSpeedInvalid .. | .supplyAbsent _ => true
  | _ => false

/-- Is it the reading of a chassis fan or of a supply? -/
def Query.surveys : Query → Bool
  | .device (.fan f) => f.isChassis
  | .device (.supply _) => true
  | _ => false

/-- The board does not tell of problems itself. -/
def Board.Unspoken (b : Board σ) : Prop :=
  ∀ q w, ∀ n ∈ (b q w).notices, n.problem = false

/-! ## Runs of parts -/

namespace Pass

variable {b : Board σ} {w : σ} {s : ControlState} {p : Pass α} {f : α → Pass β}

/-- A part that goes on, and the next one. -/
theorem runOn_bind_ok {a : α} {s₁ : ControlState} (h : (p.runOn b s w).value = (.ok a, s₁)) :
    (p >>= f).runOn b s w =
      ⟨((f a).runOn b s₁ (p.runOn b s w).world).value,
        ((f a).runOn b s₁ (p.runOn b s w).world).world,
        (p.runOn b s w).trace ++ ((f a).runOn b s₁ (p.runOn b s w).world).trace⟩ := by
  have run := Program.run_bind b (p.run.run s) (fun x => (ExceptT.bindCont f x.1).run x.2) w
  rw [show (Program.run b (p.run.run s) w).value = (.ok a, s₁) from h] at run
  exact run

/-- A part that stops. -/
theorem runOn_bind_error {e : Halt} {s₁ : ControlState}
    (h : (p.runOn b s w).value = (.error e, s₁)) :
    (p >>= f).runOn b s w = ⟨(.error e, s₁), (p.runOn b s w).world, (p.runOn b s w).trace⟩ := by
  have run := Program.run_bind b (p.run.run s) (fun x => (ExceptT.bindCont f x.1).run x.2) w
  rw [show (Program.run b (p.run.run s) w).value = (.error e, s₁) from h] at run
  exact run.trans (congrArg (Outcome.mk ((.error e : Except Halt β), s₁) (p.runOn b s w).world)
    (List.append_nil (p.runOn b s w).trace))

theorem runOn_ofProgram (p : Program α) :
    (Pass.ofProgram p).runOn b s w =
      ⟨(.ok (p.run b w).value, s), (p.run b w).world, (p.run b w).trace⟩ := by
  have run_eq : (Pass.ofProgram p).run.run s =
      p >>= fun a => Pure.pure ((.ok a : Except Halt α), s) := by
    simp [Pass.ofProgram]
  unfold runOn
  rw [run_eq, Program.run_bind, Program.run_pure, List.append_nil]

end Pass

/-- Noting a fault adds no more than a notice. -/
theorem Pass.runOn_onFault (p : Pass α) (notice : Fault → Notice) (b : Board σ) (s : ControlState)
    (w : σ) : ∃ ns : List Notice, (∀ n ∈ ns, ∃ e, n = notice e) ∧ (p.onFault notice).runOn b s w =
      ⟨(p.runOn b s w).value, (p.runOn b s w).world, (p.runOn b s w).trace ++ ns.map .noted⟩ := by
  have run : (p.onFault notice).runOn b s w = _ := Program.run_bind b (p.run.run s) _ w
  rw [run]
  show ∃ ns : List Notice, _ ∧ (⟨_, _, (p.runOn b s w).trace ++ _⟩ : Outcome σ _) = _
  cases value : (p.runOn b s w).value with
  | mk r s₁ =>
    have value' : (Program.run b (p.run.run s) w).value = (r, s₁) := value
    rw [value']
    rcases r with (e | e) | a
    · exact ⟨[notice e], List.forall_mem_singleton.2 ⟨e, rfl⟩, rfl⟩
    · exact ⟨[], List.forall_mem_nil _, rfl⟩
    · exact ⟨[], List.forall_mem_nil _, rfl⟩

/-! ## Programs apart from the survey -/

namespace Program

/-- The program neither makes an access of the survey nor tells of a problem. -/
def Apart : Program α → Prop
  | .done _ => True
  | .note n rest => n.problem = false ∧ Apart rest
  | .ask q k => q.surveys = false ∧ ∀ a, Apart (k a)

namespace Apart

theorem pure (a : α) : Apart (Pure.pure a : Program α) := trivial

theorem tell {n : Notice} (h : n.problem = false) : Apart (Program.tell n) := ⟨h, trivial⟩

theorem query {q : Query} (h : q.surveys = false) : Apart (Program.query q) :=
  ⟨h, fun _ => trivial⟩

theorem bind {p : Program α} {f : α → Program β} (hp : Apart p) (hf : ∀ a, Apart (f a)) :
    Apart (p >>= f) := by
  show Apart (p.bind f)
  induction p with
  | done a => exact hf a
  | note n rest ih => exact ⟨hp.1, ih hp.2⟩
  | ask q k ih => exact ⟨hp.1, fun a => ih a (hp.2 a)⟩

theorem query_bind {q : Query} {f : Except Fault q.Payload → Program α} (h : q.surveys = false)
    (ok : ∀ r, Apart (f (.ok r))) (error : ∀ e, Apart (f (.error e))) :
    Apart (Program.query q >>= f) := by
  refine .bind (.query h) fun answer => ?_
  cases answer with
  | ok r => exact ok r
  | error e => exact error e

theorem forM {κ : Type} {f : κ → Program Unit} (hf : ∀ k, Apart (f k)) (l : List κ) :
    Apart (l.forM f) := by
  induction l with
  | nil => exact .pure ()
  | cons k l ih => exact (hf k).bind fun _ => ih

theorem foldlM {κ γ : Type} {f : γ → κ → Program γ} (hf : ∀ v k, Apart (f v k)) (l : List κ)
    (v : γ) : Apart (l.foldlM f v) := by
  induction l generalizing v with
  | nil => exact .pure v
  | cons k l ih =>
    rw [List.foldlM_cons]
    exact (hf v k).bind fun v => ih v

theorem action_bind {x : Action α} {f : α → Action β} (hx : Apart x.run)
    (hf : ∀ a, Apart (f a).run) : Apart (x >>= f).run := by
  refine Apart.bind hx fun answer => ?_
  cases answer with
  | ok a => exact hf a
  | error e => exact .pure _

end Apart

end Program

/-! ## What is watched -/

/-- An entity that is watched. -/
structure Watch (P : Type) where
  /-- The reading of the entity, if the entry is one. -/
  sample : Entry → Option P
  /-- What is remembered of it. -/
  memory : ControlState → Option P
  /-- What a reading is worth, given the one before it. -/
  worth : Option P → P → Option Notice
  /-- Is the notice a message about it? -/
  about : Notice → Bool

namespace Watch

variable (e : Watch P)

/-- The messages that readings in a row are worth. -/
def changes : Option P → List P → List Notice
  | _, [] => []
  | before, r :: rs => (e.worth before r).toList ++ changes (some r) rs

/-- What is remembered after readings in a row. -/
def latest (before : Option P) (rs : List P) : Option P :=
  rs.foldl (fun _ r => some r) before

/-- The readings in a trace. -/
def readings (t : List Entry) : List P := t.filterMap e.sample

/-- The messages in a trace. -/
def messages (t : List Entry) : List Notice := (Program.notices t).filter e.about

theorem changes_append (before : Option P) (rs rs' : List P) :
    e.changes before (rs ++ rs') = e.changes before rs ++ e.changes (latest before rs) rs' := by
  induction rs generalizing before with
  | nil => rfl
  | cons r rs ih =>
    rw [List.cons_append, changes, changes, ih, List.append_assoc]
    rfl

theorem latest_append (before : Option P) (rs rs' : List P) :
    latest before (rs ++ rs') = latest (latest before rs) rs' :=
  List.foldl_append

theorem readings_append (t u : List Entry) : e.readings (t ++ u) = e.readings t ++ e.readings u :=
  List.filterMap_append

theorem messages_append (t u : List Entry) :
    e.messages (t ++ u) = e.messages t ++ e.messages u := by
  unfold messages Program.notices
  rw [List.filterMap_append, List.filter_append]

/-- A run says of the entity what the changes are worth, and remembers its last reading. -/
structure Kept (s : ControlState) (o : Outcome σ (Except Halt α × ControlState)) : Prop where
  messages : e.messages o.trace = e.changes (e.memory s) (e.readings o.trace)
  memory : e.memory o.value.2 = latest (e.memory s) (e.readings o.trace)

/-- On every board that leaves the problems to the pass, the part of the pass keeps to the entity.
Some values excuse it. -/
structure Follows (excused : α → Prop) (p : Pass α) : Prop where
  kept : ∀ {σ : Type} (b : Board σ), b.Unspoken → ∀ (w : σ) (s : ControlState),
    (∃ a, (p.runOn b s w).value.1 = .ok a ∧ excused a) ∨ e.Kept s (p.runOn b s w)

/-- The watch takes no notice of anything but the survey. -/
structure Regular : Prop where
  problem : ∀ n, n.problem = false → e.about n = false
  noted : ∀ n, e.sample (.noted n) = none
  asked : ∀ q, q.surveys = false → ∀ a, e.sample (.asked q a) = none
  memory : ∀ s s', s.previousFans = s'.previousFans →
    s.previousSupplies = s'.previousSupplies → e.memory s = e.memory s'

variable {e}

/-- Notices that are no problems say nothing of the entity. -/
theorem Regular.noted_nil (regular : e.Regular) {ns : List Notice}
    (h : ∀ n ∈ ns, n.problem = false) :
    e.messages (ns.map .noted) = [] ∧ e.readings (ns.map .noted) = [] := by
  induction ns with
  | nil => exact ⟨rfl, rfl⟩
  | cons n ns ih =>
    obtain ⟨here, rest⟩ := List.forall_mem_cons.1 h
    obtain ⟨messages, readings⟩ := ih rest
    constructor
    · exact (List.filter_cons_of_neg (by rw [regular.problem n here]; nofun)).trans messages
    · exact (List.filterMap_cons_none (regular.noted n)).trans readings

/-- Apart from the survey there is nothing to see, and nothing to say. -/
theorem Regular.silent (regular : e.Regular) {p : Program α} (hp : p.Apart) {b : Board σ}
    (unspoken : b.Unspoken) (w : σ) :
    e.messages (p.run b w).trace = [] ∧ e.readings (p.run b w).trace = [] := by
  induction p generalizing w with
  | done a => exact ⟨rfl, rfl⟩
  | note n rest ih =>
    obtain ⟨messages, readings⟩ := ih hp.2 w
    have here := regular.noted_nil (List.forall_mem_singleton.2 hp.1)
    rw [Program.run, ← List.singleton_append, e.messages_append, e.readings_append, messages,
      readings]
    exact ⟨congrArg (· ++ []) here.1, congrArg (· ++ []) here.2⟩
  | ask q k ih =>
    obtain ⟨messages, readings⟩ := ih _ (hp.2 (b q w).answer) (b q w).next
    have here := regular.noted_nil (unspoken q w)
    rw [Program.run, e.messages_append, e.readings_append, here.1, here.2]
    exact ⟨messages, (List.filterMap_cons_none (regular.asked q hp.1 _)).trans readings⟩

/-! ## Parts of a pass -/

namespace Follows

variable {e : Watch P} {excused : α → Prop} {other : β → Prop} {p : Pass α} {f : α → Pass β}

/-- Nothing excuses. -/
abbrev never {γ : Type} : γ → Prop := fun _ => False

theorem weaken (h : e.Follows never p) : e.Follows excused p where
  kept b unspoken w s := (h.kept b unspoken w s).imp_left fun ⟨_, _, no⟩ => no.elim

theorem pure (a : α) : e.Follows excused (Pure.pure a : Pass α) where
  kept _ _ _ _ := .inr ⟨rfl, rfl⟩

theorem throw (h : Halt) : e.Follows excused (MonadExcept.throw h : Pass α) where
  kept _ _ _ _ := .inr ⟨rfl, rfl⟩

/-- A run that goes on, and the next one. -/
theorem kept_append {o : Outcome σ (Except Halt α × ControlState)} {s : ControlState}
    {o' : Outcome σ (Except Halt β × ControlState)} (first : e.Kept s o)
    (rest : e.Kept o.value.2 o') : e.Kept s ⟨o'.value, o'.world, o.trace ++ o'.trace⟩ where
  messages := by
    rw [messages_append, first.messages, rest.messages, first.memory, readings_append,
      changes_append]
  memory := by
    rw [rest.memory, first.memory, readings_append, latest_append]

theorem bind (hp : e.Follows never p) (hf : ∀ a, e.Follows other (f a)) :
    e.Follows other (p >>= f) := by
  refine ⟨fun b unspoken w s => ?_⟩
  obtain ⟨_, _, no⟩ | first := hp.kept b unspoken w s
  · exact no.elim
  · cases run : (p.runOn b s w).value with
    | mk r s₁ =>
      cases r with
      | error h =>
        rw [Pass.runOn_bind_error run]
        refine .inr ⟨first.messages, first.memory.symm.trans ?_ |>.symm⟩
        rw [run]
      | ok a =>
        -- the second part compares its first reading with what the first part has remembered
        rw [Pass.runOn_bind_ok run]
        refine ((hf a).kept b unspoken (p.runOn b s w).world s₁).imp id fun rest => ?_
        exact kept_append first (by rw [run]; exact rest)

/-- A part whose success is an excuse for all that comes after it, if that succeeds and excuses. -/
theorem bind_excused (hp : e.Follows (fun _ => True) p)
    (hf : ∀ a {σ : Type} (b : Board σ) (w : σ) (s : ControlState),
      ∃ c, ((f a).runOn b s w).value.1 = .ok c ∧ other c) : e.Follows other (p >>= f) := by
  refine ⟨fun b unspoken w s => ?_⟩
  cases run : (p.runOn b s w).value with
  | mk r s₁ =>
    cases r with
    | error h =>
      obtain ⟨a, ok, -⟩ | first := hp.kept b unspoken w s
      · rw [run] at ok
        cases ok
      · rw [Pass.runOn_bind_error run]
        refine .inr ⟨first.messages, first.memory.symm.trans ?_ |>.symm⟩
        rw [run]
    | ok a =>
      rw [Pass.runOn_bind_ok run]
      exact .inl (hf a b _ _)

theorem ofProgram (regular : e.Regular) {p : Program α} (hp : p.Apart) :
    e.Follows excused (Pass.ofProgram p) where
  kept b unspoken w s := by
    obtain ⟨messages, readings⟩ := regular.silent hp unspoken w
    rw [Pass.runOn_ofProgram]
    exact .inr ⟨by rw [messages, readings]; rfl, by rw [readings]; rfl⟩

theorem ask (regular : e.Regular) {q : DeviceQuery} (h : (Query.device q).surveys = false) :
    e.Follows never (Pass.ask q) :=
  .ofProgram regular (.query h)

theorem tell (regular : e.Regular) {n : Notice} (h : n.problem = false) {excused : Unit → Prop} :
    e.Follows excused (Pass.tell n) :=
  .ofProgram regular (.tell h)

theorem tellAll (regular : e.Regular) {ns : List Notice} (h : ∀ n ∈ ns, n.problem = false) :
    e.Follows never (Pass.tellAll ns) := by
  refine .ofProgram regular ?_
  induction ns with
  | nil => trivial
  | cons n ns ih =>
    obtain ⟨here, rest⟩ := List.forall_mem_cons.1 h
    exact ⟨here, ih rest⟩

theorem get_bind {f : ControlState → Pass β} (hf : ∀ s, e.Follows other (f s)) :
    e.Follows other (get >>= f) where
  kept b unspoken w s := (hf s).kept b unspoken w s

/-- A change of the state that leaves the memory of the survey alone. -/
theorem modify (regular : e.Regular) {g : ControlState → ControlState}
    (fans : ∀ s, (g s).previousFans = s.previousFans)
    (supplies : ∀ s, (g s).previousSupplies = s.previousSupplies) :
    e.Follows never (modify g : Pass PUnit) where
  kept _ _ _ s := .inr ⟨rfl, regular.memory _ _ (fans s) (supplies s)⟩

theorem need (regular : e.Regular) {q : DeviceQuery} {notice : Fault → Notice}
    (h : (Query.device q).surveys = false) (quiet : ∀ e, (notice e).problem = false) :
    e.Follows never (Pass.need q notice) := by
  refine .bind (.ask regular h) fun answer => ?_
  cases answer with
  | ok a => exact .pure a
  | error e => exact .bind (.tell regular (quiet e)) fun _ => .throw _

theorem perform (regular : e.Regular) {x : Action α} (hx : Program.Apart x.run) :
    e.Follows excused (Pass.perform x) := by
  refine .bind (.ofProgram regular hx) fun answer => ?_
  cases answer with
  | ok a => exact .pure a
  | error e => exact .throw _

theorem bounded (x : Except Overflow α) : e.Follows excused (Pass.bounded x) := by
  cases x with
  | ok a => exact .pure a
  | error e => exact .throw _

theorem foldlM {κ γ : Type} {f : γ → κ → Pass γ} {l : List κ}
    (hf : ∀ v, ∀ k ∈ l, e.Follows never (f v k)) (v : γ) : e.Follows never (l.foldlM f v) := by
  induction l generalizing v with
  | nil => exact .pure v
  | cons k l ih =>
    rw [List.foldlM_cons]
    exact .bind (hf v k List.mem_cons_self) fun v' =>
      ih (fun v k hk => hf v k (List.mem_cons_of_mem _ hk)) v'

theorem onFault (regular : e.Regular) {notice : Fault → Notice} (hp : e.Follows never p)
    (quiet : ∀ e, (notice e).problem = false) : e.Follows never (p.onFault notice) := by
  refine ⟨fun b unspoken w s => .inr ?_⟩
  obtain ⟨_, _, no⟩ | first := hp.kept b unspoken w s
  · exact no.elim
  · obtain ⟨ns, notices, run⟩ := Pass.runOn_onFault p notice b s w
    have problems : ∀ n ∈ ns, n.problem = false := by
      intro n hn
      obtain ⟨e, rfl⟩ := notices n hn
      exact quiet e
    obtain ⟨messages, readings⟩ := regular.noted_nil problems
    rw [run]
    refine ⟨?_, ?_⟩
    · rw [messages_append, readings_append, messages, readings, List.append_nil, List.append_nil]
      exact first.messages
    · rw [readings_append, readings, List.append_nil]
      exact first.memory

end Follows

/-- The survey says of the entity what its readings are worth, and the watch takes no notice of
anything else. -/
structure Sound (e : Watch P) : Prop extends e.Regular where
  fan : ∀ v, ∀ f ∈ Fan.chassisFans, e.Follows Follows.never (surveyFan v f)
  supply : ∀ v p, e.Follows Follows.never (surveySupply v p)

end Watch

/-! ## The parts of a pass -/

open Watch.Follows (never)

namespace Program.Apart

theorem register (q : RegisterQuery) : Apart (Action.register q).run := .query rfl

theorem action_tell {n : Notice} (h : n.problem = false) : Apart (Action.tell n).run :=
  .bind (.tell h) fun _ => .pure _

theorem action_pure (a : α) : Apart (Pure.pure a : Action α).run := .pure _

theorem arm : Apart Watchdog.arm.run :=
  .action_bind (.register _) fun _ => .action_bind (.register _) fun _ =>
    .action_bind (.register _) fun _ => .action_bind (.register _) fun _ => .action_tell rfl

theorem refresh : Apart Watchdog.refresh.run :=
  .action_bind (.action_tell rfl) fun _ => .register _

theorem latched : Apart Watchdog.latched.run :=
  .action_bind (.register _) fun _ => .action_pure _

theorem latch : Apart Watchdog.latch.run :=
  .action_bind (.register _) fun _ => .register _

theorem settings (path : String) : Apart (readSettings path) :=
  .query_bind rfl (fun _ => .pure _) fun _ => .bind (.tell rfl) fun _ => .pure _

theorem temperatures (l : List Sensor) : Apart (firstTemperatures l) := by
  refine .foldlM (fun m x => .bind ?_ fun _ => .pure _) l _
  exact .query_bind rfl (fun _ => .pure _) fun _ => .bind (.tell rfl) fun _ => .pure _

/-- Supplies that have been sampled are not asked about again. -/
theorem follow (records : List SupplyReading) (percentage : Nat) (p : PowerSupply) :
    Apart (Actuator.followSupply (.sampled records) percentage p) := by
  unfold Actuator.followSupply
  simp only
  split
  · exact .pure ()
  · split
    · refine .query_bind rfl (fun reading => ?_) fun e => .tell rfl
      simp only
      split
      · exact .pure ()
      · refine .query_bind rfl (fun _ => .tell rfl) fun e => ?_
        simp only
        split
        · exact .tell rfl
        · exact .tell rfl
    · exact .pure ()

end Program.Apart

/-- What the bands are worth saying is about the speed. -/
theorem Controller.targetNotices_problem (c : Controller) (band : Band) (current : Nat)
    (samples : Readings) (s : ControlState) :
    ∀ n ∈ c.targetNotices band current samples s, n.problem = false := by
  intro n hn
  unfold targetNotices at hn
  split at hn
  · split at hn
    · rw [List.mem_singleton.1 hn]
      rfl
    · cases hn
  · split at hn
    · rw [List.mem_singleton.1 hn]
      rfl
    · split at hn
      · rw [List.mem_singleton.1 hn]
        rfl
      · cases hn
  · cases hn
  · cases hn
  · cases hn

namespace Watch.Sound

variable {e : Watch P} (sound : e.Sound) (c : Controller)

include sound

theorem surveyFans : e.Follows never SwitchThermal.surveyFans := by
  refine .bind (.foldlM sound.fan _) fun v => ?_
  split
  · exact .bind (.tell sound.toRegular rfl) fun _ => .pure v
  · exact .pure v

theorem surveySupplies : e.Follows never SwitchThermal.surveySupplies := by
  refine .bind (.foldlM (fun v p _ => sound.supply v p) _) fun v => ?_
  split
  · exact .bind (.tell sound.toRegular rfl) fun _ => .pure v
  · exact .pure v

theorem sweepOver (table : BandTable) (l : List Sensor) (v : Sweep) :
    e.Follows never (SwitchThermal.sweepOver table l v) := by
  have regular := sound.toRegular
  induction l generalizing v with
  | nil => exact .pure _
  | cons x l ih =>
    refine .bind (.ask regular rfl) fun answer => ?_
    cases answer with
    | error e => exact .bind (.tell regular rfl) fun _ => ih v
    | ok r =>
      simp only
      split
      · exact .bind (.tell regular rfl) fun _ => ih v
      · split
        · exact .bind (.tell regular rfl) fun _ =>
            .bind (.perform regular Program.Apart.latch) fun _ => .pure _
        · split
          · exact .bind (.tell regular rfl) fun _ => ih _
          · exact ih _

/-- The fan that carries the speed, on which the rest of a setting waits. -/
theorem primary (percentage : Nat) : e.Follows never (Pass.need (.setFan .primary percentage)
    fun e => .fanRefused .primary percentage e) :=
  .need sound.toRegular rfl fun _ => rfl

/-- The speed that a survey leads to. -/
theorem setFans (params : Params) (percentage : Nat) (records : List SupplyReading)
    (samples : Option Readings) :
    e.Follows never (Actuator.setFans params percentage (.sampled records) samples) := by
  have regular := sound.toRegular
  refine .bind (sound.primary percentage) fun _ => ?_
  refine .bind (.ofProgram regular (.forM (.follow records percentage) _)) fun _ => ?_
  refine .bind (.modify regular (fun s => ?fans) fun s => ?supplies) fun _ => .tell regular rfl
  case fans => cases samples <;> rfl
  case supplies => cases samples <;> rfl

/-- Full speed for a latched shutdown: once it is accepted, the supplies are asked about without
being remembered. -/
theorem setFans_query (params : Params) (percentage : Nat) (samples : Option Readings) :
    e.Follows (fun _ => True) (Actuator.setFans params percentage .query samples) := by
  -- after the primary fan nothing can fail any more, so all that follows is excused
  refine .bind_excused (sound.primary percentage).weaken fun _ _ b w s => ⟨(), ?_, trivial⟩
  have follow := Program.yields_run b w
    (PowerSupply.all.forM (Actuator.followSupply .query percentage))
  have rest := (Pass.Yields.ofProgram (s := s) follow).bind
    (f := fun _ => do
      modify (Actuator.settle params samples)
      Pass.tell (.fansSet percentage))
    (.modify_bind (.tell _))
  exact rest.result

theorem start : e.Follows never c.start := by
  have regular := sound.toRegular
  refine .bind (.ofProgram regular (.settings _)) fun settings => ?_
  refine .bind (.modify regular (fun _ => rfl) fun _ => rfl) fun _ => ?_
  refine .bind (.tell regular rfl) fun _ => ?_
  split
  · exact .tell regular rfl
  · refine .bind (.tell regular rfl) fun _ => ?_
    refine .bind (.perform regular .arm) fun _ => ?_
    refine .bind (.perform regular .latched) fun latched => ?_
    split
    · exact .bind (.ofProgram regular (.temperatures _)) fun samples =>
        .modify regular (fun _ => rfl) fun _ => rfl
    · exact .pure _

theorem ensureStarted : e.Follows never c.ensureStarted := by
  have regular := sound.toRegular
  refine .get_bind fun s => ?_
  split
  · exact .bind (.onFault regular (sound.start c) fun _ => rfl) fun _ =>
      .modify regular (fun _ => rfl) fun _ => rfl
  · exact .pure _

theorem keepShutdown : e.Follows (· = .shutdownLatched true) c.keepShutdown := by
  refine .get_bind fun s => ?_
  split
  · exact .pure _
  · refine .bind (.tell sound.toRegular rfl) fun _ => ?_
    exact .bind_excused (sound.setFans_query _ _ _) fun _ _ b w s => ⟨_, rfl, rfl⟩

theorem noteBand (v : Severity) : e.Follows never (Controller.noteBand v) := by
  have regular := sound.toRegular
  refine .get_bind fun s => ?_
  split
  · exact .bind (.tell regular rfl) fun _ => .modify regular (fun _ => rfl) fun _ => rfl
  · exact .pure _

theorem choose (problem : Bool) (current : Nat) (v : Sweep) :
    e.Follows never (c.choose problem current v) := by
  unfold Controller.choose
  split
  · exact .pure _
  · exact .get_bind fun s => .bind (.tellAll sound.toRegular (c.targetNotices_problem _ _ _ _))
      fun _ => .bounded _

theorem conclude (fans : FanSurvey) (supplies : SupplySurvey) (v : Sweep) :
    e.Follows never (c.conclude fans supplies v) := by
  refine .bind (sound.noteBand v.severity) fun _ => ?_
  refine .bind (sound.choose c _ _ _) fun speed => ?_
  cases speed with
  | none => exact .pure _
  | some percentage => exact .bind (sound.setFans _ _ _ _) fun _ => .pure _

theorem manage : e.Follows never c.manage := by
  refine .bind sound.surveyFans fun fans => .bind sound.surveySupplies fun supplies => ?_
  refine .bind (sound.sweepOver _ _ _) fun result => ?_
  cases result with
  | complete v => exact sound.conclude c fans supplies v
  | tripped x mcelsius threshold => exact .pure _

/-- **Every pass says of the entity what its readings are worth**, unless it sets full speed for a
latched shutdown. -/
theorem pass : e.Follows (· = .shutdownLatched true) c.pass := by
  have regular := sound.toRegular
  refine .bind (sound.ensureStarted c) fun _ => .get_bind fun s => ?_
  split
  · exact .pure _
  · refine .bind (.perform regular .refresh) fun _ => ?_
    refine .bind (.modify regular (fun _ => rfl) fun _ => rfl) fun _ => ?_
    refine .bind (.perform regular .latched) fun latched => ?_
    split
    · exact sound.keepShutdown c
    · exact .weaken (sound.manage c)

end Watch.Sound

end SwitchThermal
