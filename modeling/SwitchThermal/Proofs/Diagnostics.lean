import SwitchThermal.Bench.Trial
import SwitchThermal.Proofs.Pass
import SwitchThermal.Proofs.Requests
import SwitchThermal.Proofs.SpeedRules

/-!
# Diagnostic memory does not steer

The control state remembers the last band and the last readings of fans and supplies, for messages
alone. Two controllers that remember different things may say different things; they do the same.

* `ControlState.Alike` — the states agree in everything else.
* `Pass.InStep` — two parts of a pass make the same accesses, and come to alike results and states.
  The rules follow the ways in which passes are put together; notices are free.
* `Controller.pass_inStep` — a pass keeps in step with itself.
* `diagnostics_never_steer` — so do requests in a row.
-/

set_option autoImplicit false

namespace SwitchThermal

variable {σ α β : Type}

/-! ## Alike states and results -/

/-- The control states agree in everything but what messages are compared with. -/
structure ControlState.Alike (s s' : ControlState) : Prop where
  cooldown : s.cooldown = s'.cooldown
  baseline : s.baseline = s'.baseline
  enabled : s.enabled = s'.enabled
  initialised : s.initialised = s'.initialised
  shutdownReported : s.shutdownReported = s'.shutdownReported

namespace ControlState.Alike

variable {s s' : ControlState}

theorem tickCooldown (h : s.Alike s') : s.tickCooldown.Alike s'.tickCooldown :=
  { h with cooldown := congrArg (· - 1) h.cooldown }

theorem storeBaseline (h : s.Alike s') (samples : Readings) :
    (s.storeBaseline samples).Alike (s'.storeBaseline samples) :=
  { h with baseline := congrArg (·.overlay samples) h.baseline }

theorem settle (h : s.Alike s') (params : Params) (samples : Option Readings) :
    (Actuator.settle params samples s).Alike (Actuator.settle params samples s') := by
  have restarted : { s with cooldown := params.cooldown }.Alike
      { s' with cooldown := params.cooldown } := { h with cooldown := rfl }
  cases samples with
  | none => exact restarted
  | some samples => exact restarted.storeBaseline samples

end ControlState.Alike

/-- The findings about the fans agree in what the speed depends on. -/
structure FanSurvey.Alike (v v' : FanSurvey) : Prop where
  current : v.current = v'.current
  problem : v.problem = v'.problem

theorem FanSurvey.Alike.add {v v' : FanSurvey} (h : v.Alike v') (f : Fan) (r : FanReading)
    (reported reported' : Bool) : (v.add f r reported).Alike (v'.add f r reported') := by
  unfold FanSurvey.add
  split
  · exact { h with current := rfl }
  · exact { h with problem := rfl }

/-- The findings about the supplies agree in what the speed depends on. -/
structure SupplySurvey.Alike (v v' : SupplySurvey) : Prop where
  problem : v.problem = v'.problem
  records : v.records = v'.records

/-- The same end of a part of a pass: related values, or the same halt. -/
inductive SameEnd (V : α → α → Prop) : Except Halt α → Except Halt α → Prop where
  | ok {a a' : α} (same : V a a') : SameEnd V (.ok a) (.ok a')
  | error (h : Halt) : SameEnd V (.error h) (.error h)

theorem SameEnd.eq {r r' : Except Halt α} (h : SameEnd Eq r r') : r = r' := by
  cases h with
  | ok same => exact congrArg Except.ok same
  | error h => rfl

/-! ## Parts in step -/

namespace Pass

/-- From alike states the parts make the same accesses to every board, and come to the same end and
to alike states. -/
structure InStep (V : α → α → Prop) (p p' : Pass α) : Prop where
  yields : ∀ {σ : Type} (b : Board σ) (w : σ) {s s' : ControlState}, s.Alike s' →
    ∃ r r' t t' qs, Yields b w s p r t qs ∧ Yields b w s' p' r' t' qs ∧ SameEnd V r r' ∧ t.Alike t'

namespace InStep

variable {V : α → α → Prop} {U : β → β → Prop} {p p' : Pass α} {f f' : α → Pass β}

theorem pure {a a' : α} (same : V a a') : InStep V (Pure.pure a) (Pure.pure a') where
  yields _ _ s s' alike := ⟨_, _, s, s', [], .pure a, .pure a', .ok same, alike⟩

theorem throw (h : Halt) : InStep V (MonadExcept.throw h) (MonadExcept.throw h) where
  yields _ _ s s' alike := ⟨_, _, s, s', [], .throw h, .throw h, .error h, alike⟩

theorem bind (hp : InStep V p p') (hf : ∀ a a', V a a' → InStep U (f a) (f' a')) :
    InStep U (p >>= f) (p' >>= f') := by
  refine ⟨fun b w s s' alike => ?_⟩
  obtain ⟨r, r', s₁, s₁', qs, hrun, hrun', same, alike₁⟩ := hp.yields b w alike
  cases same with
  | error h => exact ⟨_, _, s₁, s₁', qs, .bind_error hrun, .bind_error hrun', .error h, alike₁⟩
  | @ok a a' same =>
    obtain ⟨r, r', s₂, s₂', rs, hrest, hrest', same, alike₂⟩ :=
      (hf a a' same).yields b (b.after w qs) alike₁
    exact ⟨r, r', s₂, s₂', qs ++ rs, hrun.bind hrest, hrun'.bind hrest', same, alike₂⟩

/-- After the same value. -/
theorem bind_same (hp : InStep Eq p p') (hf : ∀ a, InStep U (f a) (f' a)) :
    InStep U (p >>= f) (p' >>= f') :=
  hp.bind fun a _ same => same ▸ hf a

theorem ofProgram (p : Program α) : InStep Eq (Pass.ofProgram p) (Pass.ofProgram p) := by
  refine ⟨fun b w s s' alike => ?_⟩
  have run := Program.yields_run b w p
  exact ⟨_, _, s, s', _, .ofProgram run, .ofProgram run, .ok rfl, alike⟩

theorem ask (q : DeviceQuery) : InStep Eq (Pass.ask q) (Pass.ask q) := ofProgram _

/-- What is told does not matter. -/
theorem tellAll (ns ns' : List Notice) : InStep Eq (Pass.tellAll ns) (Pass.tellAll ns') where
  yields _ _ s s' alike := ⟨_, _, s, s', [], .tellAll ns, .tellAll ns', .ok rfl, alike⟩

theorem tell (n : Notice) : InStep Eq (Pass.tell n) (Pass.tell n) := ofProgram _

/-- Nor does it matter whether something is told. -/
theorem tellIf {g g' : Unit → Pass α} {told told' : Bool} (n n' : Notice)
    (hg : InStep V (g ()) (g' ())) :
    InStep V (if told then Pass.tell n >>= g else g ())
      (if told' then Pass.tell n' >>= g' else g' ()) := by
  refine ⟨fun b w s s' alike => ?_⟩
  obtain ⟨r, r', t, t', qs, hrun, hrun', same, alike'⟩ := hg.yields b w alike
  refine ⟨r, r', t, t', qs, ?_, ?_, same, alike'⟩
  · split
    · exact .tell_bind hrun
    · exact hrun
  · split
    · exact .tell_bind hrun'
    · exact hrun'

theorem get_bind {f f' : ControlState → Pass β}
    (hf : ∀ s s', s.Alike s' → InStep U (f s) (f' s')) : InStep U (get >>= f) (get >>= f') where
  yields b w s s' alike := (hf s s' alike).yields b w alike

theorem modify {g g' : ControlState → ControlState}
    (hg : ∀ s s', s.Alike s' → (g s).Alike (g' s')) :
    InStep Eq (modify g : Pass PUnit) (modify g' : Pass PUnit) where
  yields _ _ s s' alike := ⟨_, _, g s, g' s', [], .modify g, .modify g', .ok rfl, hg s s' alike⟩

theorem need (q : DeviceQuery) (notice : Fault → Notice) :
    InStep Eq (Pass.need q notice) (Pass.need q notice) := by
  refine .bind_same (.ask q) fun answer => ?_
  cases answer with
  | ok a => exact .pure rfl
  | error e => exact .bind_same (.tell _) fun _ => .throw _

theorem perform (x : Action α) : InStep Eq (Pass.perform x) (Pass.perform x) := by
  refine .bind_same (.ofProgram x.run) fun result => ?_
  cases result with
  | ok a => exact .pure rfl
  | error e => exact .throw _

theorem bounded (x : Except Overflow α) : InStep Eq (Pass.bounded x) (Pass.bounded x) := by
  cases x with
  | ok a => exact .pure rfl
  | error e => exact .throw _

theorem onFault {notice : Fault → Notice} (hp : InStep V p p') :
    InStep V (p.onFault notice) (p'.onFault notice) := by
  refine ⟨fun b w s s' alike => ?_⟩
  obtain ⟨r, r', t, t', qs, hrun, hrun', same, alike'⟩ := hp.yields b w alike
  exact ⟨r, r', t, t', qs, hrun.onFault, hrun'.onFault, same, alike'⟩

theorem foldlM {κ : Type} {f : α → κ → Pass α}
    (hf : ∀ v v' k, V v v' → InStep V (f v k) (f v' k)) (l : List κ) {v v' : α} (same : V v v') :
    InStep V (l.foldlM f v) (l.foldlM f v') := by
  induction l generalizing v v' with
  | nil => exact .pure same
  | cons k l ih =>
    rw [List.foldlM_cons, List.foldlM_cons]
    exact .bind (hf v v' k same) fun _ _ same => ih same

end InStep

end Pass

/-! ## The parts of a pass -/

/-- The fan readings before this one decide what is reported, not what is found. -/
theorem surveyFan_inStep {v v' : FanSurvey} (f : Fan) (same : v.Alike v') :
    Pass.InStep FanSurvey.Alike (surveyFan v f) (surveyFan v' f) := by
  refine .bind_same (.need _ _) fun r => .get_bind fun _ _ _ => ?_
  -- the notices differ, and with them what is said to be reported; nothing else reads the memory
  refine .bind_same (.tellAll _ _) fun _ => ?_
  refine .bind_same (.modify fun _ _ alike => { alike with }) fun _ => ?_
  exact .pure (same.add f r _ _)

theorem surveyFans_inStep : Pass.InStep FanSurvey.Alike surveyFans surveyFans :=
  .bind (.foldlM (fun _ _ f same => surveyFan_inStep f same) _ ⟨rfl, rfl⟩) fun _ _ same =>
    .tellIf _ _ (.pure same)

/-- So it is with the supplies. -/
theorem surveySupply_inStep {v v' : SupplySurvey} (p : PowerSupply) (same : v.Alike v') :
    Pass.InStep SupplySurvey.Alike (surveySupply v p) (surveySupply v' p) := by
  refine .bind_same (.ask _) fun answer => ?_
  cases answer with
  | ok r =>
    refine .get_bind fun _ _ _ => .bind_same (.tellAll _ _) fun _ => ?_
    refine .bind_same (.modify fun _ _ alike => { alike with }) fun _ => ?_
    have problem : (v.problem || !r.present) = (v'.problem || !r.present) := by rw [same.problem]
    have records : v.records ++ [r] = v'.records ++ [r] := by rw [same.records]
    exact .pure ⟨problem, records⟩
  | error e => exact .bind_same (.tell _) fun _ => .pure ⟨rfl, same.records⟩

theorem surveySupplies_inStep : Pass.InStep SupplySurvey.Alike surveySupplies surveySupplies :=
  .bind (.foldlM (fun _ _ p same => surveySupply_inStep p same) _ ⟨rfl, rfl⟩) fun _ _ same =>
    .tellIf _ _ (.pure same)

theorem sweepOver_inStep (table : BandTable) (l : List Sensor) (v : Sweep) :
    Pass.InStep Eq (sweepOver table l v) (sweepOver table l v) := by
  induction l generalizing v with
  | nil => exact .pure rfl
  | cons x l ih =>
    refine .bind_same (.ask _) fun answer => ?_
    cases answer with
    | error e => exact .bind_same (.tell _) fun _ => ih v
    | ok r =>
      simp only
      split
      · exact .bind_same (.tell _) fun _ => ih v
      · split
        · exact .bind_same (.tell _) fun _ => .bind_same (.perform _) fun _ => .pure rfl
        · split
          · exact .bind_same (.tell _) fun _ => ih _
          · exact ih _

theorem setFans_inStep (params : Params) (percentage : Nat) (view : SupplyView)
    (samples : Option Readings) : Pass.InStep Eq (Actuator.setFans params percentage view samples)
      (Actuator.setFans params percentage view samples) :=
  .bind_same (.need (.setFan .primary percentage) _) fun _ => .bind_same (.ofProgram _) fun _ =>
    .bind_same (.modify fun _ _ alike => alike.settle params samples) fun _ => .tell _

/-- The band before this one decides whether it is told, and it is noted in any case. -/
theorem noteBand_inStep (v : Severity) :
    Pass.InStep Eq (Controller.noteBand v) (Controller.noteBand v) where
  yields _ _ _ _ alike := ⟨_, _, _, _, [], Controller.yields_noteBand v,
    Controller.yields_noteBand v, .ok rfl, { alike with }⟩

namespace Controller

variable (c : Controller)

theorem start_inStep : Pass.InStep Eq c.start c.start := by
  refine .bind_same (.ofProgram _) fun settings => ?_
  refine .bind_same (.modify fun _ _ alike => { alike with enabled := rfl }) fun _ => ?_
  refine .bind_same (.tell _) fun _ => ?_
  split
  · exact .tell _
  · refine .bind_same (.tell _) fun _ => .bind_same (.perform _) fun _ => ?_
    refine .bind_same (.perform _) fun latched => ?_
    split
    · exact .bind_same (.ofProgram _) fun samples =>
        .modify fun _ _ alike => alike.storeBaseline samples
    · exact .pure rfl

theorem ensureStarted_inStep : Pass.InStep Eq c.ensureStarted c.ensureStarted := by
  refine .get_bind fun s s' alike => ?_
  rw [alike.initialised]
  split
  · exact .bind_same (.onFault c.start_inStep) fun _ =>
      .modify fun _ _ alike => { alike with initialised := rfl }
  · exact .pure rfl

theorem keepShutdown_inStep : Pass.InStep Eq c.keepShutdown c.keepShutdown := by
  refine .get_bind fun s s' alike => ?_
  rw [alike.shutdownReported]
  split
  · exact .pure rfl
  · refine .bind_same (.tell _) fun _ => .bind_same (setFans_inStep _ _ _ _) fun _ => ?_
    exact .bind_same (.modify fun _ _ alike => { alike with shutdownReported := rfl }) fun _ =>
      .pure rfl

/-- The speed is chosen from cooldown and baseline, whatever else the states hold. -/
theorem choose_inStep (problem : Bool) (current : Nat) (v : Sweep) :
    Pass.InStep Eq (c.choose problem current v) (c.choose problem current v) := by
  unfold choose
  split
  · exact .pure rfl
  · refine .get_bind fun s s' alike => .bind_same (.tellAll _ _) fun _ => ?_
    rw [target_congr alike.cooldown alike.baseline]
    exact .bounded _

theorem conclude_inStep {fans fans' : FanSurvey} {supplies supplies' : SupplySurvey}
    (sameFans : fans.Alike fans') (sameSupplies : supplies.Alike supplies') (v : Sweep) :
    Pass.InStep Eq (c.conclude fans supplies v) (c.conclude fans' supplies' v) := by
  unfold conclude
  rw [sameFans.current, sameFans.problem, sameSupplies.problem, sameSupplies.records]
  refine .bind_same (noteBand_inStep _) fun _ => .bind_same (c.choose_inStep _ _ _) fun speed => ?_
  cases speed with
  | none => exact .pure rfl
  | some percentage => exact .bind_same (setFans_inStep _ _ _ _) fun _ => .pure rfl

theorem manage_inStep : Pass.InStep Eq c.manage c.manage := by
  refine .bind surveyFans_inStep fun fans fans' sameFans => ?_
  refine .bind surveySupplies_inStep fun supplies supplies' sameSupplies => ?_
  refine .bind_same (sweepOver_inStep _ _ _) fun result => ?_
  cases result with
  | complete v => exact c.conclude_inStep sameFans sameSupplies v
  | tripped x mcelsius threshold => exact .pure rfl

/-- **A pass keeps in step with itself** from alike states. -/
theorem pass_inStep : Pass.InStep Eq c.pass c.pass := by
  refine .bind_same c.ensureStarted_inStep fun _ => .get_bind fun s s' alike => ?_
  rw [alike.enabled]
  split
  · exact .pure rfl
  · refine .bind_same (.perform _) fun _ => ?_
    refine .bind_same (.modify fun _ _ alike => alike.tickCooldown) fun _ => ?_
    refine .bind_same (.perform _) fun latched => ?_
    split
    · exact c.keepShutdown_inStep
    · exact c.manage_inStep

end Controller

/-! ## Requests in a row -/

/-- What comes of a request from either of two control states. -/
structure SameConduct (o o' : Outcome σ (Response × ControlState)) : Prop where
  response : o.value.1 = o'.value.1
  /-- Cooldown, baseline and flags are the same afterwards. -/
  control : o.value.2.Alike o'.value.2
  /-- The same accesses are made, to registers, devices and the control file, and answered alike. -/
  accesses : answers o.trace = answers o'.trace
  /-- The board is left in the same state. -/
  world : o.world = o'.world

theorem SameConduct.of_matches {o o' : Outcome σ (Response × ControlState)}
    (h : o.Matches Eq (SameResponse ControlState.Alike) o') : SameConduct o o' where
  response := h.value.response
  control := h.value.control
  accesses := h.answers
  world := h.world

/-- **One request** from alike states. -/
theorem Request.sameConduct (request : Request) (c : Controller) (b : Board σ)
    {s s' : ControlState} {w w' : σ} (alike : s.Alike s') (same : w = w') :
    ((request.program c s).run b w).Matches Eq (SameResponse ControlState.Alike)
      ((request.program c s').run b w') := by
  subst same
  cases request with
  | pass =>
    obtain ⟨r, r', t, t', qs, hrun, hrun', same, alike⟩ := c.pass_inStep.yields b w alike
    exact (Program.Yields.map hrun _).matches (Program.Yields.map hrun' _)
      ⟨congrArg Response.pass same.eq, alike⟩
  | panel =>
    have run := Program.yields_run b w Panel.update.run
    exact (run.map _).matches (run.map _) ⟨rfl, alike⟩

/-- **Diagnostic memory never steers the fans.** From control states that differ only in what they
remember for messages, all requests come to the same; only the notices may differ. -/
theorem diagnostics_never_steer (c : Controller) (b : Board σ) {s s' : ControlState}
    (alike : s.Alike s') (w : σ) (requests : List (Request × (σ → σ))) :
    List.Forall₂ SameConduct (c.serve b s w requests) (c.serve b s' w requests) := by
  have rows : List.Forall₂ (SameRequest Eq) requests requests :=
    List.forall₂_same.2 fun x _ => ⟨rfl, fun _ _ same => congrArg x.2 same⟩
  have matched : List.Forall₂ (Outcome.Matches Eq (SameResponse ControlState.Alike))
      (c.serve b s w requests) (c.serve b s' w requests) :=
    Controller.serve_matches (fun request => request.sameConduct c b) alike rfl rows
  exact matched.imp fun _ _ => .of_matches

section Trial

open Bench

/-- The algorithm runs, and remembers the band and that a fan and a supply are missing. -/
def remembering : ControlState :=
  { running 0 with
    previousBand := some .low
    previousFans := Cells.ofList [(.chassis ⟨1, by decide⟩, .absent (.chassis ⟨1, by decide⟩))]
    previousSupplies := Cells.ofList [(.first, ⟨.first, false, false, false⟩)] }

/-- Two passes on a bench without that fan and that supply, and an update of the panel between
them. -/
def serveMissing (s : ControlState) : List (Outcome World (Response × ControlState)) :=
  trialController.serve trialBoard s
    (.patched 80 [.fan (.chassis ⟨1, by decide⟩) (.ok { present := some false }),
      .supply .first (.ok { present := some false })])
    [(.pass, id), (.panel, id), (.pass, id)]

/-- How much is told in each of them. -/
def noticesMissing (s : ControlState) : List Nat :=
  (serveMissing s).map fun o => (Program.notices o.trace).length

/-- What is remembered is not told again, and that is all. -/
theorem diagnostics_never_steer_at_80 :
    (running 0).Alike remembering ∧ noticesMissing (running 0) = [8, 0, 3] ∧
      noticesMissing remembering = [3, 0, 3] ∧
      List.Forall₂ SameConduct (serveMissing (running 0)) (serveMissing remembering) := by
  have alike : (running 0).Alike remembering := ⟨rfl, rfl, rfl, rfl, rfl⟩
  exact ⟨alike, by rfl, by rfl, diagnostics_never_steer _ _ alike _ _⟩

end Trial

end SwitchThermal
