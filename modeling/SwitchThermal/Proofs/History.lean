import SwitchThermal.Proofs.Start

/-!
# Passes in a row

A history is a row of passes that hand on the control state. The surroundings are arbitrary: each
pass finds the board in a state of its own, so anything may happen to it between two passes.

* `Turn` — one pass of a history, by the board's state and the control state that it finds.
* `Turn.course`, `Turn.parts` — how the pass goes, as a whole and with its start apart.
* `Controller.history` — the passes, from a control state and the states of the board.
* `Controller.history_induction` — what holds of the first control state, and after a pass if it did
  before, holds before every pass.
-/

set_option autoImplicit false

namespace SwitchThermal

variable {σ : Type}

/-- A pass of a controller on a board, by what it finds. -/
structure Turn (c : Controller) (b : Board σ) where
  world : σ
  before : ControlState

namespace Turn

variable {c : Controller} {b : Board σ}

/-- What comes of the pass. -/
def outcome (t : Turn c b) : Outcome σ (Except Halt PassReport × ControlState) :=
  c.pass.runOn b t.before t.world

/-- How the pass ends. -/
def result (t : Turn c b) : Except Halt PassReport :=
  t.outcome.value.1

/-- Why the pass stops early, if it does. -/
def halt? (t : Turn c b) : Option Halt :=
  match t.result with
  | .ok _ => none
  | .error h => some h

/-- The control state that the pass hands on. -/
def after (t : Turn c b) : ControlState :=
  t.outcome.value.2

def trace (t : Turn c b) : List Entry :=
  t.outcome.trace

/-- What comes of the start of the pass. -/
def start (t : Turn c b) : Outcome σ (Except Halt Unit × ControlState) :=
  c.ensureStarted.runOn b t.before t.world

/-- The control state after the start. -/
def ready (t : Turn c b) : ControlState :=
  t.start.value.2

/-- What the board shows to the pass after its start. -/
def round (t : Turn c b) : Round :=
  b.round c.table t.start.world

theorem result_of_halt {t : Turn c b} {h : Halt} (stopped : t.halt? = some h) :
    t.result = .error h := by
  unfold halt? at stopped
  split at stopped
  · cases stopped
  · rename_i hresult
    cases stopped
    exact hresult

/-- The pass has a course. -/
theorem course (t : Turn c b) :
    ∃ qs, c.Course b t.world t.before t.result t.after qs ∧
      Pass.Yields b t.world t.before c.pass t.result t.after qs := by
  obtain ⟨r, s', qs, hcourse, hpass⟩ := Controller.pass_course c b t.world t.before
  obtain rfl : t.result = r := hpass.result
  obtain rfl : t.after = s' := hpass.state
  exact ⟨qs, hcourse, hpass⟩

/-- The start of the pass, and what follows it. -/
theorem parts (t : Turn c b) :
    ∃ starts, c.Starts b t.world t.before t.start.value.1 t.ready starts ∧
      t.start.world = b.after t.world starts ∧
      ((∃ h, t.start.value.1 = .error h ∧
          Pass.Yields b t.world t.before c.pass (.error h) t.ready starts) ∨
        t.start.value.1 = .ok () ∧
          ∃ qs, c.Ends b (b.after t.world starts) t.ready t.result t.after qs ∧
            Pass.Yields b t.world t.before c.pass t.result t.after (starts ++ qs)) := by
  obtain ⟨r₁, s₁, starts, hstarts, hstart, hpass⟩ := Controller.pass_parts c b t.world t.before
  obtain rfl : t.start.value.1 = r₁ := hstart.result
  obtain rfl : t.ready = s₁ := hstart.state
  refine ⟨starts, hstarts, hstart.world, hpass.imp_right ?_⟩
  rintro ⟨started, r, s', qs, hends, hpass⟩
  obtain rfl : t.result = r := hpass.result
  obtain rfl : t.after = s' := hpass.state
  exact ⟨started, qs, hends, hpass⟩

/-- The trace of a pass begins with that of its start. -/
theorem start_trace (t : Turn c b) : t.start.trace <+: t.trace := by
  have run := Program.run_bind b (c.ensureStarted.run.run t.before)
    (fun x => (ExceptT.bindCont (fun _ => c.proceed) x.1).run x.2) t.world
  have parts : t.trace = t.start.trace ++ _ := congrArg Outcome.trace run
  rw [parts]
  exact List.prefix_append _ _

/-- After a start that succeeds, the trace goes on with what follows it. -/
theorem trace_of_started (t : Turn c b) (started : t.start.value.1 = .ok ()) :
    t.trace = t.start.trace ++ (c.proceed.runOn b t.ready t.start.world).trace := by
  have run := Program.run_bind b (c.ensureStarted.run.run t.before)
    (fun x => (ExceptT.bindCont (fun _ => c.proceed) x.1).run x.2) t.world
  have value : (Program.run b (c.ensureStarted.run.run t.before) t.world).value =
      (.ok (), t.ready) := Prod.ext started rfl
  rw [value] at run
  exact congrArg Outcome.trace run

end Turn

namespace Controller

variable {c : Controller} {b : Board σ}

/-- The passes on a board in the given states, one after another. -/
def history (c : Controller) (b : Board σ) : ControlState → List σ → List (Turn c b)
  | _, [] => []
  | s, w :: ws => ⟨w, s⟩ :: history c b (Turn.after (c := c) (b := b) ⟨w, s⟩) ws

theorem history_first {s : ControlState} {ws : List σ} {t : Turn c b}
    (h : (c.history b s ws)[0]? = some t) : t.before = s := by
  cases ws with
  | nil => cases h
  | cons w ws =>
    cases h
    rfl

/-- Each pass but the first finds the control state that the one before it has handed on. -/
theorem history_next {s : ControlState} {ws : List σ} {k : Nat} {t : Turn c b}
    (h : (c.history b s ws)[k + 1]? = some t) :
    ∃ u, (c.history b s ws)[k]? = some u ∧ t.before = u.after := by
  induction ws generalizing s k with
  | nil => cases h
  | cons w ws ih =>
    cases k with
    | zero => exact ⟨_, rfl, history_first h⟩
    | succ k => exact ih h

/-- **Induction along a history.** -/
theorem history_induction {s : ControlState} {ws : List σ} {P : Nat → ControlState → Prop}
    (start : P 0 s)
    (step : ∀ (k : Nat) (t : Turn c b), (c.history b s ws)[k]? = some t →
      P k t.before → P (k + 1) t.after)
    {k : Nat} {t : Turn c b} (h : (c.history b s ws)[k]? = some t) : P k t.before := by
  induction k generalizing t with
  | zero =>
    rw [history_first h]
    exact start
  | succ k ih =>
    obtain ⟨u, hu, handed⟩ := history_next h
    rw [handed]
    exact step k u hu (ih hu)

/-- Induction along a history from the end of one of its passes on. -/
theorem history_induction_after {s : ControlState} {ws : List σ} {i : Nat} {t : Turn c b}
    (hi : (c.history b s ws)[i]? = some t) {P : Nat → ControlState → Prop}
    (start : P (i + 1) t.after)
    (step : ∀ (k : Nat) (u : Turn c b), i < k → (c.history b s ws)[k]? = some u →
      P k u.before → P (k + 1) u.after)
    {j : Nat} {u : Turn c b} (hij : i < j) (hj : (c.history b s ws)[j]? = some u) :
    P j u.before := by
  have later := history_induction (P := fun k s => i < k → P k s)
    (fun early => absurd early i.not_lt_zero) (fun k u hk before past => ?step) hj
  · exact later hij
  case step =>
    rcases Nat.lt_or_eq_of_le (Nat.le_of_lt_succ past) with past | rfl
    · exact step k u past hk (before past)
    · rw [hi] at hk
      cases hk
      exact start

end Controller

end SwitchThermal
