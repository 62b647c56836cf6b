import Mathlib.Data.List.Forall2
import SwitchThermal.Controller
import SwitchThermal.Panel
import SwitchThermal.Proofs.Guarded

/-!
# Requests in a row

A controller is asked for passes and for updates of the panel, in any order, and anything may happen
to the board between two of them. Two such rows, from different control states or on different
boards, are compared request by request.

* `Outcome.Matches` — two runs that were answered the same, with related values and worlds.
* `Request`, `Controller.serve` — the requests, and what comes of each one of a row.
* `Controller.serve_matches` — a relation that one request keeps, every row keeps.
-/

set_option autoImplicit false

namespace SwitchThermal

variable {σ σ' α β : Type} {c : Controller} {b : Board σ} {w : σ}

/-! ## Outcomes -/

/-- The runs made the same accesses, were answered the same, and have related values and worlds.
They may have given different notices. -/
structure Outcome.Matches (R : σ → σ' → Prop) (V : α → β → Prop) (o : Outcome σ α)
    (o' : Outcome σ' β) : Prop where
  value : V o.value o'.value
  world : R o.world o'.world
  answers : answers o.trace = answers o'.trace

/-- Two programs that make the same accesses to one board. -/
theorem Program.Yields.matches {V : α → β → Prop} {p : Program α} {p' : Program β} {a : α} {a' : β}
    {qs : List Query} (h : Yields b w p a qs) (h' : Yields b w p' a' qs) (same : V a a') :
    (p.run b w).Matches Eq V (p'.run b w) where
  value := by
    rw [h.value, h'.value]
    exact same
  world := h.world.trans h'.world.symm
  answers := h.answers.trans h'.answers.symm

/-! ## Requests -/

/-- What is asked of a controller. -/
inductive Request where
  | pass
  /-- An update of the panel. -/
  | panel
  deriving DecidableEq, Repr

/-- How a request ends. -/
inductive Response where
  | pass (r : Except Halt PassReport)
  | panel (r : Except Fault LedReport)

/-- The program of a request. -/
def Request.program (c : Controller) (s : ControlState) :
    Request → Program (Response × ControlState)
  | .pass => (fun r => (.pass r.1, r.2)) <$> c.pass.run.run s
  | .panel => (fun r => (.panel r, s)) <$> Panel.update.run

/-- Requests in a row, and what happens to the board before each of them. -/
def Controller.serve (c : Controller) (b : Board σ) :
    ControlState → σ → List (Request × (σ → σ)) → List (Outcome σ (Response × ControlState))
  | _, _, [] => []
  | s, w, (request, meanwhile) :: rest =>
    let o := (request.program c s).run b (meanwhile w)
    o :: c.serve b o.value.2 o.world rest

/-! ## Two rows -/

/-- The same response, with related control states. -/
structure SameResponse (S : ControlState → ControlState → Prop) (x x' : Response × ControlState) :
    Prop where
  response : x.1 = x'.1
  control : S x.2 x'.2

/-- The same request, with related things happening before it. -/
structure SameRequest (R : σ → σ' → Prop) (x : Request × (σ → σ)) (x' : Request × (σ' → σ')) :
    Prop where
  request : x.1 = x'.1
  meanwhile : ∀ w w', R w w' → R (x.2 w) (x'.2 w')

/-- **What one request keeps, every row keeps.** -/
theorem Controller.serve_matches {b' : Board σ'} {R : σ → σ' → Prop}
    {S : ControlState → ControlState → Prop}
    (step : ∀ (request : Request) {s s' : ControlState} {w : σ} {w' : σ'}, S s s' → R w w' →
      ((request.program c s).run b w).Matches R (SameResponse S) ((request.program c s').run b' w'))
    {s s' : ControlState} (states : S s s') {w' : σ'} (worlds : R w w')
    {requests : List (Request × (σ → σ))} {requests' : List (Request × (σ' → σ'))}
    (same : List.Forall₂ (SameRequest R) requests requests') :
    List.Forall₂ (Outcome.Matches R (SameResponse S)) (c.serve b s w requests)
      (c.serve b' s' w' requests') := by
  induction same generalizing s s' w w' with
  | nil => exact .nil
  | @cons x x' _ _ first rest ih =>
    obtain ⟨request, meanwhile⟩ := x
    obtain ⟨request', meanwhile'⟩ := x'
    obtain rfl : request = request' := first.request
    have matched := step request states (first.meanwhile w w' worlds)
    exact .cons matched (ih matched.value.control matched.world)

end SwitchThermal
