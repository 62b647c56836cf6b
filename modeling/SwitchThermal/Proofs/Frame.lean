import SwitchThermal.Controller
import SwitchThermal.Proofs.Run

/-!
# What programs and passes leave alone

Bounds on the accesses of a program, whatever it is answered, and on what a pass does to the control
state, wherever it stops.

* `Program.Only` — every access that a program can make satisfies a predicate.
* `Pass.Within` — so does every access of a pass, and the pass preserves an invariant of the control
  state even when it stops early.
-/

set_option autoImplicit false

namespace SwitchThermal

variable {α β : Type}

/-! ## Programs -/

namespace Program

/-- Every access that the program can make satisfies the predicate. -/
def Only (P : Query → Prop) : Program α → Prop
  | done _ => True
  | note _ rest => rest.Only P
  | ask q k => P q ∧ ∀ a, (k a).Only P

namespace Only

variable {P : Query → Prop}

theorem pure (a : α) : Only P (Pure.pure a : Program α) := trivial

theorem tell (n : Notice) : Only P (Program.tell n) := trivial

theorem device {q : DeviceQuery} (h : P (.device q)) : Only P (Program.device q) :=
  ⟨h, fun _ => trivial⟩

theorem bind {p : Program α} {f : α → Program β} (hp : Only P p) (hf : ∀ a, Only P (f a)) :
    Only P (p >>= f) := by
  induction p with
  | done a => exact hf a
  | note n rest ih => exact ih hp
  | ask q k ih =>
    obtain ⟨hq, hk⟩ := hp
    exact ⟨hq, fun a => ih a (hk a)⟩

/-- A device access, and what follows its answer. -/
theorem device_bind {q : DeviceQuery} {f : Except Fault q.Payload → Program β} (h : P (.device q))
    (hok : ∀ a, Only P (f (.ok a))) (herror : ∀ e, Only P (f (.error e))) :
    Only P (Program.device q >>= f) := by
  refine (device h).bind fun answer => ?_
  cases answer with
  | ok a => exact hok a
  | error e => exact herror e

theorem tellAll (ns : List Notice) : Only P (Program.tellAll ns) := by
  induction ns with
  | nil => exact .pure ()
  | cons n ns ih => exact ih

theorem mapM {κ : Type} {f : κ → Program α} (hf : ∀ k, Only P (f k)) (l : List κ) :
    Only P (l.mapM f) := by
  induction l with
  | nil => exact .pure []
  | cons k l ih =>
    rw [List.mapM_cons]
    exact (hf k).bind fun a => ih.bind fun as => .pure (a :: as)

theorem mono {P' : Query → Prop} {p : Program α} (hp : Only P p) (imp : ∀ q, P q → P' q) :
    Only P' p := by
  induction p with
  | done a => trivial
  | note n rest ih => exact ih hp
  | ask q k ih =>
    obtain ⟨hq, hk⟩ := hp
    exact ⟨imp q hq, fun a => ih a (hk a)⟩

theorem forM {κ : Type} {f : κ → Program Unit} (hf : ∀ k, Only P (f k)) (l : List κ) :
    Only P (l.forM f) := by
  induction l with
  | nil => exact .pure ()
  | cons k l ih => exact (hf k).bind fun _ => ih

theorem foldlM {κ γ : Type} {f : γ → κ → Program γ} (hf : ∀ c k, Only P (f c k)) (l : List κ)
    (c : γ) : Only P (l.foldlM f c) := by
  induction l generalizing c with
  | nil => exact .pure c
  | cons k l ih => exact (hf c k).bind ih

theorem register {q : RegisterQuery} (h : P (.register q)) : Only P (Action.register q).run :=
  ⟨h, fun _ => trivial⟩

theorem action_bind {x : Action α} {f : α → Action β} (hx : Only P x.run)
    (hf : ∀ a, Only P (f a).run) : Only P (x >>= f).run := by
  refine Only.bind hx fun answer => ?_
  cases answer with
  | ok a => exact hf a
  | error e => exact .pure _

/-- The accesses of a run are among those that the program can make. -/
theorem queries {σ : Type} {p : Program α} (hp : Only P p) (b : Board σ)
    (w : σ) : ∀ q ∈ Program.queries (p.run b w).trace, P q := by
  induction p generalizing w with
  | done a => intro q hq; cases hq
  | note n rest ih => exact ih hp w
  | ask q' k ih =>
    obtain ⟨hq', hk⟩ := hp
    intro q hq
    simp only [run, queries_append, queries_map_noted, List.nil_append, queries_asked] at hq
    rcases List.mem_cons.1 hq with rfl | hq
    · exact hq'
    · exact ih _ (hk _) _ q hq

end Only

end Program

/-! ## Passes -/

namespace Pass

/-- Noting a fault changes neither how a pass ends nor its accesses. -/
theorem Yields.onFault {σ : Type} {b : Board σ} {w : σ} {s s' : ControlState} {p : Pass α}
    {notice : Fault → Notice} {r : Except Halt α} {qs : List Query}
    (hp : Yields b w s p r s' qs) : Yields b w s (p.onFault notice) r s' qs := by
  refine Program.Yields.bind_quiet hp ?_
  rcases r with (e | e) | a
  · exact ⟨rfl, rfl⟩
  · exact .pure _
  · exact .pure _

/-- Every access of the pass satisfies `P`, and the pass preserves `I`, on every board and wherever
it stops. -/
structure Within (P : Query → Prop) (I : ControlState → Prop) (p : Pass α) : Prop where
  yields : ∀ {σ : Type} (b : Board σ) (w : σ) (s : ControlState), I s →
    ∃ r s' qs, Yields b w s p r s' qs ∧ (∀ q ∈ qs, P q) ∧ I s'

namespace Within

variable {P : Query → Prop} {I : ControlState → Prop}

theorem pure (a : α) : Within P I (Pure.pure a : Pass α) where
  yields _ _ s hs := ⟨_, s, [], .pure a, List.forall_mem_nil _, hs⟩

theorem throw (h : Halt) : Within P I (MonadExcept.throw h : Pass α) where
  yields _ _ s hs := ⟨_, s, [], .throw h, List.forall_mem_nil _, hs⟩

theorem bind {p : Pass α} {f : α → Pass β} (hp : Within P I p) (hf : ∀ a, Within P I (f a)) :
    Within P I (p >>= f) := by
  refine ⟨fun b w s hs => ?_⟩
  obtain ⟨r, s₁, qs, hrun, hqs, hs₁⟩ := hp.yields b w s hs
  cases r with
  | error h => exact ⟨_, s₁, qs, .bind_error hrun, hqs, hs₁⟩
  | ok a =>
    obtain ⟨r, s₂, rs, hrun', hrs, hs₂⟩ := (hf a).yields b (b.after w qs) s₁ hs₁
    refine ⟨r, s₂, qs ++ rs, hrun.bind hrun', ?_, hs₂⟩
    exact fun q hq => (List.mem_append.1 hq).elim (hqs q) (hrs q)

theorem ofProgram {p : Program α} (hp : p.Only P) : Within P I (Pass.ofProgram p) where
  yields b w s hs := ⟨_, s, _, .ofProgram (Program.yields_run b w p), hp.queries b w, hs⟩

theorem get_bind {f : ControlState → Pass β} (hf : ∀ s, Within P I (f s)) :
    Within P I (get >>= f) where
  yields b w s hs := (hf s).yields b w s hs

theorem modify {g : ControlState → ControlState} (hg : ∀ s, I s → I (g s)) :
    Within P I (modify g : Pass PUnit) where
  yields _ _ s hs := ⟨_, g s, [], .modify g, List.forall_mem_nil _, hg s hs⟩

theorem tell (n : Notice) : Within P I (Pass.tell n) := ofProgram (.tell n)

theorem perform {x : Action α} (hx : Program.Only P x.run) : Within P I (Pass.perform x) := by
  refine (ofProgram hx).bind fun answer => ?_
  cases answer with
  | ok a => exact .pure a
  | error e => exact .throw (.fault e)

theorem onFault {p : Pass α} {notice : Fault → Notice} (hp : Within P I p) :
    Within P I (p.onFault notice) := by
  refine ⟨fun b w s hs => ?_⟩
  obtain ⟨r, s₁, qs, hrun, hqs, hs₁⟩ := hp.yields b w s hs
  exact ⟨r, s₁, qs, hrun.onFault, hqs, hs₁⟩

end Within

end Pass

end SwitchThermal
