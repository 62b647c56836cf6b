import SwitchThermal.Control.Pass

/-!
# Runs step by step

What a run of a program or of a pass comes to: its result and the accesses it makes, in order.
Notices are left out, since they steer nothing.

* `Board.after`, `Board.record` — the state of a board after some accesses, and its answers to them.
* `Program.Yields`, `Pass.Yields` — a run ends with this result (and this control state) and makes
  these accesses. The rules follow the ways in which programs and passes are put together.
* `Program.world_run`, `Program.filterMap_trace`, `Program.asked_mem_iff` — the accesses of a run
  determine the board's last state and the answers in the trace.
-/

set_option autoImplicit false

namespace SwitchThermal

variable {σ α β : Type}

/-! ## Boards -/

namespace Board

/-- The state of a board after some accesses. -/
def after (b : Board σ) (w : σ) : List Query → σ
  | [] => w
  | q :: rest => after b (b q w).next rest

@[simp] theorem after_nil (b : Board σ) (w : σ) : b.after w [] = w := rfl

@[simp] theorem after_cons (b : Board σ) (w : σ) (q : Query) (rest : List Query) :
    b.after w (q :: rest) = b.after (b q w).next rest := rfl

/-- The accesses with the answers that a board gives to them in turn. -/
def record (b : Board σ) (w : σ) : List Query → List Entry
  | [] => []
  | q :: rest => .asked q (b q w).answer :: record b (b q w).next rest

@[simp] theorem record_nil (b : Board σ) (w : σ) : b.record w [] = [] := rfl

@[simp] theorem record_cons (b : Board σ) (w : σ) (q : Query) (rest : List Query) :
    b.record w (q :: rest) = .asked q (b q w).answer :: b.record (b q w).next rest := rfl

theorem record_append (b : Board σ) (w : σ) (qs rs : List Query) :
    b.record w (qs ++ rs) = b.record w qs ++ b.record (b.after w qs) rs := by
  induction qs generalizing w with
  | nil => rfl
  | cons q rest ih => rw [List.cons_append, record_cons, record_cons, ih]; rfl

theorem after_append (b : Board σ) (w : σ) (qs rs : List Query) :
    b.after w (qs ++ rs) = b.after (b.after w qs) rs := by
  induction qs generalizing w with
  | nil => rfl
  | cons q rest ih => exact ih _

/-- The state after some accesses does not depend on how the board answers others. -/
theorem after_congr {b b' : Board σ} {qs : List Query} (same : ∀ q ∈ qs, b' q = b q) (w : σ) :
    b'.after w qs = b.after w qs := by
  induction qs generalizing w with
  | nil => rfl
  | cons q qs ih =>
    obtain ⟨here, later⟩ := List.forall_mem_cons.1 same
    rw [after_cons, after_cons, here, ih later]

/-- Accesses whose answers are of no concern. -/
theorem filterMap_record_nil {b : Board σ} {w : σ} {f : Entry → Option β} {qs : List Query}
    (h : ∀ q ∈ qs, ∀ a, f (.asked q a) = none) : (b.record w qs).filterMap f = [] := by
  induction qs generalizing w with
  | nil => rfl
  | cons q qs ih =>
    rw [record_cons, List.filterMap_cons_none (h q List.mem_cons_self _)]
    exact ih fun q hq => h q (List.mem_cons_of_mem _ hq)

end Board

/-! ## Programs -/

namespace Program

variable {b : Board σ} {w : σ}

theorem queries_append (t u : List Entry) : queries (t ++ u) = queries t ++ queries u :=
  List.filterMap_append

@[simp] theorem queries_nil : queries [] = [] := rfl

@[simp] theorem queries_noted (n : Notice) (t : List Entry) :
    queries (.noted n :: t) = queries t := rfl

@[simp] theorem queries_asked (q : Query) (a : Except Fault q.Payload) (t : List Entry) :
    queries (.asked q a :: t) = q :: queries t := rfl

@[simp] theorem queries_map_noted (ns : List Notice) : queries (ns.map .noted) = [] := by
  induction ns with
  | nil => rfl
  | cons n rest ih => exact ih

theorem queries_record (b : Board σ) (w : σ) (qs : List Query) : queries (b.record w qs) = qs := by
  induction qs generalizing w with
  | nil => rfl
  | cons q qs ih => rw [Board.record_cons, queries_asked, ih]

/-- The accesses of a run determine the board's last state. -/
theorem world_run (b : Board σ) (p : Program α) (w : σ) :
    (p.run b w).world = b.after w (queries (p.run b w).trace) := by
  induction p generalizing w with
  | done a => rfl
  | note n rest ih => exact ih w
  | ask q k ih => simp only [run, queries_append, queries_map_noted, List.nil_append,
      queries_asked, Board.after_cons, ih]

/-- The answers in a trace are those of the board, each in the state that the accesses before it
left. -/
theorem filterMap_trace (b : Board σ) (p : Program α) (w : σ) {f : Entry → Option β}
    (hf : ∀ n, f (.noted n) = none) :
    (p.run b w).trace.filterMap f = (b.record w (queries (p.run b w).trace)).filterMap f := by
  have quiet : ∀ ns : List Notice, (ns.map Entry.noted).filterMap f = [] := by
    intro ns
    rw [List.filterMap_map, List.filterMap_eq_nil_iff]
    exact fun n _ => hf n
  induction p generalizing w with
  | done a => rfl
  | note n rest ih =>
    show List.filterMap f (.noted n :: (rest.run b w).trace) = _
    rw [List.filterMap_cons_none (hf n)]
    exact ih w
  | ask q k ih =>
    show List.filterMap f ((b q w).notices.map Entry.noted ++ (.asked q (b q w).answer ::
      ((k (b q w).answer).run b (b q w).next).trace)) = _
    rw [List.filterMap_append, quiet, List.nil_append, List.filterMap_cons, ih]
    simp only [run, queries_append, queries_map_noted, List.nil_append, queries_asked,
      Board.record_cons, List.filterMap_cons]

/-- An entry, if it is an answer. -/
def answer? : Entry → Option Entry
  | .noted _ => none
  | .asked q a => some (.asked q a)

theorem mem_filterMap_answer? {q : Query} {a : Except Fault q.Payload} {t : List Entry} :
    .asked q a ∈ t.filterMap answer? ↔ .asked q a ∈ t := by
  rw [List.mem_filterMap]
  constructor
  · rintro ⟨e, hmem, he⟩
    cases e with
    | noted n => cases he
    | asked q' a' =>
      cases he
      exact hmem
  · intro h
    exact ⟨_, h, rfl⟩

theorem asked_mem_iff (b : Board σ) (p : Program α) (w : σ) (q : Query)
    (a : Except Fault q.Payload) :
    .asked q a ∈ (p.run b w).trace ↔
      .asked q a ∈ b.record w (queries (p.run b w).trace) := by
  rw [← mem_filterMap_answer?, filterMap_trace b p w (fun n => rfl), mem_filterMap_answer?]

/-- A run does not depend on how the board answers the accesses that it does not make. -/
theorem run_congr {b b' : Board σ} {p : Program α} {w : σ}
    (same : ∀ q ∈ queries (p.run b w).trace, b' q = b q) : p.run b' w = p.run b w := by
  induction p generalizing w with
  | done a => rfl
  | note n rest ih => simp only [run, ih same]
  | ask q k ih =>
    simp only [run, queries_append, queries_map_noted, List.nil_append, queries_asked,
      List.forall_mem_cons] at same
    obtain ⟨here, later⟩ := same
    simp only [run, here, ih _ later]

/-- A run of a program ends with this value and makes these accesses. -/
structure Yields (b : Board σ) (w : σ) (p : Program α) (a : α) (qs : List Query) : Prop where
  value : (p.run b w).value = a
  queries : Program.queries (p.run b w).trace = qs

/-- Every run yields its value, with its accesses. -/
theorem yields_run (b : Board σ) (w : σ) (p : Program α) :
    Yields b w p (p.run b w).value (queries (p.run b w).trace) := ⟨rfl, rfl⟩

namespace Yields

variable {p : Program α} {a : α} {c : β} {f : α → Program β} {qs rs : List Query}

theorem world (h : Yields b w p a qs) : (p.run b w).world = b.after w qs := by
  rw [world_run, h.queries]

theorem pure (a : α) : Yields b w (Pure.pure a : Program α) a [] := ⟨rfl, rfl⟩

theorem bind (h : Yields b w p a qs) (hf : Yields b (b.after w qs) (f a) c rs) :
    Yields b w (p >>= f) c (qs ++ rs) := by
  refine ⟨?_, ?_⟩
  · rw [run_bind, h.value, h.world]
    exact hf.value
  · rw [run_bind, queries_append, h.queries, h.value, h.world, hf.queries]

/-- A program whose last part makes no access. -/
theorem bind_quiet (h : Yields b w p a qs) (hf : Yields b (b.after w qs) (f a) c []) :
    Yields b w (p >>= f) c qs := by
  rw [← List.append_nil qs]
  exact h.bind hf

theorem map (h : Yields b w p a qs) (g : α → β) : Yields b w (g <$> p) (g a) qs :=
  h.bind_quiet (.pure (g a))

theorem filterMap_trace (h : Yields b w p a qs) {g : Entry → Option β}
    (hg : ∀ n, g (.noted n) = none) :
    (p.run b w).trace.filterMap g = (b.record w qs).filterMap g := by
  rw [← h.queries]
  exact Program.filterMap_trace b p w hg

theorem query (q : Query) : Yields b w (Program.query q) (b q w).answer [q] :=
  ⟨rfl, by simp [Program.query, run, queries_append]⟩

theorem tell (n : Notice) : Yields b w (Program.tell n) () [] := ⟨rfl, rfl⟩

theorem tellAll (ns : List Notice) : Yields b w (Program.tellAll ns) () [] := by
  induction ns with
  | nil => exact .pure ()
  | cons n rest ih => exact ⟨ih.value, ih.queries⟩

end Yields

end Program

/-! ## Passes -/

namespace Pass

variable {b : Board σ} {w : σ} {s s₁ s₂ : ControlState}

/-- A run of a pass ends with this result and this control state, and makes these accesses. -/
def Yields (b : Board σ) (w : σ) (s : ControlState) (p : Pass α) (r : Except Halt α)
    (s' : ControlState) (qs : List Query) : Prop :=
  Program.Yields b w (p.run.run s) (r, s') qs

namespace Yields

variable {p : Pass α} {f : α → Pass β} {a : α} {h : Halt} {r : Except Halt β}
  {qs rs : List Query}

theorem result {r : Except Halt α} (hp : Yields b w s p r s₁ qs) :
    (p.runOn b s w).value.1 = r :=
  congrArg Prod.fst hp.value

theorem state {r : Except Halt α} (hp : Yields b w s p r s₁ qs) :
    (p.runOn b s w).value.2 = s₁ :=
  congrArg Prod.snd hp.value

theorem trace {r : Except Halt α} (hp : Yields b w s p r s₁ qs) :
    Program.queries (p.runOn b s w).trace = qs :=
  Program.Yields.queries hp

theorem world {r : Except Halt α} (hp : Yields b w s p r s₁ qs) :
    (p.runOn b s w).world = b.after w qs :=
  Program.Yields.world hp

theorem filterMap_trace {r : Except Halt α} (hp : Yields b w s p r s₁ qs) {f : Entry → Option β}
    (hf : ∀ n, f (.noted n) = none) :
    (p.runOn b s w).trace.filterMap f = (b.record w qs).filterMap f :=
  Program.Yields.filterMap_trace hp hf

/-- The answers that the board gives to the accesses are in the trace. -/
theorem recorded {r : Except Halt α} (hp : Yields b w s p r s₁ qs) (q : Query)
    (x : Except Fault q.Payload) (h : .asked q x ∈ b.record w qs) :
    .asked q x ∈ (p.runOn b s w).trace := by
  rw [← hp.trace] at h
  exact (Program.asked_mem_iff b (p.run.run s) w q x).2 h

theorem pure (a : α) : Yields b w s (Pure.pure a) (.ok a) s [] := ⟨rfl, rfl⟩

theorem throw (h : Halt) : Yields b w s (MonadExcept.throw h : Pass α) (.error h) s [] := ⟨rfl, rfl⟩

theorem bind (hp : Yields b w s p (.ok a) s₁ qs) (hf : Yields b (b.after w qs) s₁ (f a) r s₂ rs) :
    Yields b w s (p >>= f) r s₂ (qs ++ rs) :=
  Program.Yields.bind hp hf

/-- A pass whose last part makes no access. -/
theorem bind_quiet (hp : Yields b w s p (.ok a) s₁ qs)
    (hf : Yields b (b.after w qs) s₁ (f a) r s₂ []) : Yields b w s (p >>= f) r s₂ qs :=
  Program.Yields.bind_quiet hp hf

theorem bind_error (hp : Yields b w s p (.error h) s₁ qs) :
    Yields b w s (p >>= f) (.error h) s₁ qs := by
  have stop := Program.Yields.bind_quiet (f := fun x => (ExceptT.bindCont f x.1).run x.2) hp
    (.pure ((.error h : Except Halt β), s₁))
  exact stop

/-- A pass whose last part only rewrites the value. -/
theorem bind_map {γ : Type} {x : Except Halt γ} {g : γ → α} {g' : γ → β}
    (hp : Yields b w s p (x.map g) s₁ qs) (hf : ∀ c, f (g c) = Pure.pure (g' c)) :
    Yields b w s (p >>= f) (x.map g') s₁ qs := by
  cases x with
  | error h => exact bind_error hp
  | ok c =>
    refine hp.bind_quiet ?_
    rw [hf]
    exact .pure _

theorem ofProgram {p : Program α} (hp : Program.Yields b w p a qs) :
    Yields b w s (Pass.ofProgram p) (.ok a) s qs := by
  have run_eq : (Pass.ofProgram p).run.run s =
      p >>= fun a => Pure.pure ((.ok a : Except Halt α), s) := by
    simp [Pass.ofProgram]
  show Program.Yields b w ((Pass.ofProgram p).run.run s) (.ok a, s) qs
  rw [run_eq]
  exact hp.bind_quiet (.pure _)

theorem get_bind {f : ControlState → Pass β} (hf : Yields b w s (f s) r s₁ qs) :
    Yields b w s (get >>= f) r s₁ qs := hf

theorem modify (g : ControlState → ControlState) :
    Yields b w s (modify g : Pass PUnit) (.ok ⟨⟩) (g s) [] := ⟨rfl, rfl⟩

theorem modify_bind {g : ControlState → ControlState} {f : PUnit → Pass β}
    (hf : Yields b w (g s) (f ⟨⟩) r s₁ qs) :
    Yields b w s (MonadState.modifyGet (fun s => (⟨⟩, g s)) >>= f) r s₁ qs := hf

theorem tell (n : Notice) : Yields b w s (Pass.tell n) (.ok ()) s [] :=
  ofProgram (.tell n)

theorem tellAll (ns : List Notice) : Yields b w s (Pass.tellAll ns) (.ok ()) s [] :=
  ofProgram (.tellAll ns)

theorem tell_bind {n : Notice} {f : Unit → Pass β} (hf : Yields b w s (f ()) r s₁ qs) :
    Yields b w s (Pass.tell n >>= f) r s₁ qs :=
  (tell n).bind hf

theorem tellAll_bind {ns : List Notice} {f : Unit → Pass β} (hf : Yields b w s (f ()) r s₁ qs) :
    Yields b w s (Pass.tellAll ns >>= f) r s₁ qs :=
  (tellAll ns).bind hf

theorem ask (q : DeviceQuery) :
    Yields b w s (Pass.ask q) (.ok (b (.device q) w).answer) s [.device q] :=
  ofProgram (.query _)

theorem need {q : DeviceQuery} {notice : Fault → Notice} {a : q.Payload}
    (ha : (b (.device q) w).answer = .ok a) :
    Yields b w s (Pass.need q notice) (.ok a) s [.device q] := by
  refine (ask q).bind ?_
  rw [ha]
  exact .pure a

theorem need_error {q : DeviceQuery} {notice : Fault → Notice} {e : Fault}
    (he : (b (.device q) w).answer = .error e) :
    Yields b w s (Pass.need q notice) (.error (.fault e)) s [.device q] := by
  refine (ask q).bind ?_
  rw [he]
  exact tell_bind (.throw (.fault e))

theorem perform {x : Action α} {a : α} (hx : Program.Yields b w x.run (.ok a) qs) :
    Yields b w s (Pass.perform x) (.ok a) s qs :=
  (ofProgram hx).bind_quiet (.pure a)

theorem perform_error {x : Action α} {e : Fault} (hx : Program.Yields b w x.run (.error e) qs) :
    Yields b w s (Pass.perform x) (.error (.fault e)) s qs :=
  (ofProgram hx).bind_quiet (.throw (.fault e))

theorem bounded (x : Except Overflow α) :
    Yields b w s (Pass.bounded x) (x.mapError Halt.overflow) s [] := by
  cases x with
  | ok a => exact .pure a
  | error e => exact .throw (.overflow e)

end Yields

end Pass

/-! ## Actions -/

namespace Action

variable {b : Board σ} {w : σ} {r : Except Fault β} {qs : List Query}

theorem yields_register {q : RegisterQuery} :
    Program.Yields b w (Action.register q).run (b (.register q) w).answer [.register q] :=
  .query _

theorem yields_register_bind {q : RegisterQuery} {f : q.Payload → Action β} {a : q.Payload}
    (ha : (b (.register q) w).answer = .ok a)
    (hf : Program.Yields b (b (.register q) w).next (f a).run r qs) :
    Program.Yields b w (Action.register q >>= f).run r (.register q :: qs) := by
  refine yields_register.bind ?_
  rw [ha]
  exact hf

theorem yields_register_bind_error {q : RegisterQuery} {f : q.Payload → Action β} {e : Fault}
    (he : (b (.register q) w).answer = .error e) :
    Program.Yields b w (Action.register q >>= f).run (.error e) [.register q] := by
  refine yields_register.bind_quiet ?_
  rw [he]
  exact .pure _

theorem yields_lift {p : Program α} {a : α} (hp : Program.Yields b w p a qs) :
    Program.Yields b w (ExceptT.lift p : Action α).run (.ok a) qs :=
  hp.bind_quiet (.pure (Except.ok a))

theorem yields_lift_bind {p : Program α} {a : α} {f : α → Action β} {rs : List Query}
    (hp : Program.Yields b w p a qs) (hf : Program.Yields b (b.after w qs) (f a).run r rs) :
    Program.Yields b w (ExceptT.lift p >>= f).run r (qs ++ rs) :=
  (yields_lift hp).bind hf

theorem yields_tell_bind {n : Notice} {f : Unit → Action β}
    (hf : Program.Yields b w (f ()).run r qs) :
    Program.Yields b w (Action.tell n >>= f).run r qs := by
  have told : Program.Yields b w (Action.tell n).run (.ok ()) [] := ⟨rfl, rfl⟩
  exact told.bind hf

end Action

end SwitchThermal
