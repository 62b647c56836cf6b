import SwitchThermal.Proofs.Sweep

/-!
# Register accesses in order

What a run does on the register bus, with everything else left out.

* `BusEntry`, `busTrace` — a register access with its answer, and those of a trace.
* `Performed` — a row of accesses is made up to its first failure, and ends with it if there is one.
* `Board.attempt` — the row as a function of the board; `performed_attempt` ties the two together.
-/

set_option autoImplicit false

namespace SwitchThermal

variable {σ α : Type} {b : Board σ} {w : σ}

/-! ## The bus in a trace -/

/-- A register access with its answer. -/
structure BusEntry where
  query : RegisterQuery
  answer : Except Fault query.Payload

/-- Was the access answered without a fault? -/
def BusEntry.accepted (e : BusEntry) : Bool :=
  e.answer.isOk

/-- A write to a register of the board that was accepted. -/
def BusEntry.written (offset value : Nat) : BusEntry :=
  ⟨Watchdog.writeQuery offset value, .ok ()⟩

/-- A read of the board status that was answered. -/
def BusEntry.status (value : Nat) : BusEntry :=
  ⟨Watchdog.statusQuery, .ok value⟩

/-- An entry, if it is a register access. -/
def busEntry? : Entry → Option BusEntry
  | .asked (.register q) a => some ⟨q, a⟩
  | _ => none

/-- The register accesses of a trace, in order. -/
def busTrace (t : List Entry) : List BusEntry :=
  t.filterMap busEntry?

theorem busTrace_append (t u : List Entry) : busTrace (t ++ u) = busTrace t ++ busTrace u :=
  List.filterMap_append

theorem mem_busTrace {t : List Entry} {e : BusEntry} :
    e ∈ busTrace t ↔ .asked (.register e.query) e.answer ∈ t := by
  rw [busTrace, List.mem_filterMap]
  constructor
  · rintro ⟨x, hmem, hx⟩
    cases x with
    | noted n => cases hx
    | asked q a =>
      cases q with
      | controlFile path => cases hx
      | device q => cases hx
      | register q =>
        cases hx
        exact hmem
  · intro h
    exact ⟨_, h, rfl⟩

/-- The register accesses among some accesses, with the answers of the board. -/
def Board.bus (b : Board σ) (w : σ) (qs : List Query) : List BusEntry :=
  busTrace (b.record w qs)

theorem Board.bus_append (b : Board σ) (w : σ) (qs rs : List Query) :
    b.bus w (qs ++ rs) = b.bus w qs ++ b.bus (b.after w qs) rs := by
  rw [bus, record_append, busTrace_append]
  rfl

@[simp] theorem Board.bus_nil (b : Board σ) (w : σ) : b.bus w [] = [] := rfl

@[simp] theorem Board.bus_register (b : Board σ) (w : σ) (q : RegisterQuery) (qs : List Query) :
    b.bus w (.register q :: qs) =
      ⟨q, (b (.register q) w).answer⟩ :: b.bus (b (.register q) w).next qs := rfl

/-- Accesses that are not made on the bus. -/
theorem Board.bus_of_silent {qs : List Query} (h : ∀ q ∈ qs, ∀ r, q ≠ .register r) :
    b.bus w qs = [] := by
  refine filterMap_record_nil fun q hq a => ?_
  cases q with
  | register r => exact absurd rfl (h _ hq r)
  | controlFile path => rfl
  | device q => rfl

theorem Pass.Yields.bus {s s' : ControlState} {p : Pass α} {r : Except Halt α} {qs : List Query}
    (h : Yields b w s p r s' qs) : busTrace (p.runOn b s w).trace = b.bus w qs :=
  h.filterMap_trace fun _ => rfl

/-! ## Rows of accesses -/

/-- The entries of a row of accesses that is made up to its first failure, and how the row ends. -/
inductive Performed : List RegisterQuery → List BusEntry → Except Fault Unit → Prop where
  | done : Performed [] [] (.ok ())
  | stop {q : RegisterQuery} {e : Fault} (l : List RegisterQuery) :
      Performed (q :: l) [⟨q, .error e⟩] (.error e)
  | next {q : RegisterQuery} {a : q.Payload} {l : List RegisterQuery} {t : List BusEntry}
      {x : Except Fault Unit} (rest : Performed l t x) : Performed (q :: l) (⟨q, .ok a⟩ :: t) x

namespace Performed

variable {l l' : List RegisterQuery} {t t' : List BusEntry} {x : Except Fault Unit}

theorem queries (h : Performed l t x) : t.map BusEntry.query <+: l := by
  induction h with
  | done => exact List.nil_prefix
  | stop l => exact ⟨l, rfl⟩
  | next rest ih => exact List.cons_prefix_cons.2 ⟨rfl, ih⟩

/-- A row without a failure is made as a whole. -/
theorem complete (h : Performed l t (.ok ())) :
    t.map BusEntry.query = l ∧ ∀ e ∈ t, e.accepted = true := by
  generalize hx : (.ok () : Except Fault Unit) = x at h
  induction h with
  | done => exact ⟨rfl, List.forall_mem_nil _⟩
  | stop l => cases hx
  | next rest ih =>
    obtain ⟨made, accepted⟩ := ih hx
    exact ⟨congrArg _ made, List.forall_mem_cons.2 ⟨rfl, accepted⟩⟩

/-- The first failure is the last access and the end of the row. -/
theorem fault (h : Performed l t x) {u v : List BusEntry} {q : RegisterQuery} {e : Fault}
    (split : t = u ++ ⟨q, .error e⟩ :: v) : v = [] ∧ x = .error e := by
  induction h generalizing u with
  | done => simp at split
  | stop l =>
    cases u with
    | nil =>
      cases split
      exact ⟨rfl, rfl⟩
    | cons first u => simp at split
  | next rest ih =>
    cases u with
    | nil => cases split
    | cons first u => exact ih (List.cons.inj split).2

/-- The entries of a row of writes without a failure. -/
theorem written (writes : List (Nat × Nat))
    (h : Performed (writes.map fun e => Watchdog.writeQuery e.1 e.2) t (.ok ())) :
    t = writes.map fun e => .written e.1 e.2 := by
  induction writes generalizing t with
  | nil =>
    cases h
    rfl
  | cons e writes ih =>
    cases h with
    | next rest => exact congrArg _ (ih rest)

/-- A row whose accesses are all accepted has no failure. -/
theorem ok_of_accepted (h : Performed l t x) (accepted : ∀ e ∈ t, e.accepted = true) :
    x = .ok () := by
  induction h with
  | done => rfl
  | stop l =>
    have refused := accepted _ List.mem_cons_self
    cases refused
  | next rest ih => exact ih (List.forall_mem_cons.1 accepted).2

/-- Nothing comes after a row that is made as a whole. -/
theorem nothing_left (h : Performed l t x) {u v : List BusEntry} (split : t = u ++ v)
    (made : u.map BusEntry.query = l) : v = [] := by
  have short := h.queries.length_le
  rw [← made, split, List.length_map, List.length_map, List.length_append] at short
  exact List.length_eq_zero_iff.1 (by omega)

/-- One row after another. -/
theorem append (h : Performed l t (.ok ())) (h' : Performed l' t' x) :
    Performed (l ++ l') (t ++ t') x := by
  generalize hx : (.ok () : Except Fault Unit) = y at h
  induction h with
  | done => exact h'
  | stop l => cases hx
  | next rest ih => exact .next (ih hx)

/-- What comes after a failure is not made. -/
theorem append_stop {e : Fault} (h : Performed l t (.error e)) (l' : List RegisterQuery) :
    Performed (l ++ l') t (.error e) := by
  generalize hx : (.error e : Except Fault Unit) = y at h
  induction h with
  | done => cases hx
  | stop l => exact .stop (l ++ l')
  | next rest ih => exact .next (ih hx)

/-- A single access. -/
theorem single (b : Board σ) (w : σ) (q : RegisterQuery) :
    Performed [q] (b.bus w [.register q]) ((b (.register q) w).answer.map fun _ => ()) := by
  rw [Board.bus_register]
  cases (b (.register q) w).answer with
  | error e => exact .stop []
  | ok a => exact .next .done

end Performed

/-- What a row of register accesses comes to that stops at its first failure, and which of them are
made. -/
def Board.attempt (b : Board σ) (w : σ) : List RegisterQuery → Except Fault Unit × List Query
  | [] => (.ok (), [])
  | q :: l =>
    match (b (.register q) w).answer with
    | .error e => (.error e, [.register q])
    | .ok _ =>
      ((attempt b (b (.register q) w).next l).1,
        .register q :: (attempt b (b (.register q) w).next l).2)

namespace Board

variable {l : List RegisterQuery} {q : RegisterQuery}

theorem attempt_refused {e : Fault} (h : (b (.register q) w).answer = .error e) :
    b.attempt w (q :: l) = (.error e, [.register q]) := by
  rw [attempt, h]

theorem attempt_accepted {a : q.Payload} (h : (b (.register q) w).answer = .ok a) :
    b.attempt w (q :: l) = ((b.attempt (b (.register q) w).next l).1,
      .register q :: (b.attempt (b (.register q) w).next l).2) := by
  rw [attempt, h]

theorem performed_attempt (b : Board σ) (w : σ) (l : List RegisterQuery) :
    Performed l (b.bus w (b.attempt w l).2) (b.attempt w l).1 := by
  induction l generalizing w with
  | nil => exact .done
  | cons q l ih =>
    cases h : (b (.register q) w).answer with
    | error e =>
      rw [attempt_refused h, bus_register, h]
      exact .stop l
    | ok a =>
      rw [attempt_accepted h, bus_register, h]
      exact .next (ih _)

/-- A row without a failure is made as a whole. -/
theorem attempt_snd (h : (b.attempt w l).1 = .ok ()) : (b.attempt w l).2 = l.map .register := by
  induction l generalizing w with
  | nil => rfl
  | cons q l ih =>
    cases ha : (b (.register q) w).answer with
    | error e =>
      rw [attempt_refused ha] at h
      cases h
    | ok a =>
      rw [attempt_accepted ha] at h ⊢
      rw [ih h, List.map_cons]

/-- The accesses made are the first ones of the row. -/
theorem attempt_initial (b : Board σ) (w : σ) (l : List RegisterQuery) :
    (b.attempt w l).2 <+: l.map .register := by
  induction l generalizing w with
  | nil => exact List.nil_prefix
  | cons q l ih =>
    cases ha : (b (.register q) w).answer with
    | error e =>
      rw [attempt_refused ha]
      exact ⟨l.map .register, rfl⟩
    | ok a =>
      rw [attempt_accepted ha]
      exact List.cons_prefix_cons.2 ⟨rfl, ih _⟩

/-- The latch is such a row. -/
theorem latch_eq_attempt (b : Board σ) (w : σ) : b.latch w = b.attempt w Watchdog.latchQueries := by
  cases h : (b unprotectAccess w).answer with
  | error e => rw [latch_refused h, Watchdog.latchQueries, attempt_refused h]
  | ok u =>
    rw [latch_unprotected h, Watchdog.latchQueries, attempt_accepted h]
    cases h' : (b latchAccess (b unprotectAccess w).next).answer with
    | error e =>
      rw [attempt_refused h']
      rfl
    | ok u =>
      rw [attempt_accepted h']
      rfl

end Board

/-- An action that starts with a write of a row and goes on with the rest of it. -/
theorem Action.yields_attempt_cons {base offset width value : Nat} {l : List RegisterQuery}
    {rest : Action Unit}
    (h : Program.Yields b (b (.register (.write base offset width value)) w).next rest.run
      (b.attempt (b (.register (.write base offset width value)) w).next l).1
      (b.attempt (b (.register (.write base offset width value)) w).next l).2) :
    Program.Yields b w (Action.register (.write base offset width value) >>= fun _ => rest).run
      (b.attempt w (.write base offset width value :: l)).1
      (b.attempt w (.write base offset width value :: l)).2 := by
  cases ha : (b (.register (.write base offset width value)) w).answer with
  | error e =>
    rw [Board.attempt_refused ha]
    exact yields_register_bind_error ha
  | ok u =>
    rw [Board.attempt_accepted ha]
    exact yields_register_bind ha h

end SwitchThermal
