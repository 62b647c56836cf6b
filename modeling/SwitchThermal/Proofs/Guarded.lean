import SwitchThermal.Proofs.Bus

/-!
# What comes before an access

Statements about a trace of the form: before each access of some kind, this has happened.

* `Guarded` — every access of a kind comes after a part of the trace with a property.
* `guarded_append` — how such a statement is put together from two parts of a trace.
* `Guarded.of_answers` — notices do not matter, so the trace can be replaced by the board's record.
-/

set_option autoImplicit false

namespace SwitchThermal

variable {σ α : Type} {b : Board σ} {w : σ}

/-! ## Notices left out -/

/-- The answers in a trace, without the notices. -/
def answers (t : List Entry) : List Entry :=
  t.filterMap Program.answer?

theorem answers_append (t u : List Entry) : answers (t ++ u) = answers t ++ answers u :=
  List.filterMap_append

theorem answers_noted (ns : List Notice) : answers (ns.map .noted) = [] := by
  induction ns with
  | nil => rfl
  | cons n ns ih => exact ih

theorem mem_answers {t : List Entry} {q : Query} {a : Except Fault q.Payload} :
    .asked q a ∈ answers t ↔ .asked q a ∈ t :=
  Program.mem_filterMap_answer?

theorem answers_subset (t : List Entry) : answers t ⊆ t := by
  intro e he
  cases e with
  | noted n =>
    obtain ⟨e, -, he⟩ := List.mem_filterMap.1 he
    cases e <;> cases he
  | asked q a => exact mem_answers.1 he

/-- What takes no notice of notices can be read off the answers. -/
theorem filterMap_answers {β : Type} {f : Entry → Option β} (quiet : ∀ n, f (.noted n) = none)
    (t : List Entry) : (answers t).filterMap f = t.filterMap f := by
  rw [answers, List.filterMap_filterMap]
  refine congrArg (List.filterMap · t) (funext fun e => ?_)
  cases e with
  | noted n => exact (quiet n).symm
  | asked q a => rfl

theorem queries_answers (t : List Entry) : Program.queries (answers t) = Program.queries t :=
  filterMap_answers (fun _ => rfl) t

/-- Where an answer stands among the answers, it stands in the trace. -/
theorem split_of_answers {t before rest : List Entry} {q : Query} {a : Except Fault q.Payload}
    (h : answers t = before ++ .asked q a :: rest) :
    ∃ u v, t = u ++ .asked q a :: v ∧ answers u = before ∧ answers v = rest := by
  obtain ⟨u, v, rfl, hu, hv⟩ := List.filterMap_eq_append_iff.1 h
  obtain ⟨notices, e, v, rfl, quiet, he, hrest⟩ := List.filterMap_eq_cons_iff.1 hv
  have here : e = .asked q a := by
    cases e with
    | noted n => cases he
    | asked q' a' => exact Option.some.inj he
  refine ⟨u ++ notices, v, ?_, ?_, hrest⟩
  · rw [here, List.append_assoc]
  · rw [answers_append, show answers u = before from hu, answers,
      List.filterMap_eq_nil_iff.2 quiet, List.append_nil]

theorem answers_record (b : Board σ) (w : σ) (qs : List Query) :
    answers (b.record w qs) = b.record w qs := by
  induction qs generalizing w with
  | nil => rfl
  | cons q qs ih =>
    rw [Board.record_cons, ← List.singleton_append, answers_append, ih]
    rfl

/-- An access in the record of a board has been made. -/
theorem Board.made_of_recorded {qs : List Query} {q : Query} {a : Except Fault q.Payload}
    (h : .asked q a ∈ b.record w qs) : q ∈ qs := by
  rw [← Program.queries_record b w qs, Program.queries, List.mem_filterMap]
  exact ⟨_, h, rfl⟩

/-- The board has given every answer of its record, after some accesses. -/
theorem Board.answered_of_recorded {qs : List Query} {q : Query} {a : Except Fault q.Payload}
    (h : .asked q a ∈ b.record w qs) : ∃ before, (b q (b.after w before)).answer = a := by
  induction qs generalizing w with
  | nil => cases h
  | cons q' qs ih =>
    rcases List.mem_cons.1 h with heq | h
    · cases heq
      exact ⟨[], rfl⟩
    · obtain ⟨before, answer⟩ := ih h
      exact ⟨q' :: before, answer⟩

theorem Program.Yields.answers {p : Program α} {a : α} {qs : List Query}
    (h : Yields b w p a qs) : answers (p.run b w).trace = b.record w qs := by
  rw [SwitchThermal.answers, h.filterMap_trace fun _ => rfl]
  exact answers_record b w qs

theorem Pass.Yields.answers {s s' : ControlState} {p : Pass α} {r : Except Halt α}
    {qs : List Query} (h : Yields b w s p r s' qs) :
    answers (p.runOn b s w).trace = b.record w qs :=
  Program.Yields.answers h

theorem busTrace_answers (t : List Entry) : busTrace (answers t) = busTrace t :=
  filterMap_answers (fun _ => rfl) t

/-- What stands before the second part of a list, if an entry that is not in the first part does. -/
theorem split_after {α : Type} {l l' r r' : List α} {x : α} (split : l ++ r = l' ++ r')
    (here : x ∈ l) (fresh : x ∉ l') : ∃ m, l = l' ++ m ∧ r' = m ++ r ∧ x ∈ m := by
  rcases List.append_eq_append_iff.1 split with ⟨m, rfl, -⟩ | ⟨m, rfl, rest⟩
  · exact absurd (List.mem_append_left m here) fresh
  · exact ⟨m, rfl, rest, (List.mem_append.1 here).resolve_left fresh⟩

/-! ## Guards -/

/-- Before each access of the kind `K`, the trace so far has the property `P`. -/
def Guarded (K : Query → Bool) (P : List Entry → Prop) (t : List Entry) : Prop :=
  ∀ (u : List Entry) (q : Query) (a : Except Fault q.Payload) (v : List Entry),
    t = u ++ .asked q a :: v → K q = true → P u

variable {K : Query → Bool} {P P' : List Entry → Prop} {t t' : List Entry}

theorem guarded_append : Guarded K P (t ++ t') ↔
    Guarded K P t ∧ Guarded K (fun u => P (t ++ u)) t' := by
  constructor
  · intro h
    refine ⟨fun u q a v split hq => ?_, fun u q a v split hq => ?_⟩
    · refine h u q a (v ++ t') ?_ hq
      rw [split, List.append_assoc]
      rfl
    · refine h (t ++ u) q a v ?_ hq
      rw [split, List.append_assoc]
  · rintro ⟨first, second⟩ u q a v split hq
    rcases List.append_eq_append_iff.1 split with ⟨x, rfl, rest⟩ | ⟨x, rfl, rest⟩
    · exact second x q a v rest hq
    · cases x with
      | nil =>
        have here := second [] q a v rest.symm hq
        rwa [List.append_nil, List.append_nil] at here
      | cons e x =>
        obtain ⟨rfl, rfl⟩ := List.cons.inj rest
        exact first u q a x rfl hq

namespace Guarded

/-- No access is of the kind. -/
theorem of_none {qs : List Query} (h : ∀ q ∈ qs, K q = false) : Guarded K P (b.record w qs) := by
  intro u q a v split hq
  have made : q ∈ qs :=
    Board.made_of_recorded (split ▸ List.mem_append_right _ List.mem_cons_self)
  rw [h q made] at hq
  cases hq

theorem mono (h : Guarded K P t) (imp : ∀ u, P u → P' u) : Guarded K P' t :=
  fun u q a v split hq => imp u (h u q a v split hq)

/-- A property that all continuations of a trace share. -/
theorem of_forall (h : ∀ u, P u) : Guarded K P t :=
  fun u _ _ _ _ _ => h u

/-- Notices do not matter. -/
theorem of_answers (h : Guarded K P (answers t)) (quiet : ∀ u, P (answers u) → P u) :
    Guarded K P t := by
  intro u q a v split hq
  refine quiet u (h (answers u) q a (answers v) ?_ hq)
  rw [split, answers_append]
  rfl

end Guarded

end SwitchThermal
