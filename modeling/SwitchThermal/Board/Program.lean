import SwitchThermal.Board.Query

/-!
# Programs over a board

The control logic is a tree of accesses and notices. It does nothing by itself; a board runs it.

* `Program` — the trees, a monad.
* `Program.run` — the result of a program on a board, with the board's last state and the trace of
  all accesses and notices. Notices do not reach the board, so they cannot steer it.
* `Program.run_bind` — running a sequence is running its parts.
* `Action` — programs that may fail with a fault.
-/

set_option autoImplicit false

namespace SwitchThermal

/-- A tree of accesses and notices. -/
inductive Program (α : Type) where
  | done (a : α)
  | note (n : Notice) (rest : Program α)
  | ask (q : Query) (k : Except Fault q.Payload → Program α)

/-- A step of a run. -/
inductive Entry where
  | noted (n : Notice)
  | asked (q : Query) (answer : Except Fault q.Payload)

/-- What a run leaves behind. -/
structure Outcome (σ α : Type) where
  value : α
  world : σ
  trace : List Entry

namespace Program

variable {α β γ σ : Type}

def bind : Program α → (α → Program β) → Program β
  | done a, f => f a
  | note n rest, f => note n (rest.bind f)
  | ask q k, f => ask q fun r => (k r).bind f

instance : Monad Program where
  pure := done
  bind := bind

def tell (n : Notice) : Program Unit :=
  note n (done ())

def tellAll : List Notice → Program Unit
  | [] => done ()
  | n :: rest => note n (tellAll rest)

def query (q : Query) : Program (Except Fault q.Payload) :=
  ask q done

def device (q : DeviceQuery) : Program (Except Fault q.Payload) :=
  query (.device q)

def register (q : RegisterQuery) : Program (Except Fault q.Payload) :=
  query (.register q)

def run (b : Board σ) : Program α → σ → Outcome σ α
  | done a, s => ⟨a, s, []⟩
  | note n rest, s =>
    let o := run b rest s
    ⟨o.value, o.world, .noted n :: o.trace⟩
  | ask q k, s =>
    let r := b q s
    let o := run b (k r.answer) r.next
    ⟨o.value, o.world, r.notices.map .noted ++ .asked q r.answer :: o.trace⟩

@[simp] theorem run_pure (b : Board σ) (a : α) (s : σ) :
    run b (pure a : Program α) s = ⟨a, s, []⟩ := rfl

theorem run_bind (b : Board σ) (p : Program α) (f : α → Program β) (s : σ) :
    run b (p >>= f) s =
      ⟨(run b (f (run b p s).value) (run b p s).world).value,
        (run b (f (run b p s).value) (run b p s).world).world,
        (run b p s).trace ++ (run b (f (run b p s).value) (run b p s).world).trace⟩ := by
  change run b (bind p f) s = _
  induction p generalizing s with
  | done a => rfl
  | note n rest ih => simp only [bind, run, ih, List.cons_append]
  | ask q k ih => simp only [bind, run, ih, List.append_assoc, List.cons_append]

theorem bind_assoc (p : Program α) (f : α → Program β) (g : β → Program γ) :
    (p.bind f).bind g = p.bind fun a => (f a).bind g := by
  induction p with
  | done a => rfl
  | note n rest ih => simp only [bind, ih]
  | ask q k ih => simp only [bind, ih]

theorem bind_done (p : Program α) : p.bind done = p := by
  induction p with
  | done a => rfl
  | note n rest ih => simp only [bind, ih]
  | ask q k ih => simp only [bind, ih]

instance : LawfulMonad Program :=
  LawfulMonad.mk' Program bind_done (fun _ _ => rfl) bind_assoc

/-- The notices of a trace, in order. -/
def notices (t : List Entry) : List Notice :=
  t.filterMap fun
    | .noted n => some n
    | .asked .. => none

/-- The accesses of a trace, in order. -/
def queries (t : List Entry) : List Query :=
  t.filterMap fun
    | .noted _ => none
    | .asked q _ => some q

end Program

/-- Programs that may fail with a fault. -/
abbrev Action := ExceptT Fault Program

namespace Action

variable {α : Type}

def tell (n : Notice) : Action Unit :=
  ExceptT.lift (Program.tell n)

/-- Makes a register access and fails if it does. -/
def register (q : RegisterQuery) : Action q.Payload :=
  ExceptT.mk (Program.register q)

end Action

end SwitchThermal
