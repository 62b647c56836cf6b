import SwitchThermal.Proofs.Command
import SwitchThermal.Proofs.Interchange

/-!
# Setting all fans, exactly

What a command of a speed comes to, access by access. The chassis speed is set first, and a refusal
ends the command. Then the supplies have their turns, one after the other; what becomes of one of
them makes no difference to the next.

* `SupplyAnswers`, `SupplyView.Raises` — what the board says about a supply, and whether its fan is
  set; `SupplyView.raises` decides it.
* `SupplyView.follow`, `Board.turn`, `Board.followers` — the accesses in the turn of a supply, the
  state of the board when it comes, and the accesses in both turns.
* `yields_setFans_followers` — the whole command, when the chassis speed is accepted.
* `Board.DifferIn` — boards that differ in what concerns one supply.
* `all_fans_set` — everything that a command does.
-/

set_option autoImplicit false

namespace SwitchThermal

variable {σ τ : Type} {b : Board σ} {w : σ} {s : ControlState} {params : Params}
  {percentage : Nat} {view : SupplyView} {samples : Option Readings} {p : PowerSupply}

/-! ## The turn of a supply -/

/-- What the board says about a supply: its record, and the reading of its fan. -/
structure SupplyAnswers where
  record : Except Fault SupplyReading
  fan : Except Fault FanReading

def Board.supplyAnswers (b : Board σ) (w : σ) (p : PowerSupply) : SupplyAnswers :=
  ⟨(b (supplyAccess p) w).answer, (b (fanAccess (.supply p)) w).answer⟩

namespace SupplyView

/-- When the fan of a supply is set to a speed. -/
inductive Raises (percentage : Nat) (p : PowerSupply) (a : SupplyAnswers) : SupplyView → Prop where
  /-- The first record of the supply shows it operational, and its fan reads slower. -/
  | sampled {records : List SupplyReading} {r : SupplyReading} {reading : FanReading}
      (first : records.find? (fun r => r.supply = p) = some r) (present : r.present = true)
      (plugged : r.unplugged = false) (readable : a.fan = .ok reading)
      (slower : reading.percentage < percentage) : Raises percentage p a (.sampled records)
  /-- The supply says that it is operational. -/
  | query {r : SupplyReading} (readable : a.record = .ok r) (present : r.present = true)
      (plugged : r.unplugged = false) : Raises percentage p a .query

/-- Does the first record of a supply show it operational? -/
def operationalIn (records : List SupplyReading) (p : PowerSupply) : Bool :=
  (records.find? fun r => r.supply = p).any SupplyReading.operational

/-- Is the fan of a supply set to a speed? -/
def raises (view : SupplyView) (percentage : Nat) (p : PowerSupply) (a : SupplyAnswers) : Bool :=
  match view with
  | .sampled records =>
    operationalIn records p && a.fan.toOption.any fun r => decide (r.percentage < percentage)
  | .query => a.record.toOption.any SupplyReading.operational

theorem operational_iff {r : SupplyReading} :
    r.operational = true ↔ r.present = true ∧ r.unplugged = false := by
  simp [SupplyReading.operational]

theorem any_toOption_iff {ε α : Type} {x : Except ε α} {f : α → Bool} :
    x.toOption.any f = true ↔ ∃ a, x = .ok a ∧ f a = true := by
  cases x <;> simp [Except.toOption]

theorem raises_iff {a : SupplyAnswers} :
    view.raises percentage p a = true ↔ view.Raises percentage p a := by
  cases view with
  | sampled records =>
    rw [raises, operationalIn, Bool.and_eq_true, Option.any_eq_true, any_toOption_iff]
    constructor
    · rintro ⟨⟨r, first, operational⟩, reading, readable, slower⟩
      obtain ⟨present, plugged⟩ := operational_iff.1 operational
      exact .sampled first present plugged readable (of_decide_eq_true slower)
    · intro h
      cases h with
      | sampled first present plugged readable slower =>
        exact ⟨⟨_, first, operational_iff.2 ⟨present, plugged⟩⟩, _, readable,
          decide_eq_true slower⟩
  | query =>
    rw [raises, any_toOption_iff]
    constructor
    · rintro ⟨r, readable, operational⟩
      obtain ⟨present, plugged⟩ := operational_iff.1 operational
      exact .query readable present plugged
    · intro h
      cases h with
      | query readable present plugged =>
        exact ⟨_, readable, operational_iff.2 ⟨present, plugged⟩⟩

/-- What is read in the turn of a supply. -/
def asks (view : SupplyView) (p : PowerSupply) : List Query :=
  match view with
  | .sampled records => if operationalIn records p then [fanAccess (.supply p)] else []
  | .query => [supplyAccess p]

/-- The accesses in the turn of a supply, by what the board says about it. -/
def follow (view : SupplyView) (percentage : Nat) (p : PowerSupply) (a : SupplyAnswers) :
    List Query :=
  view.asks p ++ if view.raises percentage p a then [speedAccess (.supply p) percentage] else []

/-- Nothing is done for a supply that has not been sampled operational, -/
theorem follow_unlisted {records : List SupplyReading} (unlisted : operationalIn records p = false)
    (a : SupplyAnswers) : (sampled records).follow percentage p a = [] := by
  simp [follow, asks, raises, unlisted]

/-- and for any other its fan is read. -/
theorem follow_listed {records : List SupplyReading} (listed : operationalIn records p = true)
    (a : SupplyAnswers) : (sampled records).follow percentage p a =
      fanAccess (.supply p) :: if a.fan.toOption.any fun r => decide (r.percentage < percentage)
        then [speedAccess (.supply p) percentage] else [] := by
  simp [follow, asks, raises, listed]

end SupplyView

theorem yields_raiseSupplyFan (b : Board σ) (w : σ) (p : PowerSupply) (percentage : Nat) :
    Program.Yields b w (Actuator.raiseSupplyFan p percentage) ()
      (fanAccess (.supply p) ::
        if (b.supplyAnswers w p).fan.toOption.any fun r => decide (r.percentage < percentage)
        then [speedAccess (.supply p) percentage] else []) := by
  refine (Program.Yields.query _).bind ?_
  rw [Board.supplyAnswers]
  cases (b (fanAccess (.supply p)) w).answer with
  | error e => exact .tell _
  | ok reading =>
    show Program.Yields b _ (if percentage ≤ reading.percentage then pure () else _) ()
      (if decide (reading.percentage < percentage) = true then _ else _)
    by_cases slower : reading.percentage < percentage
    · rw [if_neg (Nat.not_le.2 slower), if_pos (decide_eq_true slower)]
      refine (Program.Yields.query _).bind_quiet ?_
      cases (b (speedAccess (.supply p) percentage) _).answer with
      | ok u => exact .tell _
      | error e =>
        show Program.Yields b _ (if e.kind = .unsupported then _ else _) () []
        split
        · exact .tell _
        · exact .tell _
    · rw [if_pos (Nat.le_of_not_lt slower), if_neg (by simpa using slower)]
      exact .pure ()

theorem yields_setSupplyFan (b : Board σ) (w : σ) (p : PowerSupply) (percentage : Nat) :
    Program.Yields b w (Actuator.setSupplyFan p percentage) ()
      (supplyAccess p ::
        if (b.supplyAnswers w p).record.toOption.any SupplyReading.operational
        then [speedAccess (.supply p) percentage] else []) := by
  refine (Program.Yields.query _).bind ?_
  rw [Board.supplyAnswers]
  cases (b (supplyAccess p) w).answer with
  | error e => exact .tell _
  | ok r =>
    show Program.Yields b _ (if r.operational then _ else pure ()) ()
      (if r.operational = true then _ else _)
    split
    · refine (Program.Yields.query _).bind_quiet ?_
      cases (b (speedAccess (.supply p) percentage) _).answer with
      | ok u => exact .pure ()
      | error e => exact .tell _
    · exact .pure ()

/-- **The turn of a supply.** -/
theorem yields_followSupply (b : Board σ) (w : σ) (view : SupplyView) (percentage : Nat)
    (p : PowerSupply) : Program.Yields b w (Actuator.followSupply view percentage p) ()
      (view.follow percentage p (b.supplyAnswers w p)) := by
  cases view with
  | query => exact yields_setSupplyFan b w p percentage
  | sampled records =>
    cases first : records.find? fun r => r.supply = p with
    | none =>
      have unlisted : SupplyView.operationalIn records p = false := by
        rw [SupplyView.operationalIn, first, Option.any_none]
      rw [SupplyView.follow_unlisted unlisted, Actuator.followSupply, first]
      exact .pure ()
    | some r =>
      have sampled : SupplyView.operationalIn records p = r.operational := by
        rw [SupplyView.operationalIn, first, Option.any_some]
      rw [Actuator.followSupply, first]
      cases operational : r.operational with
      | true =>
        rw [SupplyView.follow_listed (sampled.trans operational)]
        simp only [operational, if_true]
        exact yields_raiseSupplyFan b w p percentage
      | false =>
        rw [SupplyView.follow_unlisted (sampled.trans operational)]
        simp only [operational]
        exact .pure ()

/-! ## The turns of both supplies -/

/-- The state of the board when the turn of a supply comes. -/
def Board.turn (b : Board σ) (w : σ) (view : SupplyView) (percentage : Nat) : PowerSupply → σ
  | .first => w
  | .second => b.after w (view.follow percentage .first (b.supplyAnswers w .first))

/-- What the board says about a supply when its turn comes. -/
def Board.turnAnswers (b : Board σ) (w : σ) (view : SupplyView) (percentage : Nat)
    (p : PowerSupply) : SupplyAnswers :=
  b.supplyAnswers (b.turn w view percentage p) p

/-- The accesses in both turns. -/
def Board.followers (b : Board σ) (w : σ) (view : SupplyView) (percentage : Nat) : List Query :=
  PowerSupply.all.flatMap fun p => view.follow percentage p (b.turnAnswers w view percentage p)

theorem yields_followers (b : Board σ) (w : σ) (view : SupplyView) (percentage : Nat) :
    Program.Yields b w (PowerSupply.all.forM (Actuator.followSupply view percentage)) ()
      (b.followers w view percentage) :=
  (yields_followSupply b w view percentage .first).bind
    ((yields_followSupply b _ view percentage .second).bind (.pure ()))

/-- The state of the board after the chassis speed has been set. -/
abbrev Board.afterPrimary (b : Board σ) (w : σ) (percentage : Nat) : σ :=
  (b (speedAccess .primary percentage) w).next

/-- **The whole command**, when the chassis speed is accepted. -/
theorem yields_setFans_followers (params : Params) (view : SupplyView) (samples : Option Readings)
    (s : ControlState) (h : (b (speedAccess .primary percentage) w).answer = .ok ()) :
    Pass.Yields b w s (Actuator.setFans params percentage view samples) (.ok ())
      (Actuator.settle params samples s)
      (speedAccess .primary percentage ::
        b.followers (b.afterPrimary w percentage) view percentage) := by
  refine (Pass.Yields.need h).bind ?_
  exact (Pass.Yields.ofProgram (yields_followers b _ view percentage)).bind_quiet
    (.modify_bind (.tell _))

/-! ## Settings in a list of accesses -/

/-- The fan and the speed, if the access is a setting. -/
def Query.setting? : Query → Option (Fan × Nat)
  | .device (.setFan f v) => some (f, v)
  | _ => none

/-- The settings among some accesses. -/
def settingsAmong (qs : List Query) : List (Fan × Nat) :=
  qs.filterMap Query.setting?

theorem settingsAmong_append (qs rs : List Query) :
    settingsAmong (qs ++ rs) = settingsAmong qs ++ settingsAmong rs :=
  List.filterMap_append

theorem settingsAmong_follow (view : SupplyView) (percentage : Nat) (p : PowerSupply)
    (a : SupplyAnswers) : settingsAmong (view.follow percentage p a) =
      if view.raises percentage p a then [(.supply p, percentage)] else [] := by
  have reads : settingsAmong (view.asks p) = [] := by
    cases view with
    | sampled records =>
      rw [SupplyView.asks]
      split
      · rfl
      · rfl
    | query => rfl
  rw [SupplyView.follow, settingsAmong_append, reads, List.nil_append]
  split
  · rfl
  · rfl

/-- The fans that are set are those of the supplies that the view singles out, in their order. -/
theorem settingsAmong_followers (b : Board σ) (w : σ) (view : SupplyView) (percentage : Nat) :
    settingsAmong (b.followers w view percentage) =
      (PowerSupply.all.filter fun p =>
        view.raises percentage p (b.turnAnswers w view percentage p)).map
          fun p => (.supply p, percentage) := by
  rw [Board.followers, settingsAmong, List.filterMap_flatMap]
  induction PowerSupply.all with
  | nil => rfl
  | cons p rest ih =>
    have turn := settingsAmong_follow view percentage p (b.turnAnswers w view percentage p)
    rw [settingsAmong] at turn
    rw [List.flatMap_cons, turn, ih, List.filter_cons]
    split
    · rfl
    · rfl

/-! ## What becomes of a supply -/

/-- The accesses that concern a supply. -/
inductive PowerSupply.Concerns (p : PowerSupply) : Query → Prop where
  | record : p.Concerns (supplyAccess p)
  | fan : p.Concerns (fanAccess (.supply p))
  | set (v : Nat) : p.Concerns (speedAccess (.supply p) v)

/-- Boards that differ in what concerns one supply: what it answers, and what becomes of it. -/
structure Board.DifferIn (p : PowerSupply) (R : σ → τ → Prop) (b : Board σ) (b' : Board τ) :
    Prop where
  elsewhere : Board.Agree R (fun q => ¬ p.Concerns q) b b'
  left : ∀ q w w', p.Concerns q → R w w' → R (b q w).next w'
  right : ∀ q w w', p.Concerns q → R w w' → R w (b' q w').next

/-- The settings of anything but the fan of a supply. -/
def besides (p : PowerSupply) (settings : List (Fan × Nat)) : List (Fan × Nat) :=
  settings.filter fun x => x.1 ≠ .supply p

theorem PowerSupply.Concerns.eq {p q : PowerSupply} {x : Query} (hp : p.Concerns x)
    (hq : q.Concerns x) : p = q := by
  cases hp with
  | record => cases hq; rfl
  | fan => cases hq; rfl
  | set v => cases hq; rfl

theorem SupplyView.follow_concerns (view : SupplyView) (percentage : Nat) (p : PowerSupply)
    (a : SupplyAnswers) : ∀ q ∈ view.follow percentage p a, p.Concerns q := by
  have asks : ∀ q ∈ view.asks p, p.Concerns q := by
    cases view with
    | sampled records =>
      rw [SupplyView.asks]
      split
      · exact List.forall_mem_singleton.2 .fan
      · exact List.forall_mem_nil _
    | query => exact List.forall_mem_singleton.2 .record
  refine List.forall_mem_append.2 ⟨asks, ?_⟩
  split
  · exact List.forall_mem_singleton.2 (.set percentage)
  · exact List.forall_mem_nil _

namespace Board.DifferIn

variable {R : σ → τ → Prop} {b' : Board τ} {w' : τ} {qs : List Query}

theorem after_left (h : b.DifferIn p R b') (concerns : ∀ q ∈ qs, p.Concerns q) (related : R w w') :
    R (b.after w qs) w' := by
  induction qs generalizing w with
  | nil => exact related
  | cons q qs ih =>
    obtain ⟨here, later⟩ := List.forall_mem_cons.1 concerns
    exact ih later (h.left q w w' here related)

theorem after_right (h : b.DifferIn p R b') (concerns : ∀ q ∈ qs, p.Concerns q)
    (related : R w w') : R w (b'.after w' qs) := by
  induction qs generalizing w' with
  | nil => exact related
  | cons q qs ih =>
    obtain ⟨here, later⟩ := List.forall_mem_cons.1 concerns
    exact ih later (h.right q w w' here related)

theorem after (h : b.DifferIn p R b') (elsewhere : ∀ q ∈ qs, ¬ p.Concerns q)
    (related : R w w') : R (b.after w qs) (b'.after w' qs) := by
  induction qs generalizing w w' with
  | nil => exact related
  | cons q qs ih =>
    obtain ⟨here, later⟩ := List.forall_mem_cons.1 elsewhere
    exact ih later (h.elsewhere q w w' here related).2

/-- The turn of a supply comes to the same on both boards, if it is not the one they differ in. -/
theorem turn (h : b.DifferIn p R b') (related : R w w') (view : SupplyView) (percentage : Nat)
    (q : PowerSupply) :
    R (b.after w (view.follow percentage q (b.supplyAnswers w q)))
        (b'.after w' (view.follow percentage q (b'.supplyAnswers w' q))) ∧
      besides p (settingsAmong (view.follow percentage q (b.supplyAnswers w q))) =
        besides p (settingsAmong (view.follow percentage q (b'.supplyAnswers w' q))) := by
  by_cases here : q = p
  · subst here
    have unseen : ∀ a, besides q (settingsAmong (view.follow percentage q a)) = [] := by
      intro a
      rw [settingsAmong_follow, besides, List.filter_eq_nil_iff]
      intro x hx
      split at hx
      · rw [List.mem_singleton.1 hx]
        simp
      · cases hx
    rw [unseen, unseen]
    exact ⟨h.after_left (view.follow_concerns percentage q _)
      (h.after_right (view.follow_concerns percentage q _) related), rfl⟩
  · have apart : ∀ x, q.Concerns x → ¬ p.Concerns x := fun x hq hp => here (hq.eq hp)
    have same : b.supplyAnswers w q = b'.supplyAnswers w' q := by
      rw [Board.supplyAnswers, Board.supplyAnswers,
        (h.elsewhere _ w w' (apart _ .record) related).1,
        (h.elsewhere _ w w' (apart _ .fan) related).1]
    rw [same]
    exact ⟨h.after (fun x hx => apart x (view.follow_concerns percentage q _ x hx)) related, rfl⟩

/-- **The turns of both supplies** differ at most in the settings of the one. -/
theorem followers (h : b.DifferIn p R b') (related : R w w') (view : SupplyView)
    (percentage : Nat) :
    besides p (settingsAmong (b.followers w view percentage)) =
      besides p (settingsAmong (b'.followers w' view percentage)) := by
  have split : ∀ {ρ : Type} (b : Board ρ) (w : ρ),
      besides p (settingsAmong (b.followers w view percentage)) =
        besides p (settingsAmong (view.follow percentage .first (b.supplyAnswers w .first))) ++
          besides p (settingsAmong (view.follow percentage .second
            (b.supplyAnswers (b.turn w view percentage .second) .second))) := by
    intro ρ b w
    rw [besides, besides, besides, ← List.filter_append, ← settingsAmong_append]
    simp [Board.followers, PowerSupply.all, Board.turnAnswers, Board.turn]
  obtain ⟨next, first⟩ := h.turn related view percentage .first
  rw [split, split, first]
  exact congrArg _ (h.turn next view percentage .second).2

end Board.DifferIn

/-! ## The command -/

/-- What an accepted command comes to. -/
structure FansFollow (b : Board σ) (w : σ) (s : ControlState) (params : Params) (percentage : Nat)
    (view : SupplyView) (samples : Option Readings)
    (out : Outcome σ (Except Halt Unit × ControlState)) : Prop where
  ok : out.value.1 = .ok ()
  /-- The accesses, in order. -/
  accesses : Program.queries out.trace = speedAccess .primary percentage ::
    b.followers (b.afterPrimary w percentage) view percentage
  /-- The settings are that of the chassis and, in their order, those of the supplies that the view
  singles out by what the board says about them in their turn. -/
  settings : ∃ chosen : List PowerSupply, chosen.Sublist PowerSupply.all ∧
    (∀ p, p ∈ chosen ↔ view.Raises percentage p
      (b.turnAnswers (b.afterPrimary w percentage) view percentage p)) ∧
    settingsAmong (Program.queries out.trace) =
      (.primary, percentage) :: chosen.map fun p => (.supply p, percentage)
  /-- The cooldown starts again, and nothing else changes but the baseline. -/
  state : out.value.2 = { s with cooldown := params.cooldown, baseline := out.value.2.baseline }
  /-- A sampled sensor has its sample as baseline, and any other what it had. -/
  baseline : ∀ x, out.value.2.baseline.get? x =
    (samples.bind fun m => m.get? x).or (s.baseline.get? x)

/-- What a command of one speed for all fans comes to. -/
structure AllFansSet (b : Board σ) (w : σ) (s : ControlState) (params : Params) (percentage : Nat)
    (view : SupplyView) (samples : Option Readings) : Prop where
  /-- A refusal of the chassis speed ends the command, and leaves the state as it was. -/
  refused : ∀ e, (b (speedAccess .primary percentage) w).answer = .error e →
    ((Actuator.setFans params percentage view samples).runOn b s w).value = (.error (.fault e), s) ∧
      Program.queries ((Actuator.setFans params percentage view samples).runOn b s w).trace =
        [speedAccess .primary percentage]
  accepted : (b (speedAccess .primary percentage) w).answer = .ok () →
    FansFollow b w s params percentage view samples
      ((Actuator.setFans params percentage view samples).runOn b s w)
  /-- What becomes of a supply changes neither the end of the command nor what is done for the
  other one. -/
  apart : ∀ {τ : Type} {R : σ → τ → Prop} {b' : Board τ} {w' : τ} {p : PowerSupply},
    b.DifferIn p R b' → R w w' →
      ((Actuator.setFans params percentage view samples).runOn b s w).value =
          ((Actuator.setFans params percentage view samples).runOn b' s w').value ∧
        besides p (settingsAmong (Program.queries
            ((Actuator.setFans params percentage view samples).runOn b s w).trace)) =
          besides p (settingsAmong (Program.queries
            ((Actuator.setFans params percentage view samples).runOn b' s w').trace))

theorem baseline_settle (params : Params) (samples : Option Readings) (s : ControlState)
    (x : Sensor) : (Actuator.settle params samples s).baseline.get? x =
      (samples.bind fun m => m.get? x).or (s.baseline.get? x) := by
  cases samples with
  | none => rfl
  | some m => exact Cells.get?_overlay _ _ x

theorem fansFollow (params : Params) (percentage : Nat) (view : SupplyView)
    (samples : Option Readings) (s : ControlState)
    (accepted : (b (speedAccess .primary percentage) w).answer = .ok ()) :
    FansFollow b w s params percentage view samples
      ((Actuator.setFans params percentage view samples).runOn b s w) := by
  have run := yields_setFans_followers params view samples s accepted
  refine ⟨run.result, run.trace, ?settings, ?state, ?baseline⟩
  case settings =>
    refine ⟨PowerSupply.all.filter fun p => view.raises percentage p
      (b.turnAnswers (b.afterPrimary w percentage) view percentage p),
      List.filter_sublist, fun p => ?_, ?_⟩
    · rw [List.mem_filter, SupplyView.raises_iff]
      exact and_iff_right (by cases p <;> decide)
    · rw [run.trace]
      exact congrArg ((.primary, percentage) :: ·) (settingsAmong_followers _ _ view percentage)
  case state =>
    rw [run.state]
    cases samples with
    | none => rfl
    | some m => rfl
  case baseline =>
    intro x
    rw [run.state]
    exact baseline_settle params samples s x

/-- **Setting all fans**, on every board and from every state. -/
theorem all_fans_set (b : Board σ) (w : σ) (s : ControlState) (params : Params) (percentage : Nat)
    (view : SupplyView) (samples : Option Readings) :
    AllFansSet b w s params percentage view samples := by
  have refused : ∀ {ρ : Type} (b : Board ρ) (w : ρ) (e : Fault),
      (b (speedAccess .primary percentage) w).answer = .error e →
      ((Actuator.setFans params percentage view samples).runOn b s w).value =
          (.error (.fault e), s) ∧
        Program.queries ((Actuator.setFans params percentage view samples).runOn b s w).trace =
          [speedAccess .primary percentage] := by
    intro ρ b w e he
    have run : Pass.Yields b w s (Actuator.setFans params percentage view samples)
        (.error (.fault e)) s [speedAccess .primary percentage] := yields_setFans_refused he
    exact ⟨run.value, run.trace⟩
  refine ⟨refused b w, fansFollow params percentage view samples s, ?apart⟩
  case apart =>
    intro τ R b' w' p differ related
    have aside : ¬ p.Concerns (speedAccess .primary percentage) := nofun
    obtain ⟨answer, next⟩ := differ.elsewhere _ w w' aside related
    cases ha : (b (speedAccess .primary percentage) w).answer with
    | error e =>
      obtain ⟨value, accesses⟩ := refused b w e ha
      obtain ⟨value', accesses'⟩ := refused b' w' e (answer ▸ ha)
      rw [value, value', accesses, accesses']
      exact ⟨rfl, rfl⟩
    | ok u =>
      have run := yields_setFans_followers params view samples s ha
      have run' := yields_setFans_followers params view samples s (answer ▸ ha)
      rw [run.trace, run'.trace]
      refine ⟨run.value.trans run'.value.symm, ?_⟩
      have same := differ.followers next view percentage
      exact congrArg ((.primary, percentage) :: ·) same

/-- Of the records of a supply, the first one counts. -/
example : settingsAmong (Program.queries ((Actuator.setFans .standard 80
      (.sampled [⟨.first, false, false, false⟩, ⟨.first, true, false, false⟩,
        ⟨.second, true, false, false⟩]) none).runOn Bench.trialBoard {} (.patched 50 [])).trace) =
    [(.primary, 80), (.supply .second, 80)] := by decide +kernel

end SwitchThermal
