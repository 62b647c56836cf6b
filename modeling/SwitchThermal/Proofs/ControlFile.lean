import SwitchThermal.Proofs.Interchange
import SwitchThermal.Proofs.RegisterProtocol
import SwitchThermal.Proofs.WatchdogFirst

/-!
# The control file counts until the start succeeds

A controller reads its control file whenever it tries to start, and never again once it has started.
An attempt in vain leaves nothing behind that the next one goes by.

* `Query.Elsewhere` — the accesses to anything but a control file.
* `Turn.reads_settings`, `Turn.elsewhere` — what a pass reads of control files.
* `pass_forgets` — until the start succeeds, what an earlier attempt has read makes no difference.
* `Turn.enabled_after`, `Turn.disabled_iff` — whether the algorithm runs, and what a pass that finds
  it disabled comes to.
* `SameTurn`, `history_elsewhere` — started controllers on boards that differ in their control
  files.
* `control_file_counts_until_started` — every row of passes from a fresh state.
-/

set_option autoImplicit false

namespace SwitchThermal

variable {σ σ' : Type} {b : Board σ} {c : Controller} {w : σ} {s s' : ControlState}
  {r : Except Halt PassReport} {qs : List Query}

/-! ## Reads of the control file -/

/-- Not a read of a control file. -/
def Query.Elsewhere (q : Query) : Prop :=
  ∀ path, q ≠ .controlFile path

theorem OnDevices.elsewhere (h : OnDevices qs) : ∀ q ∈ qs, q.Elsewhere := by
  intro q hq
  obtain ⟨d, rfl⟩ := h q hq
  exact fun _ => nofun

theorem elsewhere_registers (l : List RegisterQuery) : ∀ q ∈ l.map Query.register, q.Elsewhere := by
  intro q hq
  obtain ⟨r, -, rfl⟩ := List.mem_map.1 hq
  exact fun _ => nofun

theorem elsewhere_duty : ∀ q ∈ dutyAccesses, q.Elsewhere :=
  elsewhere_registers [Watchdog.refreshQuery, Watchdog.statusQuery]

theorem elsewhere_latch (b : Board σ) (w : σ) : ∀ q ∈ (b.latch w).2, q.Elsewhere := by
  intro q hq
  obtain ⟨r, -, rfl⟩ := latch_accesses hq
  exact fun _ => nofun

/-- No end of a pass reads a control file. -/
theorem Controller.Ends.elsewhere (h : c.Ends b w s r s' qs) : ∀ q ∈ qs, q.Elsewhere := by
  cases h.duty with
  | disabled off => exact List.forall_mem_nil _
  | unrefreshed on refused => exact elsewhere_registers [Watchdog.refreshQuery]
  | statusUnreadable on refreshed unreadable => exact elsewhere_duty
  | met on refreshed read onDevices =>
    exact List.forall_mem_append.2 ⟨elsewhere_duty, onDevices.elsewhere⟩
  | latching on refreshed read unlatched onDevices =>
    exact List.forall_mem_append.2
      ⟨List.forall_mem_append.2 ⟨elsewhere_duty, onDevices.elsewhere⟩, elsewhere_latch b _⟩

/-- A start reads the control file first, and no other one. -/
theorem Controller.Starts.reads_settings {x : Except Halt Unit} (h : c.Starts b w s x s' qs)
    (unstarted : s.initialised = false) :
    ∃ rest, qs = c.settingsAccess :: rest ∧ ∀ q ∈ rest, q.Elsewhere := by
  have ready : ∀ q ∈ Watchdog.armQueries.map Query.register ++ [.register Watchdog.statusQuery],
      q.Elsewhere :=
    List.forall_mem_append.2 ⟨elsewhere_registers _, elsewhere_registers [Watchdog.statusQuery]⟩
  cases h with
  | already started =>
    rw [unstarted] at started
    cases started
  | off => exact ⟨[], rfl, List.forall_mem_nil _⟩
  | unarmed unstarted enabled refused =>
    refine ⟨_, rfl, fun q hq => elsewhere_registers Watchdog.armQueries q ?_⟩
    exact (b.attempt_initial _ _).subset hq
  | statusUnreadable | latched => exact ⟨_, rfl, ready⟩
  | sampled => exact ⟨_, rfl, List.forall_mem_append.2 ⟨ready, (OnDevices.map _ _).elsewhere⟩⟩

/-! ## Ends of disabled passes -/

theorem Controller.Ends.of_disabled (h : c.Ends b w s (.ok .disabled) s' qs) :
    s.enabled = false := by
  generalize hr : (.ok .disabled : Except Halt PassReport) = r at h
  cases h with
  | disabled off => exact off
  | unrefreshed | statusUnreadable | standing | fullSpeed | fullSpeedRefused | fanUnreadable =>
    cases hr
  | managed on clear rest =>
    cases rest with
    | tripped => cases trip_eq_ok hr.symm
    | overflow | kept | applied | refused => cases hr

/-- A pass that finds the algorithm disabled does nothing. -/
theorem Controller.Ends.of_off (h : c.Ends b w s r s' qs) (off : s.enabled = false) :
    r = .ok .disabled ∧ s' = s ∧ qs = [] := by
  cases h with
  | disabled => exact ⟨rfl, rfl, rfl⟩
  | unrefreshed on | statusUnreadable on | standing on | fullSpeed on | fullSpeedRefused on
  | fanUnreadable on | managed on =>
    rw [off] at on
    cases on

/-! ## Attempts leave nothing behind -/

theorem Pass.run_bind {α β : Type} (p : Pass α) (f : α → Pass β) (s : ControlState) :
    (p >>= f).run.run s =
      p.run.run s >>= fun x => (ExceptT.bindCont f x.1).run x.2 := rfl

/-- A pass that begins with a program runs it, and goes on in the same state. -/
theorem Pass.run_ofProgram_bind {α β : Type} (p : Program α) (f : α → Pass β) (s : ControlState) :
    (Pass.ofProgram p >>= f).run.run s = p >>= fun a => (f a).run.run s := by
  simp [Pass.ofProgram]

/-- **An attempt to start does not go by what earlier ones have read.** -/
theorem pass_forgets (c : Controller) (unstarted : s.initialised = false) (enabled : Bool) :
    c.pass.run.run { s with enabled := enabled } = c.pass.run.run s := by
  have start : c.start.run.run { s with enabled := enabled } = c.start.run.run s := by
    unfold Controller.start
    rw [Pass.run_ofProgram_bind, Pass.run_ofProgram_bind]
    rfl
  have tried : (c.start.onFault .startFailed).run.run { s with enabled := enabled } =
      (c.start.onFault .startFailed).run.run s := by
    show c.start.run.run _ >>= _ = c.start.run.run s >>= _
    rw [start]
  have begins (s : ControlState) (unstarted : s.initialised = false) :
      c.ensureStarted.run.run s = (c.start.onFault .startFailed >>= fun _ =>
        modify fun s : ControlState => { s with initialised := true } : Pass PUnit).run.run s := by
    unfold Controller.ensureStarted
    show (if !s.initialised then _ else _ : Pass PUnit).run.run s = _
    rw [unstarted]
    rfl
  unfold Controller.pass
  rw [Pass.run_bind, Pass.run_bind, begins s unstarted, begins { s with enabled } unstarted,
    Pass.run_bind, Pass.run_bind, tried]

/-! ## Passes -/

namespace Turn

/-- A pass that has yet to start reads the control file first, and nothing else of the kind. -/
theorem reads_settings (t : Turn c b) (unstarted : t.before.initialised = false) :
    ∃ rest, Program.queries t.trace = c.settingsAccess :: rest ∧ ∀ q ∈ rest, q.Elsewhere := by
  obtain ⟨starts, hstarts, -, ⟨h, -, hpass⟩ | ⟨-, qs, hends, hpass⟩⟩ := t.parts
  · obtain ⟨rest, rfl, elsewhere⟩ := hstarts.reads_settings unstarted
    exact ⟨rest, hpass.trace, elsewhere⟩
  · obtain ⟨rest, rfl, elsewhere⟩ := hstarts.reads_settings unstarted
    exact ⟨rest ++ qs, hpass.trace, List.forall_mem_append.2 ⟨elsewhere, hends.elsewhere⟩⟩

/-- One that has started reads none. -/
theorem elsewhere (t : Turn c b) (started : t.before.initialised = true) :
    ∀ q ∈ Program.queries t.trace, q.Elsewhere := by
  obtain ⟨starts, hstarts, -, ⟨h, vain, -⟩ | ⟨-, qs, hends, hpass⟩⟩ := t.parts
  · obtain ⟨done, -⟩ := hstarts.of_initialised started
    rw [vain] at done
    cases done
  · obtain ⟨-, -, rfl⟩ := hstarts.of_initialised started
    rw [show Program.queries t.trace = [] ++ qs from hpass.trace]
    exact hends.elsewhere

/-- Whether the algorithm runs after a pass. -/
theorem enabled_after (t : Turn c b) : t.after.enabled = t.enabled := by
  obtain ⟨starts, hstarts, -, ⟨h, vain, hpass⟩ | ⟨done, qs, hends, -⟩⟩ := t.parts
  · rw [vain] at hstarts
    rw [show t.after = t.ready from hpass.state]
    generalize t.ready = s₁ at hstarts
    cases hstarts with
    | unarmed unstarted on | statusUnreadable unstarted on => simp [enabled, unstarted, on]
  · rw [done] at hstarts
    rw [hends.enabled, hstarts.flags.2]

theorem enabled_of_unstarted {t : Turn c b} (unstarted : t.before.initialised = false) :
    t.enabled = (c.settings b t.world).enabled := by
  simp [enabled, unstarted]

theorem enabled_of_started {t : Turn c b} (started : t.before.initialised = true) :
    t.enabled = t.before.enabled := by
  simp [enabled, started]

/-- A pass reports that the algorithm is disabled if and only if it is. -/
theorem disabled_iff (t : Turn c b) : t.result = .ok .disabled ↔ t.enabled = false := by
  obtain ⟨starts, hstarts, -, ⟨h, vain, hpass⟩ | ⟨done, qs, hends, -⟩⟩ := t.parts
  · rw [vain] at hstarts
    rw [show t.result = .error h from hpass.result]
    obtain ⟨-, starting⟩ := hstarts.flags_vain
    obtain ⟨unstarted, on⟩ : t.before.initialised = false ∧
        (c.settings b t.world).enabled = true := by
      simpa [Turn.starting] using starting
    rw [enabled_of_unstarted unstarted, on]
    refine iff_of_false (fun disabled => ?_) Bool.noConfusion
    cases disabled
  · rw [done] at hstarts
    have flag : t.ready.enabled = t.enabled := hstarts.flags.2
    rw [← flag]
    refine ⟨fun disabled => ?_, fun off => (hends.of_off off).1⟩
    rw [disabled] at hends
    exact hends.of_disabled

/-- A pass that leaves the controller unstarted changes at most the flag of the algorithm. -/
theorem of_unstarted (t : Turn c b) (h : t.after.initialised = false) :
    t.before.initialised = false ∧ ∃ enabled, t.after = { t.before with enabled := enabled } := by
  obtain ⟨starts, hstarts, -, ⟨e, vain, hpass⟩ | ⟨done, qs, hends, -⟩⟩ := t.parts
  · rw [vain] at hstarts
    rw [show t.after = t.ready from hpass.state]
    generalize t.ready = s₁ at hstarts
    cases hstarts with
    | unarmed unstarted | statusUnreadable unstarted => exact ⟨unstarted, true, rfl⟩
  · rw [done] at hstarts
    rw [hends.initialised, hstarts.flags.1] at h
    cases h

/-- A pass whose start found the algorithm disabled has read the control file and nothing else. -/
theorem reads_only_settings {t : Turn c b} (unstarted : t.before.initialised = false)
    (off : (c.settings b t.world).enabled = false) :
    t.after.initialised = true ∧ Program.queries t.trace = [c.settingsAccess] := by
  refine ⟨t.initialised_iff.2 (.inr (.inl off)), ?_⟩
  obtain ⟨starts, hstarts, -, ⟨h, vain, -⟩ | ⟨done, qs, hends, hpass⟩⟩ := t.parts
  · rw [vain] at hstarts
    obtain ⟨-, starting⟩ := hstarts.flags_vain
    rw [Turn.starting, off, Bool.and_false] at starting
    cases starting
  · rw [done] at hstarts
    have flag : t.ready.enabled = t.enabled := hstarts.flags.2
    rw [enabled_of_unstarted unstarted, off] at flag
    obtain ⟨-, -, rfl⟩ := hends.of_off flag
    rw [show Program.queries t.trace = starts ++ [] from hpass.trace, List.append_nil]
    generalize t.start.value.1 = x, t.ready = s₁ at hstarts
    cases hstarts with
    | already started =>
      rw [unstarted] at started
      cases started
    | off => rfl
    | latched _ on | sampled _ on =>
      rw [off] at on
      cases on

/-- A started controller whose algorithm is disabled does nothing, and says nothing. -/
theorem idle_of_off {t : Turn c b} (started : t.before.initialised = true)
    (off : t.before.enabled = false) :
    t.result = .ok .disabled ∧ t.trace = [] ∧ t.after = t.before := by
  have begun : c.ensureStarted.run.run t.before = .done (.ok (), t.before) := by
    unfold Controller.ensureStarted
    show (if !t.before.initialised then _ else _ : Pass PUnit).run.run _ = _
    rw [started]
    rfl
  have idle : c.pass.run.run t.before = .done (.ok .disabled, t.before) := by
    unfold Controller.pass
    rw [Pass.run_bind, begun]
    show c.proceed.run.run t.before = _
    unfold Controller.proceed
    show (if !t.before.enabled then _ else _ : Pass PassReport).run.run _ = _
    rw [off]
    rfl
  have outcome : t.outcome = ⟨(.ok .disabled, t.before), t.world, []⟩ :=
    congrArg (fun p => Program.run b p t.world) idle
  rw [result, trace, after, outcome]
  exact ⟨rfl, rfl, rfl⟩

end Turn

/-! ## Rows of passes -/

section Row

variable {b' : Board σ'} {R : σ → σ' → Prop} {ws : List σ} {ws' : List σ'} {i j : Nat}
  {t u : Turn c b}

/-- The rest of a history is the history from there on. -/
theorem Controller.history_drop (h : (c.history b s ws)[i]? = some t) :
    (c.history b s ws).drop (i + 1) = c.history b t.after (ws.drop (i + 1)) := by
  induction ws generalizing s i with
  | nil => cases h
  | cons w ws ih =>
    cases i with
    | zero =>
      cases h
      rfl
    | succ i => exact ih h

/-- Two passes that come to the same: the same control states, the same result, and the same
accesses with the same answers. -/
structure SameTurn {b' : Board σ'} (t : Turn c b) (t' : Turn c b') : Prop where
  before : t.before = t'.before
  result : t.result = t'.result
  after : t.after = t'.after
  answers : answers t.trace = answers t'.trace

/-- **Started controllers do not notice their control files.** On two boards that answer everything
else alike, their passes come to the same. -/
theorem Controller.history_elsewhere (alike : Board.Agree R Query.Elsewhere b b')
    (started : s.initialised = true) (worlds : List.Forall₂ R ws ws') :
    List.Forall₂ SameTurn (c.history b s ws) (c.history b' s ws') := by
  induction worlds generalizing s with
  | nil => exact .nil
  | @cons w w' ws ws' related _ ih =>
    obtain ⟨value, -, answers⟩ := alike.run (c.pass.run.run s) related
      (Turn.elsewhere (c := c) (b := b) ⟨w, s⟩ started)
    have after : Turn.after (c := c) (b := b) ⟨w, s⟩ = Turn.after (c := c) (b := b') ⟨w', s⟩ :=
      congrArg Prod.snd value
    refine .cons ⟨rfl, congrArg Prod.fst value, after, answers⟩ ?_
    rw [← after]
    exact ih ((Turn.initialised_iff _).2 (.inl started))

/-- Until the start succeeds, only the flag of the algorithm is not as in a fresh state. -/
theorem Controller.history_unstarted (h : (c.history b .fresh ws)[i]? = some t)
    (unstarted : t.before.initialised = false) :
    ∃ enabled, t.before = { ControlState.fresh with enabled := enabled } := by
  refine history_induction (P := fun _ s => s.initialised = false →
    ∃ enabled, s = { ControlState.fresh with enabled := enabled }) ?start ?step h unstarted
  case start => exact fun _ => ⟨false, rfl⟩
  case step =>
    intro k u hu before unstarted
    obtain ⟨untouched, enabled, after⟩ := u.of_unstarted unstarted
    obtain ⟨earlier, fresh⟩ := before untouched
    exact ⟨enabled, by rw [after, fresh]⟩

/-- After a pass that leaves the controller started, all find it started. -/
theorem Controller.history_started (h : (c.history b s ws)[i]? = some t)
    (started : t.after.initialised = true) (later : i < j) (hu : (c.history b s ws)[j]? = some u) :
    u.before.initialised = true ∧ u.before.enabled = t.after.enabled := by
  refine history_induction_after
    (P := fun _ s => s.initialised = true ∧ s.enabled = t.after.enabled) h ⟨started, rfl⟩ ?_
    later hu
  rintro k v - - ⟨before, flag⟩
  refine ⟨v.initialised_iff.2 (.inl before), ?_⟩
  rw [v.enabled_after, Turn.enabled_of_started before, flag]

/-- Before a pass that finds the controller unstarted, all have. -/
theorem Controller.history_earlier (h : (c.history b s ws)[i]? = some t)
    (unstarted : t.before.initialised = false) (earlier : j ≤ i)
    (hu : (c.history b s ws)[j]? = some u) : u.before.initialised = false := by
  rcases Nat.lt_or_eq_of_le earlier with earlier | rfl
  · by_contra started
    rw [Bool.not_eq_false] at started
    obtain ⟨still, -⟩ :=
      history_started hu (u.initialised_iff.2 (.inl started)) earlier h
    rw [unstarted] at still
    cases still
  · obtain rfl := Option.some.inj (hu.symm.trans h)
    exact unstarted

theorem Controller.settings_of_text {text : String}
    (h : (b c.settingsAccess w).answer = .ok text) : c.settings b w = Settings.parse text := by
  rw [settings, h]

theorem Controller.settings_of_unreadable {e : Fault}
    (h : (b c.settingsAccess w).answer = .error e) : (c.settings b w).enabled = true := by
  rw [settings, h]
  rfl

/-- A pass goes by the control file as it is at that moment, as if it were the first one. -/
structure Turn.GoesByFile (t : Turn c b) : Prop where
  first : t.outcome = c.pass.runOn b .fresh t.world
  /-- The control file is read once, before all else. -/
  read : ∃ rest, Program.queries t.trace = c.settingsAccess :: rest ∧ ∀ q ∈ rest, q.Elsewhere
  text : ∀ text, (b c.settingsAccess t.world).answer = .ok text →
    t.after.enabled = (Settings.parse text).enabled
  unreadable : ∀ e, (b c.settingsAccess t.world).answer = .error e → t.after.enabled = true
  /-- Nothing is left to start if the file disables the algorithm. -/
  off : t.after.enabled = false → t.after.initialised = true

/-- In a row of passes, the pass `t` at `i` has started the controller for good. On the other board
everything but the control file is alike. -/
structure StartedFor (row : List (Turn c b)) (ws : List σ) (b' : Board σ') (R : σ → σ' → Prop)
    (i : Nat) (t : Turn c b) : Prop where
  /-- It is the one that the start succeeds in. -/
  start : ∀ j u, row[j]? = some u → (u.before.initialised = false ↔ j ≤ i)
  elsewhere : ∀ j u, i < j → row[j]? = some u → ∀ q ∈ Program.queries u.trace, q.Elsewhere
  /-- With other control files, all later passes come to the same. -/
  replaced : ∀ ws', List.Forall₂ R (ws.drop (i + 1)) ws' →
    List.Forall₂ SameTurn (row.drop (i + 1)) (c.history b' t.after ws')
  off : t.after.enabled = false →
    t.result = .ok .disabled ∧ Program.queries t.trace = [c.settingsAccess] ∧
      ∀ j u, i < j → row[j]? = some u →
        u.result = .ok .disabled ∧ u.trace = [] ∧ u.after = u.before
  on : t.after.enabled = true → ∀ j u, i ≤ j → row[j]? = some u → u.result ≠ .ok .disabled

theorem Turn.goesByFile (h : (c.history b .fresh ws)[i]? = some t)
    (unstarted : t.before.initialised = false) : t.GoesByFile := by
  have flag : t.after.enabled = (c.settings b t.world).enabled :=
    t.enabled_after.trans (enabled_of_unstarted unstarted)
  refine ⟨?first, t.reads_settings unstarted, fun text read => ?text, fun e unread => ?unreadable,
    fun off => ?off⟩
  case first =>
    obtain ⟨enabled, before⟩ := Controller.history_unstarted h unstarted
    have same := pass_forgets c (s := ControlState.fresh) rfl enabled
    rw [← before] at same
    exact congrArg (fun p => Program.run b p t.world) same
  case text => rw [flag, Controller.settings_of_text read]
  case unreadable => rw [flag, Controller.settings_of_unreadable unread]
  case off => exact t.initialised_iff.2 (.inr (.inl (flag ▸ off)))

theorem startedFor (alike : Board.Agree R Query.Elsewhere b b')
    (h : (c.history b .fresh ws)[i]? = some t) (unstarted : t.before.initialised = false)
    (started : t.after.initialised = true) :
    StartedFor (c.history b .fresh ws) ws b' R i t := by
  have flag : t.after.enabled = (c.settings b t.world).enabled :=
    t.enabled_after.trans (Turn.enabled_of_unstarted unstarted)
  have later {j : Nat} {u : Turn c b} (past : i < j) (hu : (c.history b .fresh ws)[j]? = some u) :
      u.before.initialised = true ∧ u.before.enabled = t.after.enabled :=
    Controller.history_started h started past hu
  refine ⟨fun j u hu => ⟨fun early => ?start, fun early => ?early⟩,
    fun j u past hu => u.elsewhere (later past hu).1, fun ws' worlds => ?replaced,
    fun off => ⟨?disabled, ?quiet, fun j u past hu => ?idle⟩, fun on j u past hu => ?on⟩
  case start =>
    by_contra past
    rw [(later (Nat.not_le.1 past) hu).1] at early
    cases early
  case early => exact Controller.history_earlier h unstarted early hu
  case replaced =>
    rw [Controller.history_drop h]
    exact Controller.history_elsewhere alike started worlds
  case disabled => exact t.disabled_iff.2 (t.enabled_after ▸ off)
  case quiet => exact (Turn.reads_only_settings unstarted (flag ▸ off)).2
  case idle =>
    obtain ⟨before, flag⟩ := later past hu
    exact Turn.idle_of_off before (flag.trans off)
  case on =>
    rw [Ne, u.disabled_iff, Bool.not_eq_false]
    rcases Nat.lt_or_eq_of_le past with past | rfl
    · obtain ⟨before, flag⟩ := later past hu
      rw [Turn.enabled_of_started before, flag, on]
    · obtain rfl := Option.some.inj (hu.symm.trans h)
      rw [← u.enabled_after, on]

/-- **The control file counts until the start succeeds, and never after.** In every row of passes
from a fresh state, each pass that finds the controller unstarted goes by the control file of that
moment alone; and from the pass on in which the start succeeds, whatever becomes of the control file
changes nothing. -/
theorem control_file_counts_until_started (alike : Board.Agree R Query.Elsewhere b b')
    (h : (c.history b .fresh ws)[i]? = some t) (unstarted : t.before.initialised = false) :
    t.GoesByFile ∧
      (t.after.initialised = true → StartedFor (c.history b .fresh ws) ws b' R i t) :=
  ⟨Turn.goesByFile h unstarted, startedFor alike h unstarted⟩

end Row

section Trial

open Bench

/-- The same bench, but perhaps for the control file. -/
structure SameBench (w w' : World) : Prop where
  records : w.records = w'.records
  registers : w.registers = w'.registers

theorem sameBench_alike : Board.Agree SameBench Query.Elsewhere trialBoard trialBoard := by
  rintro q w w' elsewhere ⟨records, registers⟩
  cases q with
  | controlFile path => exact absurd rfl (elsewhere path)
  | register q =>
    show (MemoryRegisters.bus q w.registers).answer = (MemoryRegisters.bus q w'.registers).answer ∧
      _
    rw [registers]
    exact ⟨rfl, records, congrArg (fun m => (MemoryRegisters.bus q m).next) registers⟩
  | device q =>
    show (Records.devices q w.records).answer = (Records.devices q w'.records).answer ∧ _
    rw [records]
    exact ⟨rfl, congrArg (fun t => (Records.devices q t).next) records, registers⟩

/-- A healthy bench with a control file. -/
def governed (text : String) : World :=
  { World.patched 80 [] with
    tree := ⟨[(["thermal.conf"], .file (Runs.ofBytes (Text.encode text)) false)]⟩ }

/-- There is no control file while the watchdog cannot be armed; then it disables the algorithm, and
after that enables it again. -/
def governedRow : List World :=
  [{ World.patched 80 [] with registers := MemoryRegisters.fresh.failAt Watchdog.clearOffset },
   governed "enable=0\n", governed "enable=1\n"]

theorem governed_off : (trialBoard trialController.settingsAccess (governed "enable=0\n")).answer =
    .ok "enable=0\n" ∧ (Settings.parse "enable=0\n").enabled = false := by
  constructor
  · decide +kernel
  · decide +kernel

/-- The second pass is disabled for good, although the first one has found the algorithm enabled. -/
theorem control_file_counts_in_second :
    let row := trialController.history trialBoard .fresh governedRow
    ∃ t, row[1]? = some t ∧ t.before.initialised = false ∧ t.before.enabled = true ∧
      t.after.initialised = true ∧ t.after.enabled = false ∧ t.GoesByFile ∧
      StartedFor row governedRow trialBoard SameBench 1 t := by
  have second : (trialController.history trialBoard .fresh governedRow)[1]? =
      some ⟨governed "enable=0\n", { ControlState.fresh with enabled := true }⟩ := by rfl
  obtain ⟨byFile, startedFor⟩ := control_file_counts_until_started sameBench_alike second rfl
  have off := (byFile.text _ governed_off.1).trans governed_off.2
  exact ⟨_, second, rfl, rfl, byFile.off off, off, byFile, startedFor (byFile.off off)⟩

end Trial

end SwitchThermal
