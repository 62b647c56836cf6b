import SwitchThermal.Bench.Trial
import SwitchThermal.Proofs.Guarded
import SwitchThermal.Proofs.RegisterProtocol

/-!
# The latched shutdown is handled once

A pass that reads a latched status has nothing left to do but to set full speed, and that only until
it has succeeded.

* `Turn.StatusRead` — the status that a pass reads after it has reset the watchdog.
* `Controller.Standing` — how a pass ends that finds the shutdown latched.
* `Turn.StatusRead.parts`, `Turn.StatusRead.standing` — how a pass goes that has read the status, and
  one that has read a latched one.
* `handled_once` — along every history from a fresh state, full speed is set for a latched shutdown
  at most once, is tried again until then, and nothing is done for it afterwards.
-/

set_option autoImplicit false

namespace SwitchThermal

variable {σ : Type} {b : Board σ} {c : Controller} {w : σ} {s s' : ControlState}
  {r : Except Halt PassReport} {qs : List Query}

/-! ## The status of a pass -/

/-- The entry of an accepted reset of the watchdog. -/
def resetEntry : Entry := .asked (.register Watchdog.refreshQuery) (.ok ())

/-- The entry of a status that was read. -/
def statusEntry (status : Nat) : Entry := .asked (.register Watchdog.statusQuery) (.ok status)

namespace Turn

/-- The pass has reset the watchdog and then read this status, between these entries. -/
structure StatusRead (t : Turn c b) (earlier : List Entry) (status : Nat) (later : List Entry) :
    Prop where
  split : t.trace = earlier ++ statusEntry status :: later
  reset : resetEntry ∈ earlier

/-- The pass has reset the watchdog and then read that the shutdown has latched. -/
def SawLatch (t : Turn c b) : Prop :=
  ∃ earlier status later, t.StatusRead earlier status later ∧ Watchdog.isLatched status = true

/-- The pass reads no fan, reads no sensor after the given part of its trace has begun, keeps the
noted band and does not write the latch. -/
structure Quiet (t : Turn c b) (later : List Entry) : Prop where
  fans : ∀ f, fanAccess f ∉ Program.queries t.trace
  sensors : ∀ x, sensorAccess x ∉ Program.queries later
  band : t.after.previousBand = t.before.previousBand
  latch : ∀ q, .register q ∈ Program.queries t.trace → q.writesLatch = false

/-- The pass is the one that has set full speed for the latched shutdown. -/
def ReportsFirst (t : Turn c b) : Prop :=
  t.result = .ok (.shutdownLatched true)

end Turn

namespace Controller

/-! ## The start and the status -/

/-- A start arms the watchdog but does not reset it. -/
theorem StartAccess.ne_refresh {q : Query} (h : c.StartAccess q) :
    q ≠ .register Watchdog.refreshQuery := by
  cases h with
  | settings | sensor => nofun
  | status => decide
  | arm r hr =>
    have others : ∀ r ∈ Watchdog.armQueries,
        Query.register r ≠ .register Watchdog.refreshQuery := by decide
    exact others r hr

/-- A start leaves alone what only its pass may change. -/
theorem Starts.kept {r : Except Halt Unit} {s₁ : ControlState} (h : c.Starts b w s r s₁ qs) :
    s₁.shutdownReported = s.shutdownReported ∧ s₁.previousBand = s.previousBand := by
  cases h <;> exact ⟨rfl, rfl⟩

/-- The status is read once after a start. -/
theorem Duty.status_once (h : c.Duty b w s r qs) : qs = [] ∨
    qs = [.register Watchdog.refreshQuery] ∨
    ∃ rest, qs = dutyAccesses ++ rest ∧ .register Watchdog.statusQuery ∉ rest := by
  have elsewhere {devices : List Query} (onDevices : OnDevices devices) :
      .register Watchdog.statusQuery ∉ devices := by
    intro hmem
    obtain ⟨d, hd⟩ := onDevices _ hmem
    cases hd
  cases h with
  | disabled => exact .inl rfl
  | unrefreshed => exact .inr (.inl rfl)
  | statusUnreadable => exact .inr (.inr ⟨[], rfl, List.not_mem_nil⟩)
  | met on refreshed read onDevices => exact .inr (.inr ⟨_, rfl, elsewhere onDevices⟩)
  | latching on refreshed read unlatched onDevices =>
    refine .inr (.inr ⟨_, List.append_assoc _ _ _, fun hmem => ?_⟩)
    rcases List.mem_append.1 hmem with hmem | hmem
    · exact elsewhere onDevices hmem
    · obtain ⟨q, hq, hmem⟩ := latch_accesses hmem
      cases hmem
      revert hq
      decide

/-- The status after a reset is that of the round. -/
theorem Duty.status_read (h : c.Duty b w s r qs) {earlier later : List Entry} {status : Nat}
    (split : b.record w qs = earlier ++ statusEntry status :: later)
    (reset : resetEntry ∈ earlier) :
    (b.round c.table w).refresh = .ok () ∧ (b.round c.table w).status = .ok status ∧
      ∃ rest, qs = dutyAccesses ++ rest ∧ later = b.record (b.after w dutyAccesses) rest := by
  rcases h.status_once with rfl | rfl | ⟨rest, rfl, unread⟩
  · simp at split
  · cases earlier with
    | nil => cases reset
    | cons e earlier => simp at split
  · have entries : b.record w (dutyAccesses ++ rest) =
        .asked (.register Watchdog.refreshQuery) (b.round c.table w).refresh ::
          .asked (.register Watchdog.statusQuery) (b.round c.table w).status ::
          b.record (b.after w dutyAccesses) rest := rfl
    rw [entries] at split
    match earlier, reset with
    | [e], reset =>
      obtain ⟨first, others⟩ := List.cons.inj split
      obtain ⟨second, others⟩ := List.cons.inj others
      obtain rfl := List.mem_singleton.1 reset
      refine ⟨?_, ?_, rest, rfl, others.symm⟩
      · injection first
      · injection second
    | e :: e' :: earlier, _ =>
      obtain ⟨-, others⟩ := List.cons.inj split
      obtain ⟨-, others⟩ := List.cons.inj others
      have again : statusEntry status ∈ b.record (b.after w dutyAccesses) rest := by
        rw [others]
        exact List.mem_append_right _ List.mem_cons_self
      exact absurd (Board.made_of_recorded again) unread

/-! ## The ends with a latched shutdown -/

/-- How a pass ends that finds the shutdown latched. -/
inductive Standing (c : Controller) (b : Board σ) (w : σ) (s : ControlState) :
    Except Halt PassReport → ControlState → List Query → Prop where
  /-- Full speed has been set before. -/
  | idle (reported : s.shutdownReported = true) :
      Standing c b w s (.ok (.shutdownLatched false)) s.tickCooldown []
  | first {rest : List Query} (unreported : s.shutdownReported = false)
      (follow : ∀ q ∈ rest, FollowAccess .query c.params.full q) :
      Standing c b w s (.ok (.shutdownLatched true))
        { Actuator.settle c.params none s.tickCooldown with shutdownReported := true }
        (speedAccess .primary c.params.full :: rest)
  | refused {e : Fault} (unreported : s.shutdownReported = false)
      (refused : (b (speedAccess .primary c.params.full) (b.after w dutyAccesses)).answer =
        .error e) :
      Standing c b w s (.error (.fault e)) s.tickCooldown [speedAccess .primary c.params.full]

theorem Ends.standing_of_latched (h : c.Ends b w s r s' (dutyAccesses ++ qs))
    (latched : (b.round c.table w).Latched) : c.Standing b w s r s' qs := by
  generalize accesses : dutyAccesses ++ qs = all at h
  cases h with
  | disabled off => simp [dutyAccesses] at accesses
  | unrefreshed on refused => simp [dutyAccesses] at accesses
  | statusUnreadable on refreshed unreadable =>
    obtain ⟨-, status, read, -⟩ := latched
    rw [read] at unreadable
    cases unreadable
  | standing on latched reported =>
    obtain rfl : qs = [] := List.append_right_eq_self.1 accesses
    exact .idle reported
  | fullSpeed on latched unreported accepted follow =>
    obtain rfl := List.append_cancel_left accesses
    exact .first unreported follow
  | fullSpeedRefused on latched unreported refused =>
    obtain rfl := List.append_cancel_left accesses
    exact .refused unreported refused
  | fanUnreadable on awake => exact absurd awake latched.not_awake
  | managed on clear => exact absurd clear.toAwake latched.not_awake

end Controller

/-! ## A pass that has read the status -/

namespace Turn

/-- **A pass that has read the status** after a reset of the watchdog has started, and then ends in
one of the ways with this status in its round. -/
theorem StatusRead.parts {t : Turn c b} {earlier later : List Entry} {status : Nat}
    (h : t.StatusRead earlier status later) :
    ∃ starts rest, c.Starts b t.world t.before (.ok ()) t.ready starts ∧
      t.start.world = b.after t.world starts ∧
      c.Ends b (b.after t.world starts) t.ready t.result t.after (dutyAccesses ++ rest) ∧
      (b.round c.table (b.after t.world starts)).refresh = .ok () ∧
      (b.round c.table (b.after t.world starts)).status = .ok status ∧
      answers t.trace = b.record t.world (starts ++ (dutyAccesses ++ rest)) ∧
      Program.queries later = rest := by
  obtain ⟨starts, hstarts, world, parts⟩ := t.parts
  have entries : answers t.trace = answers earlier ++ statusEntry status :: answers later := by
    rw [h.split, answers_append]
    rfl
  have reset : resetEntry ∈ answers earlier := mem_answers.2 h.reset
  have fresh : resetEntry ∉ b.record t.world starts := fun hmem =>
    (hstarts.access _ (Board.made_of_recorded hmem)).ne_refresh rfl
  rcases parts with ⟨e, -, hpass⟩ | ⟨started, qs, hends, hpass⟩
  · have recorded : answers t.trace = b.record t.world starts := hpass.answers
    rw [← recorded, entries] at fresh
    exact absurd (List.mem_append_left _ reset) fresh
  · have recorded : answers t.trace = b.record t.world (starts ++ qs) := hpass.answers
    rw [entries, Board.record_append] at recorded
    obtain ⟨between, -, split, reset⟩ := split_after recorded reset fresh
    obtain ⟨refreshed, read, rest, rfl, hlater⟩ := hends.duty.status_read split reset
    rw [started] at hstarts
    refine ⟨starts, rest, hstarts, world, hends, refreshed, read, hpass.answers, ?_⟩
    rw [← queries_answers, hlater, Program.queries_record]

/-- A pass that has read a latched status stands by the latch. -/
theorem StatusRead.standing {t : Turn c b} {earlier later : List Entry} {status : Nat}
    (h : t.StatusRead earlier status later) (latched : Watchdog.isLatched status = true) :
    ∃ starts rest, c.Starts b t.world t.before (.ok ()) t.ready starts ∧
      c.Standing b (b.after t.world starts) t.ready t.result t.after rest ∧
      answers t.trace = b.record t.world (starts ++ (dutyAccesses ++ rest)) ∧
      Program.queries later = rest := by
  obtain ⟨starts, rest, hstarts, -, hends, refreshed, read, recorded, hlater⟩ := h.parts
  have standing := hends.standing_of_latched ⟨refreshed, status, read, latched⟩
  exact ⟨starts, rest, hstarts, standing, recorded, hlater⟩

/-- Before full speed has been set for it, a latched shutdown leaves a pass two ways to end. -/
theorem SawLatch.refused_or_first {t : Turn c b} (h : t.SawLatch)
    (unreported : t.before.shutdownReported = false) :
    t.ReportsFirst ∨ ∃ e, .asked (speedAccess .primary c.params.full) (.error e) ∈ t.trace ∧
      t.result = .error (.fault e) := by
  obtain ⟨earlier, status, later, read, latched⟩ := h
  obtain ⟨starts, rest, hstarts, hstanding, entries, -⟩ := read.standing latched
  unfold ReportsFirst
  generalize t.result = r, t.after = s' at hstanding ⊢
  cases hstanding with
  | idle reported =>
    rw [hstarts.kept.1, unreported] at reported
    cases reported
  | first unreported follow => exact .inl rfl
  | @refused e unreported refused =>
    refine .inr ⟨e, mem_answers.1 ?_, rfl⟩
    rw [entries, Board.record_append, Board.record_append, Board.record_cons, refused]
    exact List.mem_append_right _ (List.mem_append_right _ List.mem_cons_self)

/-- Afterwards a started controller only looks after the watchdog. -/
theorem SawLatch.idle {t : Turn c b} (h : t.SawLatch)
    (reported : t.before.shutdownReported = true) (started : t.before.initialised = true) :
    t.result = .ok (.shutdownLatched false) ∧ Program.queries t.trace = dutyAccesses ∧
      t.after = t.before.tickCooldown := by
  obtain ⟨earlier, status, later, read, latched⟩ := h
  obtain ⟨starts, rest, hstarts, hstanding, entries, -⟩ := read.standing latched
  have accesses : Program.queries t.trace = starts ++ (dutyAccesses ++ rest) := by
    rw [← queries_answers, entries, Program.queries_record]
  obtain ⟨-, ready, rfl⟩ := hstarts.of_initialised started
  rw [ready] at hstanding
  generalize t.result = r, t.after = s' at hstanding ⊢
  cases hstanding with
  | idle => exact ⟨rfl, accesses, rfl⟩
  | first unreported | refused unreported =>
    rw [reported] at unreported
    cases unreported

/-- A pass that has read a latched status surveys and sweeps nothing. -/
theorem StatusRead.quiet {t : Turn c b} {earlier later : List Entry} {status : Nat}
    (h : t.StatusRead earlier status later) (latched : Watchdog.isLatched status = true) :
    t.Quiet later := by
  obtain ⟨starts, rest, hstarts, hstanding, entries, hlater⟩ := h.standing latched
  have last : ∀ q ∈ rest, q = speedAccess .primary c.params.full ∨
      FollowAccess .query c.params.full q := by
    intro q hq
    generalize t.result = r, t.after = s' at hstanding
    cases hstanding with
    | idle => cases hq
    | first unreported follow => exact (List.mem_cons.1 hq).imp_right (follow q)
    | refused => exact .inl (List.mem_singleton.1 hq)
  have made : ∀ q ∈ Program.queries t.trace, c.StartAccess q ∨ q ∈ dutyAccesses ∨
      q = speedAccess .primary c.params.full ∨ FollowAccess .query c.params.full q := by
    intro q hq
    rw [← queries_answers, entries, Program.queries_record] at hq
    rcases List.mem_append.1 hq with hq | hq
    · exact .inl (hstarts.access q hq)
    · exact .inr ((List.mem_append.1 hq).imp_right (last q))
  refine ⟨fun f hf => ?fans, fun x hx => ?sensors, ?band, fun q hq => ?latch⟩
  case fans =>
    rcases made _ hf with start | duty | speed | follow
    · cases start
    · simp [dutyAccesses] at duty
    · cases speed
    · cases follow
  case sensors =>
    rw [hlater] at hx
    rcases last _ hx with speed | follow
    · cases speed
    · cases follow
  case band =>
    rw [← hstarts.kept.2]
    generalize t.after = s', t.result = r at hstanding ⊢
    cases hstanding <;> rfl
  case latch =>
    rcases made _ hq with start | duty | speed | follow
    · cases start with
      | status => rfl
      | arm q hq =>
        have arm : ∀ q ∈ Watchdog.armQueries, q.writesLatch = false := by decide
        exact arm q hq
    · exact (sample_of_duty duty).not_latch
    · cases speed
    · cases follow

end Turn

/-! ## Along a history -/

/-- Only setting full speed for a latched shutdown marks it as reported. -/
theorem Controller.Ends.reported_iff (h : c.Ends b w s r s' qs) :
    s'.shutdownReported = true ↔
      s.shutdownReported = true ∨ r = .ok (.shutdownLatched true) := by
  cases h with
  | fullSpeed => exact iff_of_true rfl (.inr rfl)
  | disabled | unrefreshed | statusUnreadable | standing | fullSpeedRefused | fanUnreadable =>
    exact (or_iff_left nofun).symm
  | managed on clear rest =>
    cases rest with
    | tripped => exact (or_iff_left fun h => by cases trip_eq_ok h).symm
    | overflow | kept | applied | refused => exact (or_iff_left nofun).symm

theorem Controller.Course.reported_iff (h : c.Course b w s r s' qs) :
    s'.shutdownReported = true ↔
      s.shutdownReported = true ∨ r = .ok (.shutdownLatched true) := by
  cases h with
  | vain start =>
    rw [start.kept.1]
    exact (or_iff_left nofun).symm
  | done start ends => rw [ends.reported_iff, start.kept.1]

/-- It is set for a shutdown that has latched and has not been reported. -/
theorem Controller.Ends.of_first (h : c.Ends b w s (.ok (.shutdownLatched true)) s' qs) :
    s.enabled = true ∧ (b.round c.table w).Latched ∧ s.shutdownReported = false := by
  generalize hr : (.ok (.shutdownLatched true) : Except Halt PassReport) = r at h
  cases h with
  | fullSpeed on latched unreported => exact ⟨on, latched, unreported⟩
  | disabled | unrefreshed | statusUnreadable | standing | fullSpeedRefused | fanUnreadable =>
    cases hr
  | managed on clear rest =>
    cases rest with
    | tripped => cases trip_eq_ok hr.symm
    | overflow | kept | applied | refused => cases hr

namespace Turn

theorem reported_iff (t : Turn c b) :
    t.after.shutdownReported = true ↔ t.before.shutdownReported = true ∨ t.ReportsFirst := by
  obtain ⟨qs, hcourse, -⟩ := t.course
  exact hcourse.reported_iff

theorem ReportsFirst.flags {t : Turn c b} (h : t.ReportsFirst) :
    t.before.shutdownReported = false ∧ t.after.initialised = true := by
  obtain ⟨qs, hcourse, -⟩ := t.course
  rw [show t.result = _ from h] at hcourse
  generalize t.after = s' at hcourse ⊢
  cases hcourse with
  | done start ends =>
    rw [← start.kept.1]
    exact ⟨ends.of_first.2.2, ends.initialised.trans start.flags.1⟩

end Turn

section History

variable {ws : List σ} {i j : Nat} {t u : Turn c b}

/-- Once full speed has been set for a latched shutdown, this stays known. -/
theorem Controller.reported_after (hi : (c.history b .fresh ws)[i]? = some t)
    (first : t.ReportsFirst) (later : i < j) (hj : (c.history b .fresh ws)[j]? = some u) :
    u.before.shutdownReported = true ∧ u.before.initialised = true := by
  refine Controller.history_induction_after hi
    (P := fun _ s => s.shutdownReported = true ∧ s.initialised = true) ?start ?step later hj
  case start => exact ⟨t.reported_iff.2 (.inr first), first.flags.2⟩
  case step =>
    intro k v _ _ before
    exact ⟨v.reported_iff.2 (.inl before.1), v.initialised_iff.2 (.inl before.2)⟩

/-- As long as it has not been set, this is known too. -/
theorem Controller.unreported_until (hj : (c.history b .fresh ws)[j]? = some t)
    (none : ∀ (i : Nat) (u : Turn c b), i < j → (c.history b .fresh ws)[i]? = some u →
      ¬ u.ReportsFirst) : t.before.shutdownReported = false := by
  -- the induction is over the passes up to `j`, so the condition goes along with the state
  refine Controller.history_induction
    (P := fun k s => (∀ (i : Nat) (u : Turn c b), i < k → (c.history b .fresh ws)[i]? = some u →
      ¬ u.ReportsFirst) → s.shutdownReported = false)
    (fun _ => rfl) (fun k u hk before none => ?step) hj none
  case step =>
    have kept := before fun i v earlier => none i v (Nat.lt_succ_of_lt earlier)
    rw [Bool.eq_false_iff, Ne, u.reported_iff, not_or, kept]
    exact ⟨nofun, none k u k.lt_succ_self hk⟩

/-- Full speed is not set a second time. -/
theorem Turn.ReportsFirst.not_again (first : t.ReportsFirst)
    (hi : (c.history b .fresh ws)[i]? = some t) (later : i < j)
    (hj : (c.history b .fresh ws)[j]? = some u) : ¬ u.ReportsFirst := by
  intro again
  have known := (Controller.reported_after hi first later hj).1
  rw [again.flags.1] at known
  cases known

end History

/-- The latched shutdown is handled once in a row of passes. -/
structure HandledOnce (ts : List (Turn c b)) : Prop where
  /-- Full speed is set for it at most once. -/
  once : ∀ (i j : Nat) (t u : Turn c b), ts[i]? = some t → ts[j]? = some u →
    t.ReportsFirst → u.ReportsFirst → i = j
  /-- Until then, each pass that finds it latched has been refused full speed, and ends with the
  fault. -/
  retried : ∀ (j : Nat) (t : Turn c b), ts[j]? = some t → t.SawLatch →
    (∀ (i : Nat) (u : Turn c b), i ≤ j → ts[i]? = some u → ¬ u.ReportsFirst) →
    ∃ e, .asked (speedAccess .primary c.params.full) (.error e) ∈ t.trace ∧
      t.result = .error (.fault e)
  /-- After that, a pass that finds it latched accesses nothing but the watchdog and the status, and
  hands on the control state with one tick less to wait. -/
  idle : ∀ (i j : Nat) (t u : Turn c b), i < j → ts[i]? = some t → t.ReportsFirst →
    ts[j]? = some u → u.SawLatch → u.result = .ok (.shutdownLatched false) ∧
      Program.queries u.trace = dutyAccesses ∧ u.after = u.before.tickCooldown
  /-- A pass that finds it latched reads no fan, classifies no temperature, keeps the noted band and
  does not write the latch. -/
  quiet : ∀ (t : Turn c b) (earlier : List Entry) (status : Nat) (later : List Entry), t ∈ ts →
    t.StatusRead earlier status later → Watchdog.isLatched status = true → t.Quiet later

/-- **The latched shutdown is handled once** along every history from a fresh state, whatever the
board answers. -/
theorem handled_once (c : Controller) (b : Board σ) (ws : List σ) :
    HandledOnce (c.history b .fresh ws) := by
  refine ⟨?once, ?retried, ?idle, ?quiet⟩
  case once =>
    intro i j t u hi hj first again
    rcases Nat.lt_trichotomy i j with earlier | same | later
    · exact absurd again (first.not_again hi earlier hj)
    · exact same
    · exact absurd first (again.not_again hj later hi)
  case retried =>
    intro j t hj latched none
    have unreported := Controller.unreported_until hj
      fun i u earlier => none i u (Nat.le_of_lt earlier)
    exact (latched.refused_or_first unreported).resolve_left (none j t j.le_refl hj)
  case idle =>
    intro i j t u earlier hi first hj latched
    obtain ⟨known, started⟩ := Controller.reported_after hi first earlier hj
    exact latched.idle known started
  case quiet =>
    intro t earlier status later _ read latched
    exact read.quiet latched

section Trial

open Bench

/-- A cool bench whose shutdown has latched, with some faults of its fans. -/
def latchedWorld (edits : List Edit) : World :=
  { World.patched 80 edits with registers := MemoryRegisters.fresh.set 0x2500 0x2e 0xfb }

/-- Full speed is refused in the first pass, set in the second and left alone in the third. -/
example :
    (trialController.history trialBoard .fresh
      [latchedWorld [.fanFault .primary (some (.internal "stalled"))], latchedWorld [],
        latchedWorld []]).map Turn.result =
      [.error (.fault (.internal "stalled")), .ok (.shutdownLatched true),
        .ok (.shutdownLatched false)] := rfl

end Trial

end SwitchThermal
