import SwitchThermal.Proofs.AllFans
import SwitchThermal.Proofs.Baseline
import SwitchThermal.Proofs.FanSettings

/-!
# Which fans of the supplies are slowed down

A pass that goes by samples compares before it sets the fan of a supply, so it only ever raises it.
Full speed for a latched shutdown is set without comparing: a fan that runs faster than that is
slowed down, once.

* `Controller.yields_applied` — the accesses of a pass that sets a speed, in full.
* `fanSpeed` — what the settings in a trace leave of the speed of one fan.
* `Board.followers_around` — the turn of one supply, and what is around it.
* `FollowsSettings` — a fan that reports what it was last set to, along a row of passes.
* `Turn.raised` — a pass does not slow such a fan down, unless it reports the latched shutdown.
* `supply_fans_slowed_iff` — when a command asks a fan for less than it reports, and when a pass slows
  it down.
-/

set_option autoImplicit false

namespace SwitchThermal

variable {σ : Type} {b : Board σ} {c : Controller} {w : σ} {s s' : ControlState}
  {r : Except Halt PassReport} {qs : List Query} {p : PowerSupply} {f : Fan} {v : Nat}

/-! ## The accesses of a pass that sets a speed -/

namespace Controller

/-- **The accesses of a pass that sets a speed**: it samples, sets the chassis speed, and then takes
the supplies in turn. -/
theorem yields_applied {percentage : Nat} (on : s.enabled = true)
    (clear : (b.round c.table w).Clear)
    (calm : ∀ e ∈ (b.round c.table w).sensors, trips e = false)
    (change : c.command (b.round c.table w) s = .ok (some percentage))
    (accepted : (b (speedAccess .primary percentage) (b.after w c.roundAccesses)).answer = .ok ()) :
    Pass.Yields b w s c.proceed (.ok ((b.round c.table w).report c.table (some percentage)))
      (Actuator.settle c.params (some ((b.round c.table w).sweep c.table).samples)
        ((b.round c.table w).noted c.table s))
      (c.roundAccesses ++ speedAccess .primary percentage ::
        b.followers (b.afterPrimary (b.after w c.roundAccesses) percentage)
          (.sampled (b.round c.table w).supplyRecords) percentage) := by
  obtain ⟨refreshed, status, read, unlatched⟩ := clear.toAwake
  obtain ⟨fans, supplies, hspeed, hfans, hsupplies, hrecords, surveys⟩ :=
    yields_surveys clear s c.respond
  have command : c.chosen (fans.problem || supplies.problem) fans.current
      ((b.round c.table w).sweep c.table) ((b.round c.table w).noted c.table s) =
      .ok (some percentage) := by
    rw [hspeed, hfans, hsupplies]
    exact change
  have chosen := yields_choose (c := c) (b := b) (w := b.after w c.roundAccesses)
    (s := (b.round c.table w).noted c.table s) (fans.problem || supplies.problem) fans.current
    ((b.round c.table w).sweep c.table)
  rw [command] at chosen
  have report : (b.round c.table w).report c.table (some percentage) =
      .managed ((b.round c.table w).sweep c.table).severity.band
        ((b.round c.table w).sweep c.table).severity.worst fans.problem supplies.problem
        (some percentage) := by
    rw [hfans, hsupplies]
    rfl
  have set := yields_setFans_followers c.params (.sampled supplies.records)
    (some ((b.round c.table w).sweep c.table).samples) ((b.round c.table w).noted c.table s) accepted
  have concluded : Pass.Yields b (b.after w c.roundAccesses) ((b.round c.table w).surveyed s)
      (c.conclude fans supplies ((b.round c.table w).sweep c.table))
      (.ok ((b.round c.table w).report c.table (some percentage)))
      (Actuator.settle c.params (some ((b.round c.table w).sweep c.table).samples)
        ((b.round c.table w).noted c.table s))
      (speedAccess .primary percentage ::
        b.followers (b.afterPrimary (b.after w c.roundAccesses) percentage)
          (.sampled (b.round c.table w).supplyRecords) percentage) := by
    rw [report, ← hrecords]
    exact (yields_noteBand _).bind (chosen.bind (set.bind_quiet (.pure _)))
  rw [roundAccesses, Board.after_append] at concluded ⊢
  have managed := surveys ((yields_sweepOver calm).bind concluded)
  have proceeded := yields_proceed (c := c) on refreshed read (by rw [unlatched]; exact managed)
  rw [List.append_assoc, List.append_assoc]
  exact proceeded

end Controller

/-- What a pass has accessed that sets a speed on account of what it has sampled. -/
theorem Turn.applied_accesses (t : Turn c b) {band : Band} {worst : Option Worst}
    {fans supplies : Bool} {percentage : Nat}
    (h : t.result = .ok (.managed band worst fans supplies (some percentage))) :
    ∃ before records, (∀ f v, speedAccess f v ∉ before) ∧
      answers t.trace = b.record t.world (before ++ speedAccess .primary percentage ::
        b.followers (b.afterPrimary (b.after t.world before) percentage) (.sampled records)
          percentage) := by
  obtain ⟨r₁, s₁, starts, hstarts, hstart, ⟨e, rfl, hpass⟩ | ⟨rfl, r, s', qs, hends, hpass⟩⟩ :=
    Controller.pass_parts c b t.world t.before
  · cases h.symm.trans (show t.result = .error e from hpass.result)
  · rw [← show t.result = r from hpass.result, h] at hends
    generalize hr : (.ok (.managed band worst fans supplies (some percentage)) :
      Except Halt PassReport) = r at hends
    cases hends with
    | disabled | unrefreshed | statusUnreadable | standing | fullSpeed | fullSpeedRefused
    | fanUnreadable => cases hr
    | managed on clear rest =>
      cases rest with
      | tripped => cases Controller.trip_eq_ok hr.symm
      | overflow | kept | refused => cases hr
      | applied calm change accepted follow =>
        obtain rfl := Option.some.inj (PassReport.managed.inj (Except.ok.inj hr)).2.2.2.2
        have whole : Pass.Yields b t.world t.before c.pass _ _ _ :=
          hstart.bind (Controller.yields_applied on clear calm change accepted)
        refine ⟨starts ++ c.roundAccesses, (b.round c.table (b.after t.world starts)).supplyRecords,
          fun f v hmem => ?_, ?_⟩
        · rcases List.mem_append.1 hmem with hmem | hmem
          · cases hstarts.access _ hmem
          · cases Controller.sample_of_round hmem
        · rw [List.append_assoc, Board.after_append]
          exact whole.answers

/-! ## The speed of one fan -/

/-- The speed of a fan after a setting. A refused one and one of another fan leave it as it is. -/
def FanSetting.leaves (f : Fan) (v : Nat) (x : FanSetting) : Nat :=
  match x.answer with
  | .ok () => if x.fan = f then x.percentage else v
  | .error _ => v

/-- The speed that the settings of a trace leave a fan. -/
def fanSpeed (f : Fan) (v : Nat) (t : List Entry) : Nat :=
  (fanSettings t).foldl (FanSetting.leaves f) v

theorem fanSpeed_append (f : Fan) (v : Nat) (t u : List Entry) :
    fanSpeed f v (t ++ u) = fanSpeed f (fanSpeed f v t) u := by
  rw [fanSpeed, fanSettings_append, List.foldl_append]
  rfl

theorem fanSpeed_answers (f : Fan) (v : Nat) (t : List Entry) :
    fanSpeed f v (answers t) = fanSpeed f v t := by
  rw [fanSpeed, fanSettings_answers]
  rfl

/-- Settings of the fan at one speed leave that speed, if one of them is accepted. -/
theorem foldl_leaves {settings : List FanSetting} {u : Nat}
    (same : ∀ x ∈ settings, x.fan = f → x.percentage = u) (v : Nat) :
    (⟨f, u, .ok ()⟩ ∈ settings ∧ settings.foldl (FanSetting.leaves f) v = u) ∨
      ⟨f, u, .ok ()⟩ ∉ settings ∧ settings.foldl (FanSetting.leaves f) v = v := by
  induction settings generalizing v with
  | nil => exact .inr ⟨List.not_mem_nil, rfl⟩
  | cons x settings ih =>
    obtain ⟨here, later⟩ := List.forall_mem_cons.1 same
    rw [List.foldl_cons]
    by_cases hit : x = ⟨f, u, .ok ()⟩
    · have left : FanSetting.leaves f v x = u := by
        rw [hit]
        exact if_pos rfl
      rw [left]
      refine .inl ⟨hit ▸ List.mem_cons_self, ?_⟩
      exact (ih later u).elim And.right And.right
    · have left : FanSetting.leaves f v x = v := by
        obtain ⟨g, n, a⟩ := x
        cases a with
        | error e => rfl
        | ok a =>
          refine if_neg fun fan => hit ?_
          obtain rfl : g = f := fan
          obtain rfl : n = u := here rfl
          rfl
      rw [left]
      refine (ih later v).imp (And.imp_left (List.mem_cons_of_mem _)) (And.imp_left ?_)
      intro none hmem
      exact (List.mem_cons.1 hmem).elim (fun eq => hit eq.symm) none

/-- Accesses that set another fan at most. -/
theorem fanSpeed_aside (aside : ∀ u, speedAccess f u ∉ qs) (v : Nat) :
    fanSpeed f v (b.record w qs) = v := by
  have others : ∀ x ∈ fanSettings (b.record w qs), x.fan = f → x.percentage = v := by
    rintro ⟨g, u, a⟩ hmem rfl
    exact absurd (Board.made_of_recorded (mem_fanSettings.1 hmem)) (aside u)
  exact (foldl_leaves others v).elim And.right And.right

/-! ## The turn of one supply -/

/-- **What is around the turn of a supply** does not set its fan. -/
theorem Board.followers_around (b : Board σ) (w : σ) (view : SupplyView) (percentage : Nat)
    (p : PowerSupply) : ∃ before after,
      b.followers w view percentage =
        before ++ (view.follow percentage p (b.turnAnswers w view percentage p) ++ after) ∧
      b.turn w view percentage p = b.after w before ∧
      (∀ u, speedAccess (.supply p) u ∉ before) ∧ ∀ u, speedAccess (.supply p) u ∉ after := by
  have aside : ∀ q a, q ≠ p → ∀ u, speedAccess (.supply p) u ∉ view.follow percentage q a :=
    fun q a other u hmem =>
      other ((view.follow_concerns percentage q a _ hmem).eq (.set u))
  have both : b.followers w view percentage =
      view.follow percentage .first (b.turnAnswers w view percentage .first) ++
        (view.follow percentage .second (b.turnAnswers w view percentage .second) ++ []) := rfl
  cases p with
  | first =>
    refine ⟨[], _, both, rfl, fun u => List.not_mem_nil, ?_⟩
    rw [List.append_nil]
    exact aside .second _ nofun
  | second => exact ⟨_, [], both, rfl, aside .first _ nofun, fun u => List.not_mem_nil⟩

/-- In its turn the fan of a sampled supply is not slowed down, if it reports its speed. -/
theorem fanSpeed_follow {records : List SupplyReading} {percentage : Nat}
    (reports : ∀ rest reading, (SupplyView.sampled records).follow percentage p
        (b.supplyAnswers w p) = fanAccess (.supply p) :: rest →
      (b (fanAccess (.supply p)) w).answer = .ok reading → reading.percentage = v) :
    v ≤ fanSpeed (.supply p) v (b.record w
      ((SupplyView.sampled records).follow percentage p (b.supplyAnswers w p))) := by
  cases raises : (SupplyView.sampled records).raises percentage p (b.supplyAnswers w p) with
  | false =>
    have unset : ∀ u, speedAccess (.supply p) u ∉
        (SupplyView.sampled records).follow percentage p (b.supplyAnswers w p) := by
      intro u hmem
      simp [SupplyView.follow, SupplyView.asks, raises] at hmem
    exact Nat.le_of_eq (fanSpeed_aside unset v).symm
  | true =>
    obtain ⟨listed, faster⟩ := Bool.and_eq_true_iff.1 raises
    have turn : (SupplyView.sampled records).follow percentage p (b.supplyAnswers w p) =
        [fanAccess (.supply p), speedAccess (.supply p) percentage] := by
      rw [SupplyView.follow_listed listed, if_pos faster]
    rw [turn]
    cases SupplyView.raises_iff.1 raises with
    | sampled first present plugged readable slower =>
      rw [reports _ _ turn readable] at slower
      have same : ∀ x ∈ fanSettings (b.record w [fanAccess (.supply p),
          speedAccess (.supply p) percentage]), x.fan = .supply p → x.percentage = percentage := by
        intro x hx _
        rw [List.mem_singleton.1 hx]
      rcases foldl_leaves same v with ⟨-, left⟩ | ⟨-, left⟩
      · exact Nat.le_trans (Nat.le_of_lt slower) (Nat.le_of_eq left.symm)
      · exact Nat.le_of_eq left.symm

/-! ## One pass -/

/-- A report that tells of a new speed. -/
theorem changes_cases {report : PassReport} (h : report.changesSpeed = true) :
    SpeedSet (.ok report) ∨ report = .shutdownLatched true := by
  cases report with
  | disabled | shutdownTriggered => cases h
  | shutdownLatched first =>
    obtain rfl : first = true := h
    exact .inr rfl
  | managed band worst fans supplies applied =>
    obtain ⟨percentage, rfl⟩ := Option.isSome_iff_exists.1 h
    exact .inl ⟨_, _, _, _, _, rfl⟩

namespace Turn

variable {t : Turn c b}

/-- Whenever the pass reads the fan, it shows what the settings so far have left of its speed. -/
def Reads (t : Turn c b) (f : Fan) (v : Nat) : Prop :=
  ∀ earlier reading later, t.trace = earlier ++ .asked (fanAccess f) (.ok reading) :: later →
    reading.percentage = fanSpeed f v earlier

/-- A pass that goes by samples does not slow down the fan of a supply. -/
theorem raised_of_applied {band : Band} {worst : Option Worst} {fans supplies : Bool}
    {percentage : Nat}
    (h : t.result = .ok (.managed band worst fans supplies (some percentage)))
    (reads : t.Reads (.supply p) v) : v ≤ fanSpeed (.supply p) v t.trace := by
  obtain ⟨before, records, unset, entries⟩ := t.applied_accesses h
  obtain ⟨earlier, later, around, world, asideBefore, asideAfter⟩ :=
    b.followers_around (b.afterPrimary (b.after t.world before) percentage) (.sampled records)
      percentage p
  -- the pass in three parts: up to the turn of the supply, its turn, and the rest
  let lead := before ++ speedAccess .primary percentage :: earlier
  let turn := (SupplyView.sampled records).follow percentage p
    (b.supplyAnswers (b.after t.world lead) p)
  have reached : b.turn (b.afterPrimary (b.after t.world before) percentage) (.sampled records)
      percentage p = b.after t.world lead := by
    rw [world, Board.after_append, Board.after_cons]
  have parts : answers t.trace = b.record t.world lead ++ (b.record (b.after t.world lead) turn ++
      b.record (b.after (b.after t.world lead) turn) later) := by
    rw [entries, around, Board.turnAnswers, reached, ← Board.record_append, ← Board.record_append,
      List.append_assoc, List.cons_append]
  have asideLead : ∀ u, speedAccess (.supply p) u ∉ lead := by
    intro u hmem
    rcases List.mem_append.1 hmem with hmem | hmem
    · exact unset _ u hmem
    · rcases List.mem_cons.1 hmem with primary | hmem
      · cases primary
      · exact asideBefore u hmem
  have start : fanSpeed (.supply p) v (b.record t.world lead) = v := fanSpeed_aside asideLead v
  have followed : v ≤ fanSpeed (.supply p) v (b.record (b.after t.world lead) turn) := by
    refine fanSpeed_follow fun rest reading first readable => ?_
    obtain ⟨others, shown⟩ : ∃ others, answers t.trace = b.record t.world lead ++
        .asked (fanAccess (.supply p)) (.ok reading) :: others := by
      rw [parts, show turn = fanAccess (.supply p) :: rest from first, Board.record_cons, readable]
      exact ⟨_, rfl⟩
    obtain ⟨before, after, split, hbefore, -⟩ := split_of_answers shown
    rw [reads before reading after split, ← fanSpeed_answers, hbefore, start]
  rw [← fanSpeed_answers, parts, fanSpeed_append, fanSpeed_append, start, fanSpeed_aside asideAfter]
  exact followed

/-- **A pass does not slow down the fan of a supply** that reports its speed, unless it reports the
latched shutdown for the first time. -/
theorem raised (later : ¬ t.ReportsFirst) (reads : t.Reads (.supply p) v) :
    v ≤ fanSpeed (.supply p) v t.trace := by
  by_cases set : SpeedSet t.result
  · obtain ⟨band, worst, fans, supplies, percentage, result⟩ := set
    exact raised_of_applied result reads
  · obtain ⟨demand, command, -, changes⟩ := t.fanCommand
    have untouched : ∀ x ∈ fanSettings t.trace, x.fan = .supply p → x.percentage = v := by
      unfold ReportsFirst at later
      generalize t.result = r, fanSettings t.trace = settings at command set later ⊢
      cases command with
      | idle => exact List.forall_mem_nil _
      | refused => exact List.forall_mem_singleton.2 nofun
      | @accepted d =>
        rcases changes_cases (changes d rfl) with managed | first
        · exact absurd managed set
        · exact absurd (congrArg Except.ok first) later
    exact Nat.le_of_eq ((foldl_leaves untouched v).elim And.right And.right).symm

/-- The settings of the pass that reports the latched shutdown are all to full speed. -/
theorem ReportsFirst.settings (h : t.ReportsFirst) :
    ∀ x ∈ fanSettings t.trace, x.percentage = c.params.full := by
  obtain ⟨started, d, hd, full⟩ := demand_of_first h
  obtain ⟨demand, command, demanded, -⟩ := t.fanCommand
  rw [demanded started, hd] at command
  unfold ReportsFirst at h
  generalize t.result = r, fanSettings t.trace = settings at command h ⊢
  cases command with
  | refused => cases h
  | accepted follow =>
    exact List.forall_mem_cons.2 ⟨full, fun x hx => (follow x hx).2.trans full⟩

/-- **When a pass slows down the fan of a supply** that reports its speed. -/
theorem slowed_iff (reads : t.Reads (.supply p) v) :
    fanSpeed (.supply p) v t.trace < v ↔
      t.ReportsFirst ∧ ⟨.supply p, c.params.full, .ok ()⟩ ∈ fanSettings t.trace ∧
        c.params.full < v := by
  by_cases first : t.ReportsFirst
  · rcases foldl_leaves (fun x hx _ => first.settings x hx) v with ⟨hmem, left⟩ | ⟨none, left⟩
    · rw [fanSpeed, left]
      exact ⟨fun slower => ⟨first, hmem, slower⟩, fun h => h.2.2⟩
    · rw [fanSpeed, left]
      exact ⟨fun slower => absurd slower (Nat.lt_irrefl v), fun h => absurd h.2.1 none⟩
  · have faster := raised first reads
    exact ⟨fun slower => absurd slower (Nat.not_lt.2 faster), fun h => absurd h.1 first⟩

end Turn

/-! ## A row of passes -/

/-- A fan that follows what it is set to: at the start of every pass, and whenever a pass reads it,
it reports what it was last set to. -/
structure FollowsSettings (f : Fan) (v : Nat) (ts : List (Turn c b)) : Prop where
  found : ∀ (k : Nat) (t : Turn c b) (reading : FanReading), ts[k]? = some t →
    (b (fanAccess f) t.world).answer = .ok reading →
    reading.percentage = fanSpeed f v (traces (ts.take k))
  read : ∀ (earlier : List Entry) (reading : FanReading) (later : List Entry),
    traces ts = earlier ++ .asked (fanAccess f) (.ok reading) :: later →
    reading.percentage = fanSpeed f v earlier

theorem traces_append (ts us : List (Turn c b)) : traces (ts ++ us) = traces ts ++ traces us :=
  List.flatMap_append

/-- The traces of a row, around one of the passes. -/
theorem traces_around {ts : List (Turn c b)} {k : Nat} {t : Turn c b} (h : ts[k]? = some t) :
    traces (ts.take (k + 1)) = traces (ts.take k) ++ t.trace ∧
      traces ts = traces (ts.take k) ++ (t.trace ++ traces (ts.drop (k + 1))) := by
  have upTo : traces (ts.take (k + 1)) = traces (ts.take k) ++ t.trace := by
    rw [List.take_add_one, h, traces_append]
    simp [traces]
  refine ⟨upTo, ?_⟩
  rw [← List.append_assoc, ← upTo, ← traces_append, List.take_append_drop]

/-- The fan is slower after a pass than before it. -/
def SlowedIn (f : Fan) (v : Nat) (ts : List (Turn c b)) (k : Nat) : Prop :=
  fanSpeed f v (traces (ts.take (k + 1))) < fanSpeed f v (traces (ts.take k))

theorem SlowedIn.pass {ts : List (Turn c b)} {k : Nat} (h : SlowedIn f v ts k) :
    ∃ t, ts[k]? = some t := by
  cases hk : ts[k]? with
  | some t => exact ⟨t, rfl⟩
  | none =>
    have same : ts.take (k + 1) = ts.take k := by
      rw [List.take_add_one, hk]
      exact List.append_nil _
    rw [SlowedIn, same] at h
    exact absurd h (Nat.lt_irrefl _)

/-- Each pass of the row reads what the ones before it have left. -/
theorem FollowsSettings.reads {ts : List (Turn c b)} (h : FollowsSettings f v ts) {k : Nat}
    {t : Turn c b} (hk : ts[k]? = some t) : t.Reads f (fanSpeed f v (traces (ts.take k))) := by
  intro earlier reading later split
  rw [← fanSpeed_append]
  refine h.read _ reading (later ++ traces (ts.drop (k + 1))) ?_
  rw [(traces_around hk).2, split, List.append_assoc, List.append_assoc, List.cons_append]

/-! ## The command -/

/-- What a command asks of the fan of a supply. -/
theorem asked_iff {params : Params} {percentage : Nat} {view : SupplyView}
    {samples : Option Readings} :
    speedAccess (.supply p) v ∈ Program.queries
        ((Actuator.setFans params percentage view samples).runOn b s w).trace ↔
      (b (speedAccess .primary percentage) w).answer = .ok () ∧ v = percentage ∧
        view.Raises percentage p
          (b.turnAnswers (b.afterPrimary w percentage) view percentage p) := by
  cases ha : (b (speedAccess .primary percentage) w).answer with
  | error e =>
    rw [(yields_setFans_refused ha).trace, List.mem_singleton]
    exact iff_of_false nofun (fun h => nomatch h.1)
  | ok u =>
    have among (qs : List Query) :
        speedAccess (.supply p) v ∈ qs ↔ (Fan.supply p, v) ∈ settingsAmong qs := by
      rw [settingsAmong, List.mem_filterMap]
      constructor
      · exact fun h => ⟨_, h, rfl⟩
      · rintro ⟨q, hq, setting⟩
        unfold Query.setting? at setting
        split at setting
        · cases setting
          exact hq
        · cases setting
    rw [(yields_setFans_followers params view samples s ha).trace, List.mem_cons, among,
      settingsAmong_followers, List.mem_map, or_iff_right nofun, ← SupplyView.raises_iff]
    constructor
    · rintro ⟨q, hq, same⟩
      cases same
      exact ⟨rfl, rfl, (List.mem_filter.1 hq).2⟩
    · rintro ⟨-, rfl, raises⟩
      exact ⟨p, List.mem_filter.2 ⟨by cases p <;> decide, raises⟩, rfl⟩

/-- When the fan of a supply is asked for less than it reports, and when it is slowed down. -/
structure SupplyFansSlowed (c : Controller) (b : Board σ) : Prop where
  /-- A command asks a fan for less than it reports in its turn when the fan reports more than the
  speed, and the supply has not been sampled but says that it is operational. -/
  asked : ∀ (w : σ) (s : ControlState) (params : Params) (percentage : Nat) (view : SupplyView)
      (samples : Option Readings) (p : PowerSupply) (reading : FanReading),
    (b.turnAnswers (b.afterPrimary w percentage) view percentage p).fan = .ok reading →
    ((∃ v < reading.percentage, speedAccess (.supply p) v ∈ Program.queries
        ((Actuator.setFans params percentage view samples).runOn b s w).trace) ↔
      percentage < reading.percentage ∧ (b (speedAccess .primary percentage) w).answer = .ok () ∧
        view = .query ∧ ∃ r,
          (b.turnAnswers (b.afterPrimary w percentage) view percentage p).record = .ok r ∧
            r.operational = true)
  /-- A fan that follows what it is set to is slowed down by the pass that reports the latched
  shutdown for the first time, if the fan accepts full speed and has run faster, and by no other
  pass. -/
  slowed : ∀ (s : ControlState) (ws : List σ) (p : PowerSupply) (v : Nat),
    FollowsSettings (.supply p) v (c.history b s ws) →
    ∀ (k : Nat) (t : Turn c b), (c.history b s ws)[k]? = some t →
      (SlowedIn (.supply p) v (c.history b s ws) k ↔
        t.ReportsFirst ∧ ⟨.supply p, c.params.full, .ok ()⟩ ∈ fanSettings t.trace ∧
          c.params.full < fanSpeed (.supply p) v (traces ((c.history b s ws).take k)))
  /-- From a fresh state on this happens at most once. -/
  once : ∀ (ws : List σ) (p : PowerSupply) (v : Nat),
    FollowsSettings (.supply p) v (c.history b .fresh ws) →
    ∀ i j, SlowedIn (.supply p) v (c.history b .fresh ws) i →
      SlowedIn (.supply p) v (c.history b .fresh ws) j → i = j

/-- **Which fans of the supplies are slowed down**, whatever the board answers. -/
theorem supply_fans_slowed_iff (c : Controller) (b : Board σ) : SupplyFansSlowed c b := by
  have slowed (s : ControlState) (ws : List σ) (p : PowerSupply) (v : Nat)
      (follows : FollowsSettings (.supply p) v (c.history b s ws)) (k : Nat) (t : Turn c b)
      (hk : (c.history b s ws)[k]? = some t) :
      SlowedIn (.supply p) v (c.history b s ws) k ↔
        t.ReportsFirst ∧ ⟨.supply p, c.params.full, .ok ()⟩ ∈ fanSettings t.trace ∧
          c.params.full < fanSpeed (.supply p) v (traces ((c.history b s ws).take k)) := by
    rw [SlowedIn, (traces_around hk).1, fanSpeed_append]
    exact Turn.slowed_iff (follows.reads hk)
  refine ⟨?asked, slowed, ?once⟩
  case asked =>
    intro w s params percentage view samples p reading reported
    constructor
    · rintro ⟨v, less, asked⟩
      obtain ⟨accepted, rfl, raises⟩ := asked_iff.1 asked
      cases raises with
      | sampled first present plugged readable slower =>
        rw [reported] at readable
        cases readable
        exact absurd less (Nat.lt_asymm slower)
      | query readable present plugged =>
        exact ⟨less, accepted, rfl, _, readable, SupplyView.operational_iff.2 ⟨present, plugged⟩⟩
    · rintro ⟨less, accepted, rfl, r, readable, operational⟩
      obtain ⟨present, plugged⟩ := SupplyView.operational_iff.1 operational
      exact ⟨percentage, less, asked_iff.2 ⟨accepted, rfl, .query readable present plugged⟩⟩
  case once =>
    intro ws p v follows i j hi hj
    obtain ⟨t, ht⟩ := hi.pass
    obtain ⟨u, hu⟩ := hj.pass
    have first := ((slowed .fresh ws p v follows i t ht).1 hi).1
    have again := ((slowed .fresh ws p v follows j u hu).1 hj).1
    rcases Nat.lt_trichotomy i j with earlier | same | later
    · exact absurd again (first.not_again ht earlier hu)
    · exact same
    · exact absurd first (again.not_again hu later ht)

section Trial

open Bench

/-- A bench whose shutdown has latched, with the fan of a supply at a speed. -/
def overspeedWorld (rpm : Int) (percentage : Nat) : World :=
  latchedWorld [.fan (.supply .first) (.ok { rpm := some rpm, percentage := some percentage })]

/-- Two passes on it: the first finds the fan above full speed, and the second at full speed. -/
def overspeedTurns : List (Turn trialController trialBoard) :=
  trialController.history trialBoard (running 0)
    [overspeedWorld 19800 110, overspeedWorld 18000 100]

/-- The fan does as it is told in these passes. -/
theorem overspeedTurns_follow : FollowsSettings (.supply .first) 110 overspeedTurns := by
  have shows (rpm : Int) (percentage : Nat) {reading : FanReading}
      (answer : (trialBoard (fanAccess (.supply .first)) (overspeedWorld rpm percentage)).answer =
        .ok reading) : reading.percentage = percentage := by
    have reported : (trialBoard (fanAccess (.supply .first))
        (overspeedWorld rpm percentage)).answer =
          .ok ⟨.supply .first, true, false, rpm, percentage⟩ := by rfl
    rw [reported] at answer
    cases answer
    rfl
  refine ⟨fun k t reading hk answer => ?found, fun earlier reading later split => ?read⟩
  case found =>
    match k, hk with
    | 0, rfl => exact shows 19800 110 answer
    | 1, rfl => exact shows 18000 100 answer
  case read =>
    have unread : fanAccess (.supply .first) ∉ Program.queries (traces overspeedTurns) := by decide
    rw [split, Program.queries_append, Program.queries_asked] at unread
    exact absurd (List.mem_append_right _ List.mem_cons_self) unread

/-- **A latched shutdown slows down the fan of a supply**: it reports 110 %, is asked for 100 %, and
does as it is told. -/
theorem latched_shutdown_slows_fan :
    (trialBoard (fanAccess (.supply .first)) (overspeedWorld 19800 110)).answer =
        .ok ⟨.supply .first, true, false, 19800, 110⟩ ∧
      FollowsSettings (.supply .first) 110 overspeedTurns ∧
      overspeedTurns.map Turn.result =
        [.ok (.shutdownLatched true), .ok (.shutdownLatched false)] ∧
      fanSettings (traces overspeedTurns) =
        [⟨.primary, 100, .ok ()⟩, ⟨.supply .first, 100, .ok ()⟩, ⟨.supply .second, 100, .ok ()⟩] ∧
      SlowedIn (.supply .first) 110 overspeedTurns 0 := by
  have slower : fanSpeed (.supply .first) 110 (traces (overspeedTurns.take 1)) = 100 := by rfl
  refine ⟨by rfl, overspeedTurns_follow, by rfl, by rfl, ?_⟩
  rw [SlowedIn, slower]
  decide

end Trial

end SwitchThermal
