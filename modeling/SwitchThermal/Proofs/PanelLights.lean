import Mathlib.Data.List.Flatten
import Mathlib.Data.List.Nodup
import Mathlib.Logic.Function.Basic
import SwitchThermal.Bench.Trial
import SwitchThermal.Proofs.Guarded
import SwitchThermal.Proofs.PanelRun

/-!
# What the LEDs show

An LED shows whether all that it stands for is well. An update reads the members of a group until it
finds one that is not, so a green LED comes with good readings of all members, and a red one with
the answer that decided it.

* `Panel.WellIn`, `Panel.UnwellIn` — a member has given a good reading, or an answer that is not
  one.
* `Panel.Verdict` — the members that are read, in order up to the first that is not well, and the
  mode that comes of it; `Panel.Checks` — a check of single members; `Panel.yields_lit` lights an
  LED by the verdict about its group.
* `Panel.Shows` — an LED is lit by its verdict: green exactly if all its members are well, and red
  exactly if one is not. `Panel.Still` — on a board that stands still, this is about all members,
  whether they have been read or not.
* `Panel.SystemShows` — the same of the LED of the system, which a latched shutdown turns red
  before any sensor is read.
* `Panel.fanWellWord` — speeds are compared in words, without overflow.
* `Panel.SameRun` — a program that is deaf to what the LEDs answer runs alike on two boards.
* `PanelLit`, `PanelEnd` — which accesses an update makes, in which order, and what it lights.
* `panel_update` — so does every update, and what it does not depend on.
-/

set_option autoImplicit false

namespace SwitchThermal

variable {σ σ' κ : Type} {b : Board σ} {w : σ}

/-! ## Good readings -/

/-- The fan is there, has not failed and is not slower than 90 % of its least speed. -/
structure FanGood (f : Fan) (r : FanReading) : Prop where
  present : r.present = true
  working : r.failed = false
  fast : (f.leastRpm : Int) * 90 ≤ r.rpm * 100

/-- The supply is there, powered, and has not failed. -/
structure SupplyGood (p : PowerSupply) (r : SupplyReading) : Prop where
  present : r.present = true
  powered : r.unplugged = false
  working : r.failed = false

/-- The sensor is there, has not failed and is not above its shutdown limit. A limit of zero or less
means none. -/
structure SensorGood (x : Sensor) (r : SensorReading) : Prop where
  present : r.present = true
  working : r.failed = false
  cool : 0 < r.limits.shutdown → r.mcelsius ≤ r.limits.shutdown

namespace Panel

theorem fanWell_iff {f : Fan} {r : FanReading} : fanWell f r = true ↔ FanGood f r := by
  unfold fanWell
  simp only [Bool.and_eq_true, Bool.not_eq_true', decide_eq_true_eq]
  exact ⟨fun ⟨⟨h, h'⟩, h''⟩ => ⟨h, h', h''⟩, fun ⟨h, h', h''⟩ => ⟨⟨h, h'⟩, h''⟩⟩

theorem supplyWell_iff {p : PowerSupply} {r : SupplyReading} :
    supplyWell r = true ↔ SupplyGood p r := by
  unfold supplyWell SupplyReading.operational
  simp only [Bool.and_eq_true, Bool.not_eq_true']
  exact ⟨fun ⟨⟨h, h'⟩, h''⟩ => ⟨h, h', h''⟩, fun ⟨h, h', h''⟩ => ⟨⟨h, h'⟩, h''⟩⟩

theorem sensorWell_iff {x : Sensor} {r : SensorReading} :
    sensorWell r = true ↔ SensorGood x r := by
  unfold sensorWell Limits.exceedsShutdown
  simp only [Bool.and_eq_true, Bool.not_eq_true', Bool.and_eq_false_iff, decide_eq_false_iff_not,
    Int.not_lt]
  constructor
  · rintro ⟨⟨present, working⟩, cool⟩
    exact ⟨present, working, fun limit => cool.resolve_left (Int.not_le.2 limit)⟩
  · rintro ⟨present, working, cool⟩
    exact ⟨⟨present, working⟩, (Int.lt_or_le 0 _).symm.imp_right cool⟩

/-! ## Speeds in words -/

/-- The check of a fan with a speed in a signed word of 32 bits: it compares products of 64 bits,
and says nothing if one of them overflows. -/
def fanWellWord (f : Fan) (r : FanReading) (rpm : BitVec 32) : Option Bool :=
  let least := BitVec.ofNat 64 f.leastRpm
  let speed := rpm.signExtend 64
  if least.smulOverflow 90 || speed.smulOverflow 100 then none
  else some (r.present && !r.failed && (least * 90).sle (speed * 100))

/-- A product of words that is in range does not overflow, and denotes the product. -/
theorem smul_of_range {x y : BitVec 64} {n : Int} (product : x.toInt * y.toInt = n)
    (range : -9223372036854775808 ≤ n ∧ n < 9223372036854775808) :
    x.smulOverflow y = false ∧ (x * y).toInt = n := by
  have fits : x.smulOverflow y = false := by
    simp only [BitVec.smulOverflow, product, Bool.or_eq_false_iff, decide_eq_false_iff_not]
    omega
  refine ⟨fits, ?_⟩
  rw [BitVec.toInt_mul_of_not_smulOverflow (Bool.eq_false_iff.1 fits), product]

/-- Whatever the speed, neither product overflows. -/
theorem fanWellWord_eq (f : Fan) {r : FanReading} {rpm : BitVec 32} (same : r.rpm = rpm.toInt) :
    fanWellWord f r rpm = some (fanWell f r) := by
  have least : (BitVec.ofNat 64 f.leastRpm).toInt = f.leastRpm ∧ f.leastRpm ≤ 6300 := by
    unfold Fan.leastRpm
    cases f.position <;> decide
  have speed : (rpm.signExtend 64).toInt = r.rpm :=
    (BitVec.toInt_signExtend_of_le (by decide)).trans same.symm
  have range : -2147483648 ≤ r.rpm ∧ r.rpm < 2147483648 := by
    rw [same]
    exact ⟨rpm.le_toInt, rpm.toInt_lt⟩
  obtain ⟨leastFits, leastProduct⟩ : (BitVec.ofNat 64 f.leastRpm).smulOverflow 90 = false ∧
      (BitVec.ofNat 64 f.leastRpm * 90).toInt = f.leastRpm * 90 :=
    smul_of_range (by rw [least.1]; rfl) (by omega)
  obtain ⟨speedFits, speedProduct⟩ : (rpm.signExtend 64).smulOverflow 100 = false ∧
      (rpm.signExtend 64 * 100).toInt = r.rpm * 100 :=
    smul_of_range (by rw [speed]; rfl) (by omega)
  have compared : (BitVec.ofNat 64 f.leastRpm * 90).sle (rpm.signExtend 64 * 100) =
      decide ((f.leastRpm : Int) * 90 ≤ r.rpm * 100) := by
    rw [BitVec.sle_eq_decide, leastProduct, speedProduct]
  simp only [fanWellWord, leastFits, speedFits, compared, fanWell]
  rfl

/-! ## Answers -/

/-- Does the answer to the access matter to an update? Those of the LEDs and of the sensors inside
the supplies do not. -/
def steers : Query → Bool
  | .device (.setLed ..) => false
  | .device (.sensor x) => x.supply?.isNone
  | .device _ | .register _ | .controlFile _ => true

/-- What the board answers does not change while it is accessed. -/
def Still (b : Board σ) (w : σ) : Prop :=
  ∀ q, steers q = true → ∀ before, (b q (b.after w before)).answer = (b q w).answer

/-- The answers in a trace are the board's, after some accesses. -/
def AnsweredBy (b : Board σ) (w : σ) (t : List Entry) : Prop :=
  ∀ q a, .asked q a ∈ t → ∃ before, (b q (b.after w before)).answer = a

theorem Still.answer {t : List Entry} {q : Query} {a : Except Fault q.Payload} (h : Still b w)
    (answered : AnsweredBy b w t) (read : steers q = true) (asked : .asked q a ∈ t) :
    (b q w).answer = a := by
  obtain ⟨before, answer⟩ := answered q a asked
  exact (h q read before).symm.trans answer

/-! ## Members of a group -/

section Group

variable {access : κ → DeviceQuery} {good : (k : κ) → (access k).Payload → Prop}
  {check : κ → Program Bool} {t u : List Entry} {mode : LedMode} {l ks : List κ}

/-- The member has given a good reading. -/
def WellIn (access : κ → DeviceQuery) (good : (k : κ) → (access k).Payload → Prop)
    (t : List Entry) (k : κ) : Prop :=
  ∃ r, .asked (.device (access k)) (.ok r) ∈ t ∧ good k r

/-- The member could not be read, or its reading is not good. -/
def UnwellIn (access : κ → DeviceQuery) (good : (k : κ) → (access k).Payload → Prop)
    (t : List Entry) (k : κ) : Prop :=
  ∃ a, .asked (.device (access k)) a ∈ t ∧ ∀ r, a = .ok r → ¬ good k r

/-- How a group has been read, and the mode that comes of it: the members are read in order, up to
the first that is not well. -/
inductive Verdict (access : κ → DeviceQuery) (good : (k : κ) → (access k).Payload → Prop)
    (t : List Entry) : List κ → List κ → LedMode → Prop where
  | done : Verdict access good t [] [] .green
  | unwell {k : κ} {l : List κ} (unwell : UnwellIn access good t k) :
      Verdict access good t (k :: l) [k] .red
  | well {k : κ} {l ks : List κ} {mode : LedMode} (well : WellIn access good t k)
      (rest : Verdict access good t l ks mode) : Verdict access good t (k :: l) (k :: ks) mode

theorem WellIn.mono {k : κ} (h : WellIn access good t k) (sub : t ⊆ u) :
    WellIn access good u k := by
  obtain ⟨r, asked, hr⟩ := h
  exact ⟨r, sub asked, hr⟩

theorem UnwellIn.mono {k : κ} (h : UnwellIn access good t k) (sub : t ⊆ u) :
    UnwellIn access good u k := by
  obtain ⟨a, asked, ha⟩ := h
  exact ⟨a, sub asked, ha⟩

theorem Verdict.mono (h : Verdict access good t l ks mode) (sub : t ⊆ u) :
    Verdict access good u l ks mode := by
  induction h with
  | done => exact .done
  | unwell unwell => exact .unwell (unwell.mono sub)
  | well well rest ih => exact .well (well.mono sub) ih

/-- The members that are read are the first ones. -/
theorem Verdict.initial (h : Verdict access good t l ks mode) : ks <+: l := by
  induction h with
  | done => exact List.nil_prefix
  | unwell unwell => exact ⟨_, rfl⟩
  | well well rest ih => exact List.cons_prefix_cons.2 ⟨rfl, ih⟩

/-- The LED is green after good readings of all members, and red after an answer that is not one. -/
theorem Verdict.green_or_red (h : Verdict access good t l ks mode) :
    (mode = .green ∧ ∀ k ∈ l, WellIn access good t k) ∨
      (mode = .red ∧ ∃ k ∈ l, UnwellIn access good t k) := by
  induction h with
  | done => exact .inl ⟨rfl, nofun⟩
  | unwell unwell => exact .inr ⟨rfl, _, List.mem_cons_self, unwell⟩
  | well well rest ih =>
    rcases ih with ⟨green, all⟩ | ⟨red, k, hk, unwell⟩
    · exact .inl ⟨green, List.forall_mem_cons.2 ⟨well, all⟩⟩
    · exact .inr ⟨red, k, List.mem_cons_of_mem _ hk, unwell⟩

/-! ## Boards that stand still -/

/-- The board shows the member well. -/
def AnswersWell (b : Board σ) (w : σ) (access : κ → DeviceQuery)
    (good : (k : κ) → (access k).Payload → Prop) (k : κ) : Prop :=
  ∃ r, (b (.device (access k)) w).answer = .ok r ∧ good k r

theorem WellIn.answersWell {k : κ} (h : WellIn access good t k) (still : Still b w)
    (answered : AnsweredBy b w t) (read : steers (.device (access k)) = true) :
    AnswersWell b w access good k := by
  obtain ⟨r, asked, hr⟩ := h
  exact ⟨r, still.answer answered read asked, hr⟩

theorem UnwellIn.not_answersWell {k : κ} (h : UnwellIn access good t k) (still : Still b w)
    (answered : AnsweredBy b w t) (read : steers (.device (access k)) = true) :
    ¬ AnswersWell b w access good k := by
  obtain ⟨a, asked, ha⟩ := h
  rintro ⟨r, answer, hr⟩
  exact ha r ((still.answer answered read asked).symm.trans answer) hr

/-! ## LEDs that stand for a group -/

/-- What is accessed only once has only one answer. -/
theorem answer_unique {q : Query} {a a' : Except Fault q.Payload}
    (once : (Program.queries t).Nodup) (h : .asked q a ∈ t) (h' : .asked q a' ∈ t) : a = a' := by
  have listed : ∀ {a : Except Fault q.Payload} {t : List Entry}, .asked q a ∈ t →
      q ∈ Program.queries t := fun hmem => List.mem_filterMap.2 ⟨_, hmem, rfl⟩
  induction t with
  | nil => cases h
  | cons e t ih =>
    cases e with
    | noted n =>
      exact ih once ((List.mem_cons.1 h).resolve_left nofun)
        ((List.mem_cons.1 h').resolve_left nofun)
    | asked q' a'' =>
      obtain ⟨fresh, rest⟩ := List.nodup_cons.1 once
      rcases List.mem_cons.1 h with here | later <;> rcases List.mem_cons.1 h' with here' | later'
      · cases here
        cases here'
        rfl
      · cases here
        exact absurd (listed later') fresh
      · cases here'
        exact absurd (listed later) fresh
      · exact ih rest later later'

/-- No member is both. -/
theorem WellIn.not_unwell {k : κ} (once : (Program.queries t).Nodup)
    (h : WellIn access good t k) : ¬ UnwellIn access good t k := by
  obtain ⟨r, asked, hr⟩ := h
  rintro ⟨a, asked', ha⟩
  exact ha r (answer_unique once asked' asked) hr

/-- What an LED shows of a group: it is lit by the members that have been read. -/
structure Shows (b : Board σ) (w : σ) (t : List Entry) (access : κ → DeviceQuery)
    (good : (k : κ) → (access k).Payload → Prop) (l ks : List κ) (mode : LedMode) : Prop where
  verdict : Verdict access good t l ks mode
  lit : mode = .green ∨ mode = .red
  green : mode = .green ↔ ∀ k ∈ l, WellIn access good t k
  red : mode = .red ↔ ∃ k ∈ l, UnwellIn access good t k
  /-- On a board that stands still it is green exactly if the board shows all members well, whether
  they have been read or not. -/
  still : Still b w → (mode = .green ↔ ∀ k ∈ l, AnswersWell b w access good k)

theorem Verdict.shows (h : Verdict access good t l ks mode) (once : (Program.queries t).Nodup)
    (answered : AnsweredBy b w t) (read : ∀ k ∈ l, steers (.device (access k)) = true) :
    Shows b w t access good l ks mode := by
  rcases h.green_or_red with ⟨rfl, well⟩ | ⟨rfl, k, hk, unwell⟩
  · refine ⟨h, .inl rfl, iff_of_true rfl well, iff_of_false nofun ?_, fun still => ?_⟩
    · rintro ⟨k, hk, unwell⟩
      exact (well k hk).not_unwell once unwell
    · exact iff_of_true rfl fun k hk => (well k hk).answersWell still answered (read k hk)
  · refine ⟨h, .inr rfl, iff_of_false nofun fun well => (well k hk).not_unwell once unwell,
      iff_of_true rfl ⟨k, hk, unwell⟩, fun still => iff_of_false nofun fun all => ?_⟩
    exact unwell.not_answersWell still answered (read k hk) (all k hk)

/-- A check of single members: it reads the member, and says whether the reading is good. -/
structure Checks (check : κ → Program Bool) (access : κ → DeviceQuery)
    (good : (k : κ) → (access k).Payload → Prop) : Prop where
  yields : ∀ {σ : Type} (b : Board σ) (w : σ) (k : κ), ∃ v,
    Program.Yields b w (check k) v [.device (access k)] ∧
      (v = true ↔ ∃ r, (b (.device (access k)) w).answer = .ok r ∧ good k r)

/-- A check that reads the member and does no more about an unreadable one than say so. -/
theorem Checks.of_answers {f : (k : κ) → Except Fault (access k).Payload → Program Bool}
    {notice : κ → Fault → Notice} {well : (k : κ) → (access k).Payload → Bool}
    (judge : ∀ k r, well k r = true ↔ good k r)
    (reads : ∀ k, check k = Program.device (access k) >>= f k)
    (ok : ∀ k r, f k (.ok r) = pure (well k r))
    (error : ∀ k e, f k (.error e) = Program.tell (notice k e) >>= fun _ => pure false) :
    Checks check access good where
  yields b w k := by
    rw [reads]
    cases answer : (b (.device (access k)) w).answer with
    | ok r =>
      refine ⟨well k r, (Program.Yields.query _).bind_quiet ?_, (judge k r).trans ?_⟩
      · rw [answer, ok]
        exact .pure _
      · exact ⟨fun hr => ⟨r, rfl, hr⟩, fun ⟨_, same, hr⟩ => Except.ok.inj same ▸ hr⟩
    | error e =>
      refine ⟨false, (Program.Yields.query _).bind_quiet ?_, iff_of_false nofun nofun⟩
      rw [answer, error]
      exact (Program.Yields.tell _).bind_quiet (.pure false)

theorem fanHealthy_checks : Checks fanHealthy .fan FanGood :=
  .of_answers (fun _ _ => fanWell_iff) (fun _ => rfl) (fun _ _ => rfl) fun _ _ => rfl

theorem supplyHealthy_checks : Checks supplyHealthy .supply SupplyGood :=
  .of_answers (fun _ _ => supplyWell_iff) (fun _ => rfl) (fun _ _ => rfl) fun _ _ => rfl

theorem sensorHealthy_checks : Checks sensorHealthy .sensor SensorGood :=
  .of_answers (fun _ _ => sensorWell_iff) (fun _ => rfl) (fun _ _ => rfl) fun _ _ => rfl

/-- The accesses to members of a group. -/
abbrev reads (access : κ → DeviceQuery) (ks : List κ) : List Query :=
  ks.map fun k => .device (access k)

/-- The members of a group are read in order, up to the first that is not well. -/
theorem yields_allHealthy (checks : Checks check access good) (b : Board σ) (w : σ) (l : List κ) :
    ∃ v ks, Program.Yields b w (allHealthy check l) v (reads access ks) ∧
      Verdict access good (b.record w (reads access ks)) l ks (.ofHealth v) := by
  induction l generalizing w with
  | nil => exact ⟨true, [], .pure true, .done⟩
  | cons k l ih =>
    obtain ⟨v, hcheck, hv⟩ := checks.yields b w k
    cases v with
    | false =>
      refine ⟨false, [k], hcheck.bind_quiet (.pure false),
        .unwell ⟨_, List.mem_cons_self, fun r answer hr => ?_⟩⟩
      cases hv.2 ⟨r, answer, hr⟩
    | true =>
      obtain ⟨v, ks, hrest, verdict⟩ := ih (b (.device (access k)) w).next
      obtain ⟨r, answer, hr⟩ := hv.1 rfl
      have here : WellIn access good (b.record w (reads access (k :: ks))) k := by
        refine ⟨r, ?_, hr⟩
        rw [← answer]
        exact List.mem_cons_self
      exact ⟨v, k :: ks, hcheck.bind hrest,
        .well here (verdict.mono (List.subset_cons_self _ _))⟩

/-- The access that asks a mode of an LED. -/
abbrev lightAccess (led : Led) (mode : LedMode) : Query := .device (.setLed led mode)

theorem yields_light (b : Board σ) (w : σ) (led : Led) (mode : LedMode) :
    Program.Yields b w (light led mode) (led, mode) [lightAccess led mode] := by
  refine (Program.Yields.query _).bind_quiet ?_
  cases (b (lightAccess led mode) w).answer with
  | ok u => exact .pure _
  | error e => exact (Program.Yields.tell _).bind_quiet (.pure _)

/-- The accesses for an LED, with those to the members that are read. -/
def groupAccesses (access : κ → DeviceQuery) (ks : List κ) (e : Led × LedMode) : List Query :=
  reads access ks ++ [lightAccess e.1 e.2]

/-- **An LED that stands for a group** is lit by the verdict about it. -/
theorem yields_lit (checks : Checks check access good) (b : Board σ) (w : σ) (led : Led)
    (l : List κ) :
    ∃ mode ks, Program.Yields b w (do light led (.ofHealth (← allHealthy check l))) (led, mode)
        (groupAccesses access ks (led, mode)) ∧
      Verdict access good (b.record w (groupAccesses access ks (led, mode))) l ks mode := by
  obtain ⟨v, ks, hgroup, verdict⟩ := yields_allHealthy checks b w l
  refine ⟨_, ks, hgroup.bind (yields_light b _ led (.ofHealth v)), verdict.mono ?_⟩
  rw [groupAccesses, Board.record_append]
  exact List.subset_append_left _ _

/-- Fewer members, fewer accesses. -/
theorem groupAccesses_sublist (initial : ks <+: l) (e : Led × LedMode) :
    (groupAccesses access ks e).Sublist (groupAccesses access l e) :=
  (initial.sublist.map _).append_right _

end Group

/-! ## The LEDs of an update -/

/-- The modes that are asked of LEDs, in order. -/
def settings (qs : List Query) : List (Led × LedMode) :=
  qs.filterMap fun
    | .device (.setLed led mode) => some (led, mode)
    | _ => none

theorem settings_append (qs rs : List Query) :
    settings (qs ++ rs) = settings qs ++ settings rs :=
  List.filterMap_append

theorem settings_reads {κ : Type} (access : κ → DeviceQuery) (ks : List κ)
    (other : ∀ k led mode, access k ≠ .setLed led mode) : settings (reads access ks) = [] := by
  refine List.filterMap_eq_nil_iff.2 fun q hq => ?_
  obtain ⟨k, -, rfl⟩ := List.mem_map.1 hq
  cases shape : access k with
  | setLed led mode => exact absurd shape (other k led mode)
  | _ => rfl

/-- The accesses for an LED that has been lit set that LED only. -/
theorem settings_group {κ : Type} {access : κ → DeviceQuery} {ks : List κ} {e : Led × LedMode}
    (other : ∀ k led mode, access k ≠ .setLed led mode) :
    settings (groupAccesses access ks e) = [e] := by
  rw [groupAccesses, settings_append, settings_reads access ks other]
  rfl

/-- The accesses for the LEDs of the trays, with those to the fans that are read. -/
def trayAccesses (m : Led → LedMode) (fans : Led → List Fan) (leds : List Led) : List Query :=
  leds.flatMap fun led => groupAccesses .fan (fans led) (led, m led)

theorem trayAccesses_congr {m m' : Led → LedMode} {fans fans' : Led → List Fan} {leds : List Led}
    (modes : ∀ led ∈ leds, m led = m' led) (same : ∀ led ∈ leds, fans led = fans' led) :
    trayAccesses m fans leds = trayAccesses m' fans' leds :=
  List.flatMap_congr fun led hled => by rw [modes led hled, same led hled]

/-- Each tray has its LED lit by the verdict about its fans. -/
theorem yields_trays (b : Board σ) (w : σ) (l : List (Led × List Fan))
    (distinct : (l.map Prod.fst).Nodup) :
    ∃ m fans, Program.Yields b w (l.mapM updateTray) ((l.map Prod.fst).map fun led => (led, m led))
        (trayAccesses m fans (l.map Prod.fst)) ∧
      ∀ tray ∈ l, Verdict .fan FanGood (b.record w (trayAccesses m fans (l.map Prod.fst))) tray.2
        (fans tray.1) (m tray.1) := by
  induction l generalizing w with
  | nil => exact ⟨fun _ => .off, fun _ => [], .pure [], nofun⟩
  | cons tray l ih =>
    obtain ⟨fresh, distinct⟩ := List.nodup_cons.1 distinct
    obtain ⟨mode, ks, hlit, verdict⟩ := yields_lit fanHealthy_checks b w tray.1 tray.2
    obtain ⟨m, fans, hrest, verdicts⟩ :=
      ih (b.after w (groupAccesses .fan ks (tray.1, mode))) distinct
    have other : ∀ led ∈ l.map Prod.fst, led ≠ tray.1 := by
      rintro led hled rfl
      exact fresh hled
    have modes : ∀ led ∈ l.map Prod.fst, Function.update m tray.1 mode led = m led :=
      fun led hled => Function.update_of_ne (other led hled) _ _
    have read : ∀ led ∈ l.map Prod.fst, Function.update fans tray.1 ks led = fans led :=
      fun led hled => Function.update_of_ne (other led hled) _ _
    have here : Function.update m tray.1 mode tray.1 = mode := Function.update_self _ _ _
    have readHere : Function.update fans tray.1 ks tray.1 = ks := Function.update_self _ _ _
    have accesses : trayAccesses (Function.update m tray.1 mode) (Function.update fans tray.1 ks)
        (tray.1 :: l.map Prod.fst) =
          groupAccesses .fan ks (tray.1, mode) ++ trayAccesses m fans (l.map Prod.fst) := by
      rw [← trayAccesses_congr modes read, trayAccesses, List.flatMap_cons, here, readHere]
      rfl
    refine ⟨Function.update m tray.1 mode, Function.update fans tray.1 ks, ?_, ?_⟩
    · rw [List.mapM_cons, List.map_cons, accesses, List.map_cons, here, List.map_congr_left
        fun led hled => by rw [modes led hled]]
      exact hlit.bind (hrest.bind_quiet (.pure _))
    · rw [List.map_cons, accesses, Board.record_append]
      refine List.forall_mem_cons.2 ⟨?_, fun later hlater => ?_⟩
      · rw [here, readHere]
        exact verdict.mono (List.subset_append_left _ _)
      · have listed : later.1 ∈ l.map Prod.fst := List.mem_map_of_mem hlater
        rw [modes _ listed, read _ listed]
        exact (verdicts later hlater).mono (List.subset_append_right _ _)

/-- The access that reads whether a shutdown is latched. -/
abbrev statusAccess : Query := .register Watchdog.statusQuery

/-- How the sensors have been read, and the mode of the LED of the system: under a latched shutdown
none of them is read. -/
inductive SystemVerdict (t : List Entry) (status : Nat) (l : List Sensor) :
    List Sensor → LedMode → Prop where
  | latched (latched : Watchdog.isLatched status = true) : SystemVerdict t status l [] .red
  | unlatched {xs : List Sensor} {mode : LedMode} (unlatched : Watchdog.isLatched status = false)
      (verdict : Verdict .sensor SensorGood t l xs mode) : SystemVerdict t status l xs mode

section System

variable {t u : List Entry} {status : Nat} {l xs : List Sensor} {mode : LedMode}

theorem SystemVerdict.mono (h : SystemVerdict t status l xs mode) (sub : t ⊆ u) :
    SystemVerdict u status l xs mode := by
  cases h with
  | latched latched => exact .latched latched
  | unlatched unlatched verdict => exact .unlatched unlatched (verdict.mono sub)

theorem SystemVerdict.initial (h : SystemVerdict t status l xs mode) : xs <+: l := by
  cases h with
  | latched latched => exact List.nil_prefix
  | unlatched unlatched verdict => exact verdict.initial

/-- What the LED of the system shows. -/
structure SystemShows (b : Board σ) (w : σ) (t : List Entry) (status : Nat) (l xs : List Sensor)
    (mode : LedMode) : Prop where
  verdict : SystemVerdict t status l xs mode
  lit : mode = .green ∨ mode = .red
  green : mode = .green ↔ Watchdog.isLatched status = false ∧ ∀ x ∈ l, WellIn .sensor SensorGood t x
  red : mode = .red ↔ Watchdog.isLatched status = true ∨ ∃ x ∈ l, UnwellIn .sensor SensorGood t x
  still : Still b w → (b statusAccess w).answer = .ok status ∧
    (mode = .green ↔ Watchdog.isLatched status = false ∧
      ∀ x ∈ l, AnswersWell b w .sensor SensorGood x)

theorem SystemVerdict.shows (h : SystemVerdict t status l xs mode)
    (once : (Program.queries t).Nodup) (answered : AnsweredBy b w t)
    (read : .asked statusAccess (.ok status) ∈ t)
    (outside : ∀ x ∈ l, steers (.device (.sensor x)) = true) :
    SystemShows b w t status l xs mode := by
  have answer : Still b w → (b statusAccess w).answer = .ok status :=
    fun still => still.answer answered rfl read
  cases h with
  | latched latched =>
    have standing (P : Prop) : ¬ (Watchdog.isLatched status = false ∧ P) := by
      rintro ⟨unlatched, -⟩
      rw [latched] at unlatched
      cases unlatched
    exact ⟨.latched latched, .inr rfl, iff_of_false nofun (standing _),
      iff_of_true rfl (.inl latched), fun still => ⟨answer still, iff_of_false nofun (standing _)⟩⟩
  | unlatched unlatched verdict =>
    have shown := verdict.shows once answered outside
    refine ⟨.unlatched unlatched verdict, shown.lit,
      shown.green.trans (and_iff_right unlatched).symm, shown.red.trans (or_iff_right ?_).symm,
      fun still => ⟨answer still, (shown.still still).trans (and_iff_right unlatched).symm⟩⟩
    rw [unlatched]
    nofun

end System

theorem yields_latched_error {e : Fault} (read : (b statusAccess w).answer = .error e) :
    Program.Yields b w updateSystem.run (.error e) [statusAccess] := by
  have unread : Program.Yields b w Watchdog.latched.run (.error e) [statusAccess] :=
    Action.yields_register_bind_error read
  exact unread.bind_quiet (.pure _)

/-- The LED of the system, when the status can be read. -/
theorem yields_system {status : Nat} (read : (b statusAccess w).answer = .ok status) :
    ∃ mode xs, Program.Yields b w updateSystem.run (.ok (.system, mode))
        (statusAccess :: groupAccesses .sensor xs (.system, mode)) ∧
      SystemVerdict (b.record w (statusAccess :: groupAccesses .sensor xs (.system, mode))) status
        systemSensors xs mode := by
  have latched : Program.Yields b w Watchdog.latched.run (.ok (Watchdog.isLatched status))
      [statusAccess] := Action.yields_register_bind read (.pure _)
  cases hl : Watchdog.isLatched status with
  | true =>
    rw [hl] at latched
    exact ⟨.red, [], latched.bind (Action.yields_lift (yields_light b _ .system .red)),
      .latched hl⟩
  | false =>
    rw [hl] at latched
    obtain ⟨mode, xs, hlit, verdict⟩ :=
      yields_lit sensorHealthy_checks b (b.after w [statusAccess]) .system systemSensors
    exact ⟨mode, xs, latched.bind (Action.yields_lift hlit),
      .unlatched hl (verdict.mono (List.subset_cons_self _ _))⟩

/-! ## The whole update -/

/-- The LEDs with these modes. -/
abbrev lit (m : Led → LedMode) (leds : List Led) : List (Led × LedMode) :=
  leds.map fun led => (led, m led)

/-- The LEDs that are lit before the status is read. -/
abbrev earlyLeds : List Led := [.fan1, .fan2, .fan3, .fan4, .psu]

/-- The accesses before the status is read, for the trays and then for the supplies. -/
def earlyAccesses (m : Led → LedMode) (fans : Led → List Fan) (supplies : List PowerSupply) :
    List Query :=
  trayAccesses m fans Led.trays ++ groupAccesses .supply supplies (.psu, m .psu)

/-- The accesses from the read of the status on. -/
def lateAccesses (m : Led → LedMode) (sensors : List Sensor) : List Query :=
  statusAccess :: groupAccesses .sensor sensors (.system, m .system)

/-- The fans of the tray that an LED stands for. -/
def trayFans (led : Led) : List Fan :=
  (trays.lookup led).getD []

/-- All accesses of an update that reads all members of all groups. -/
def updateAccesses (m : Led → LedMode) : List Query :=
  earlyAccesses m trayFans PowerSupply.all ++ lateAccesses m systemSensors

/-- The access, whatever mode it asks of an LED. -/
def modeless : Query → Query
  | .device (.setLed led _) => lightAccess led .off
  | q => q

/-- Nothing is accessed twice. -/
theorem nodup_updateAccesses (m : Led → LedMode) : (updateAccesses m).Nodup := by
  have forgotten : (updateAccesses m).map modeless = updateAccesses fun _ => .off := rfl
  refine List.Nodup.of_map modeless ?_
  rw [forgotten]
  decide

/-- The LEDs that the accesses before the status light. -/
theorem settings_early (m : Led → LedMode) (fans : Led → List Fan) (supplies : List PowerSupply) :
    settings (earlyAccesses m fans supplies) = lit m earlyLeds := by
  have fan : ∀ (f : Fan) led mode, DeviceQuery.fan f ≠ .setLed led mode := fun _ _ _ => nofun
  have supply : ∀ (p : PowerSupply) led mode, DeviceQuery.supply p ≠ .setLed led mode :=
    fun _ _ _ => nofun
  have trays (leds : List Led) : settings (trayAccesses m fans leds) = lit m leds := by
    induction leds with
    | nil => rfl
    | cons led leds ih =>
      rw [trayAccesses, List.flatMap_cons, settings_append, settings_group fan]
      exact congrArg ((led, m led) :: ·) ih
  rw [earlyAccesses, settings_append, trays, settings_group supply]
  rfl

theorem settings_late (m : Led → LedMode) (sensors : List Sensor) :
    settings (lateAccesses m sensors) = [(.system, m .system)] := by
  have sensor : ∀ (x : Sensor) led mode, DeviceQuery.sensor x ≠ .setLed led mode :=
    fun _ _ _ => nofun
  exact settings_group sensor

/-- How an update ends, and with which accesses. -/
inductive Ending (m : Led → LedMode) (early : List Query) (t : List Entry) :
    Except Fault LedReport → List Query → Prop where
  | unread {e : Fault} (read : .asked statusAccess (.error e) ∈ t) :
      Ending m early t (.error e) (early ++ [statusAccess])
  | complete {status : Nat} {sensors : List Sensor} (read : .asked statusAccess (.ok status) ∈ t)
      (system : SystemVerdict t status systemSensors sensors (m .system)) :
      Ending m early t (.ok ⟨lit m (earlyLeds ++ [.system])⟩) (early ++ lateAccesses m sensors)

/-- What comes of an update. -/
structure Updated (b : Board σ) (w : σ) (m : Led → LedMode) (fans : Led → List Fan)
    (supplies : List PowerSupply) (r : Except Fault LedReport) (qs : List Query) : Prop where
  yields : Program.Yields b w update.run r qs
  tray : ∀ tray ∈ trays, Verdict .fan FanGood (b.record w qs) tray.2 (fans tray.1) (m tray.1)
  psu : Verdict .supply SupplyGood (b.record w qs) PowerSupply.all supplies (m .psu)
  ending : Ending m (earlyAccesses m fans supplies) (b.record w qs) r qs

/-- Nothing is accessed twice. -/
theorem Updated.once {m : Led → LedMode} {fans : Led → List Fan} {supplies : List PowerSupply}
    {r : Except Fault LedReport} {qs : List Query} (h : Updated b w m fans supplies r qs) :
    qs.Nodup := by
  have few : ∀ led ∈ Led.trays, fans led <+: trayFans led := by
    have listed : ∀ led ∈ Led.trays, (led, trayFans led) ∈ trays := by decide
    exact fun led hled => (h.tray _ (listed led hled)).initial
  have early : (earlyAccesses m fans supplies).Sublist (earlyAccesses m trayFans PowerSupply.all) :=
    .append (List.Sublist.flatMap_right _ fun led hled => groupAccesses_sublist (few led hled) _)
      (groupAccesses_sublist h.psu.initial _)
  refine (nodup_updateAccesses m).sublist ?_
  have ending := h.ending
  cases ending with
  | unread read => exact early.append (List.Sublist.cons_cons _ (List.nil_sublist _))
  | complete read system =>
    exact early.append ((groupAccesses_sublist system.initial _).cons_cons _)

/-- The part of an update before the status is read: the trays, and then the supplies. -/
structure EarlyPart (b : Board σ) (w : σ) (m : Led → LedMode) (fans : Led → List Fan)
    (supplies : List PowerSupply) : Prop where
  trayYields : Program.Yields b w (trays.mapM updateTray) (lit m Led.trays)
    (trayAccesses m fans Led.trays)
  psuYields : Program.Yields b (b.after w (trayAccesses m fans Led.trays)) updateSupplies
    (.psu, m .psu) (groupAccesses .supply supplies (.psu, m .psu))
  tray : ∀ tray ∈ trays, Verdict .fan FanGood (b.record w (earlyAccesses m fans supplies)) tray.2
    (fans tray.1) (m tray.1)
  psu : Verdict .supply SupplyGood (b.record w (earlyAccesses m fans supplies)) PowerSupply.all
    supplies (m .psu)

/-- It does not look at the mode of the LED of the system. -/
theorem early_part (b : Board σ) (w : σ) : ∃ (m : Led → LedMode) (fans : Led → List Fan)
    (supplies : List PowerSupply), ∀ m' : Led → LedMode,
    (∀ led ∈ earlyLeds, m' led = m led) → EarlyPart b w m' fans supplies := by
  obtain ⟨m, fans, htrays, verdicts⟩ := yields_trays b w trays (by decide)
  obtain ⟨psu, supplies, hpsu, verdict⟩ := yields_lit supplyHealthy_checks b
    (b.after w (trayAccesses m fans Led.trays)) .psu PowerSupply.all
  refine ⟨Function.update m .psu psu, fans, supplies, fun m' same => ?_⟩
  have modes : ∀ led ∈ Led.trays, m' led = m led := by
    intro led hled
    have tray : ∀ led ∈ Led.trays, led ∈ earlyLeds ∧ led ≠ .psu := by decide
    rw [same led (tray led hled).1, Function.update_of_ne (tray led hled).2]
  have psuMode : m' .psu = psu := (same .psu (by decide)).trans (Function.update_self _ _ _)
  have accesses : trayAccesses m' fans Led.trays = trayAccesses m fans Led.trays :=
    trayAccesses_congr modes fun _ _ => rfl
  have shown : lit m' Led.trays = lit m Led.trays :=
    List.map_congr_left fun led hled => by rw [modes led hled]
  refine ⟨?_, ?_, ?_, ?_⟩
  · rw [accesses, shown]
    exact htrays
  · rw [accesses, psuMode]
    exact hpsu
  · intro tray htray
    have listed : ∀ tray ∈ trays, tray.1 ∈ Led.trays := by decide
    rw [earlyAccesses, accesses, modes _ (listed tray htray), Board.record_append]
    exact (verdicts tray htray).mono (List.subset_append_left _ _)
  · rw [earlyAccesses, accesses, psuMode, Board.record_append]
    exact verdict.mono (List.subset_append_right _ _)

/-- **Every update** comes to this. -/
theorem update_updated (b : Board σ) (w : σ) :
    ∃ m fans supplies r qs, Updated b w m fans supplies r qs := by
  obtain ⟨m, fans, supplies, early⟩ := early_part b w
  have asked (before rest : List Query) :
      .asked statusAccess (b statusAccess (b.after w before)).answer ∈
        b.record w (before ++ statusAccess :: rest) := by
    rw [Board.record_append]
    exact List.mem_append_right _ List.mem_cons_self
  have kept (before rest : List Query) : b.record w before ⊆ b.record w (before ++ rest) := by
    rw [Board.record_append b w before rest]
    exact List.subset_append_left _ _
  cases read : (b statusAccess (b.after w (earlyAccesses m fans supplies))).answer with
  | error e =>
    have part := early m fun _ _ => rfl
    refine ⟨m, fans, supplies, .error e, earlyAccesses m fans supplies ++ [statusAccess],
      ?_, ?_, ?_, .unread (read ▸ asked _ [])⟩
    · rw [earlyAccesses, Board.after_append] at read
      rw [earlyAccesses, List.append_assoc]
      exact Action.yields_lift_bind part.trayYields (Action.yields_lift_bind part.psuYields
        ((yields_latched_error read).bind_quiet (.pure _)))
    · exact fun tray htray => (part.tray tray htray).mono (kept _ _)
    · exact part.psu.mono (kept _ _)
  | ok status =>
    obtain ⟨system, sensors, hsystem, verdict⟩ := yields_system read
    have other : ∀ led ∈ earlyLeds, led ≠ .system := by decide
    -- the LED of the system is lit last, so its mode is chosen when the others are known
    obtain ⟨m', part, same, rfl⟩ : ∃ m' : Led → LedMode, EarlyPart b w m' fans supplies ∧
        earlyAccesses m fans supplies = earlyAccesses m' fans supplies ∧ m' .system = system :=
      ⟨Function.update m .system system,
        early _ fun led hled => Function.update_of_ne (other led hled) _ _, rfl,
        Function.update_self _ _ _⟩
    rw [same] at read hsystem verdict
    have answered : .asked statusAccess (.ok status) ∈
        b.record w (earlyAccesses m' fans supplies ++ lateAccesses m' sensors) := read ▸ asked _ _
    refine ⟨m', fans, supplies, .ok ⟨lit m' (earlyLeds ++ [.system])⟩,
      earlyAccesses m' fans supplies ++ lateAccesses m' sensors, ?_, ?_, ?_,
      .complete answered (verdict.mono ?_)⟩
    · rw [earlyAccesses, Board.after_append] at hsystem
      rw [earlyAccesses, List.append_assoc]
      exact Action.yields_lift_bind part.trayYields (Action.yields_lift_bind part.psuYields
        (hsystem.bind_quiet (.pure _)))
    · exact fun tray htray => (part.tray tray htray).mono (kept _ _)
    · exact part.psu.mono (kept _ _)
    · rw [Board.record_append]
      exact List.subset_append_right _ _

/-! ## What an update does not depend on -/

/-- The boards differ at most in what the LEDs answer and in the sensors inside the supplies. -/
structure SameBut (R : σ → σ' → Prop) (b : Board σ) (b' : Board σ') : Prop where
  answer : ∀ q w w', R w w' → steers q = true → (b q w).answer = (b' q w').answer
  next : ∀ q w w', R w w' → steers q = true → R (b q w).next (b' q w').next
  lit : ∀ led mode w w', R w w' →
    R (b (lightAccess led mode) w).next (b' (lightAccess led mode) w').next

/-- From related states the program comes to the same value by the same accesses, and to related
states. -/
structure SameRun {α : Type} (R : σ → σ' → Prop) (b : Board σ) (b' : Board σ') (p : Program α) :
    Prop where
  value : ∀ w w', R w w' → (p.run b w).value = (p.run b' w').value
  world : ∀ w w', R w w' → R (p.run b w).world (p.run b' w').world
  queries : ∀ w w', R w w' →
    Program.queries (p.run b w).trace = Program.queries (p.run b' w').trace

namespace SameRun

variable {α β : Type} {R : σ → σ' → Prop} {b : Board σ} {b' : Board σ'} {p : Program α}

theorem pure (a : α) : SameRun R b b' (Pure.pure a : Program α) :=
  ⟨fun _ _ _ => rfl, fun _ _ h => h, fun _ _ _ => rfl⟩

theorem tell (n : Notice) : SameRun R b b' (Program.tell n) :=
  ⟨fun _ _ _ => rfl, fun _ _ h => h, fun _ _ _ => rfl⟩

theorem bind {f : α → Program β} (hp : SameRun R b b' p) (hf : ∀ a, SameRun R b b' (f a)) :
    SameRun R b b' (p >>= f) := by
  refine ⟨fun w w' h => ?_, fun w w' h => ?_, fun w w' h => ?_⟩
  · rw [Program.run_bind, Program.run_bind, ← hp.value w w' h]
    exact (hf _).value _ _ (hp.world w w' h)
  · rw [Program.run_bind, Program.run_bind, ← hp.value w w' h]
    exact (hf _).world _ _ (hp.world w w' h)
  · rw [Program.run_bind, Program.run_bind, Program.queries_append, Program.queries_append,
      ← hp.value w w' h, hp.queries w w' h, (hf _).queries _ _ (hp.world w w' h)]

theorem query (same : SameBut R b b') {q : Query} (h : steers q = true) :
    SameRun R b b' (Program.query q) := by
  refine ⟨fun w w' related => same.answer q w w' related h,
    fun w w' related => same.next q w w' related h, fun w w' _ => ?_⟩
  rw [(Program.Yields.query q).queries, (Program.Yields.query q).queries]

/-- What an LED answers does not matter. -/
theorem light (same : SameBut R b b') (led : Led) (mode : LedMode) :
    SameRun R b b' (Panel.light led mode) := by
  refine ⟨fun w w' _ => ?_, fun w w' related => ?_, fun w w' _ => ?_⟩
  · rw [(yields_light b w led mode).value, (yields_light b' w' led mode).value]
  · rw [(yields_light b w led mode).world, (yields_light b' w' led mode).world]
    exact same.lit led mode w w' related
  · rw [(yields_light b w led mode).queries, (yields_light b' w' led mode).queries]

theorem device_bind (same : SameBut R b b') {q : DeviceQuery}
    {f : Except Fault q.Payload → Program α} (h : steers (.device q) = true)
    (ok : ∀ r, SameRun R b b' (f (.ok r))) (error : ∀ e, SameRun R b b' (f (.error e))) :
    SameRun R b b' (Program.device q >>= f) := by
  refine .bind (.query same h) fun answer => ?_
  cases answer with
  | ok r => exact ok r
  | error e => exact error e

theorem allHealthy {κ : Type} {check : κ → Program Bool} {l : List κ}
    (h : ∀ k ∈ l, SameRun R b b' (check k)) : SameRun R b b' (Panel.allHealthy check l) := by
  induction l with
  | nil => exact .pure true
  | cons k l ih =>
    refine .bind (h k List.mem_cons_self) fun healthy => ?_
    cases healthy with
    | true => exact ih fun k hk => h k (List.mem_cons_of_mem _ hk)
    | false => exact .pure false

theorem mapM {κ : Type} {f : κ → Program α} (hf : ∀ k, SameRun R b b' (f k)) (l : List κ) :
    SameRun R b b' (l.mapM f) := by
  induction l with
  | nil => exact .pure []
  | cons k l ih =>
    rw [List.mapM_cons]
    exact (hf k).bind fun a => ih.bind fun as => .pure (a :: as)

theorem action_bind {x : Action α} {f : α → Action β} (hx : SameRun R b b' x.run)
    (hf : ∀ a, SameRun R b b' (f a).run) : SameRun R b b' (x >>= f).run := by
  refine SameRun.bind hx fun answer => ?_
  cases answer with
  | ok a => exact hf a
  | error e => exact .pure _

theorem lift (hp : SameRun R b b' p) : SameRun R b b' (ExceptT.lift p : Action α).run :=
  hp.bind fun a => .pure (Except.ok a)

end SameRun

/-- **An update runs alike on boards that differ in no more than that.** -/
theorem update_sameRun {R : σ → σ' → Prop} {b : Board σ} {b' : Board σ'} (same : SameBut R b b') :
    SameRun R b b' update.run := by
  have fan (f : Fan) : SameRun R b b' (fanHealthy f) :=
    .device_bind same rfl (fun _ => .pure _) fun _ => .bind (.tell _) fun _ => .pure false
  have supply (p : PowerSupply) : SameRun R b b' (supplyHealthy p) :=
    .device_bind same rfl (fun _ => .pure _) fun _ => .bind (.tell _) fun _ => .pure false
  have sensor : ∀ x ∈ systemSensors, SameRun R b b' (sensorHealthy x) := by
    intro x hx
    have outside : steers (sensorAccess x) = true := (List.mem_filter.1 hx).2
    exact .device_bind same outside (fun _ => .pure _) fun _ => .bind (.tell _) fun _ => .pure false
  have status : SameRun R b b' Watchdog.latched.run :=
    .action_bind (.query same rfl) fun _ => .pure _
  have system : SameRun R b b' updateSystem.run := by
    refine .action_bind status fun latched => ?_
    cases latched with
    | true => exact .lift (.light same _ _)
    | false => exact .lift ((SameRun.allHealthy sensor).bind fun _ => .light same _ _)
  refine .action_bind (.lift (.mapM (fun tray => ?_) trays)) fun _ => ?_
  · exact (SameRun.allHealthy fun f _ => fan f).bind fun _ => .light same _ _
  · refine .action_bind (.lift ((SameRun.allHealthy fun p _ => supply p).bind fun _ => ?_))
      fun _ => ?_
    · exact .light same _ _
    · exact .action_bind system fun _ => .pure _

end Panel

/-! ## Every update -/

open Panel in
/-- How an update ends that has begun with these accesses and lights LEDs with these modes. -/
inductive PanelEnd (b : Board σ) (w : σ) (t : List Entry) (m : Led → LedMode)
    (early : List Query) : Except Fault LedReport → Prop where
  /-- The status cannot be read: the LEDs before that of the system have been lit. -/
  | unread {e : Fault} (read : .asked statusAccess (.error e) ∈ t)
      (accesses : Program.queries t = early ++ [statusAccess])
      (set : settings (Program.queries t) =
        [(.fan1, m .fan1), (.fan2, m .fan2), (.fan3, m .fan3), (.fan4, m .fan4), (.psu, m .psu)]) :
      PanelEnd b w t m early (.error e)
  /-- All six LEDs have been lit, that of the system by the status and eleven sensors. -/
  | complete {status : Nat} {sensors : List Sensor} {modes : List (Led × LedMode)}
      (read : .asked statusAccess (.ok status) ∈ t)
      (system : SystemShows b w t status (Sensor.all.take 11) sensors (m .system))
      (accesses : Program.queries t = early ++
        statusAccess :: groupAccesses .sensor sensors (.system, m .system))
      (lit : modes =
        [(.fan1, m .fan1), (.fan2, m .fan2), (.fan3, m .fan3), (.fan4, m .fan4), (.psu, m .psu),
          (.system, m .system)])
      (set : settings (Program.queries t) = modes) : PanelEnd b w t m early (.ok ⟨modes⟩)

open Panel in
/-- What an update of the panel lights: each LED by the members that have been read for it. -/
structure PanelLit (b : Board σ) (w : σ) (t : List Entry) (r : Except Fault LedReport)
    (m : Led → LedMode) (fans : Led → List Fan) (supplies : List PowerSupply) : Prop where
  trays : ∀ e ∈ [(Led.fan1, 1, 2), (.fan2, 3, 4), (.fan3, 5, 6), (.fan4, 7, 8)],
    ∀ front rear : Fan, front.number = e.2.1 → rear.number = e.2.2 →
      Shows b w t .fan FanGood [front, rear] (fans e.1) (m e.1)
  psu : Shows b w t .supply SupplyGood PowerSupply.all supplies (m .psu)
  /-- The accesses for the trays come first, in order, then those for the supplies. -/
  ending : PanelEnd b w t m
    (([.fan1, .fan2, .fan3, .fan4] : List Led).flatMap
        (fun led => groupAccesses .fan (fans led) (led, m led)) ++
      groupAccesses .supply supplies (.psu, m .psu)) r

open Panel in
/-- What an update of the panel does. -/
structure PanelUpdate (b : Board σ) (w : σ) : Prop where
  /-- Each LED is asked for one mode, in order, after its members have been read, and the report
  says the same. -/
  lights : ∃ m fans supplies,
    PanelLit b w (update.run.run b w).trace (update.run.run b w).value m fans supplies
  /-- What the LEDs answer makes no difference, and neither do the sensors inside the supplies. -/
  independent : ∀ {σ' : Type} (R : σ → σ' → Prop) (b' : Board σ') (w' : σ'), SameBut R b b' →
    R w w' → (update.run.run b' w').value = (update.run.run b w).value ∧
      Program.queries (update.run.run b' w').trace = Program.queries (update.run.run b w).trace
  /-- A speed of 32 bits is judged by products of 64 bits, and none of them overflows. -/
  words : ∀ (f : Fan) (r : FanReading) (rpm : BitVec 32), r.rpm = rpm.toInt →
    fanWellWord f r rpm = some (fanWell f r)

/-- The LEDs that an update has lit. -/
theorem Panel.Updated.lights {m : Led → LedMode} {fans : Led → List Fan}
    {supplies : List PowerSupply} {r : Except Fault LedReport} {qs : List Query}
    (h : Panel.Updated b w m fans supplies r qs) :
    PanelLit b w (update.run.run b w).trace (update.run.run b w).value m fans supplies := by
  have accesses : Program.queries (update.run.run b w).trace = qs := h.yields.queries
  have once : (Program.queries (update.run.run b w).trace).Nodup := accesses.symm ▸ h.once
  have recorded : b.record w qs ⊆ (update.run.run b w).trace := by
    rw [← h.yields.answers]
    exact answers_subset _
  have answered : AnsweredBy b w (update.run.run b w).trace := by
    intro q a asked
    have recorded : .asked q a ∈ b.record w qs := by
      rw [← h.yields.answers]
      exact mem_answers.2 asked
    exact Board.answered_of_recorded recorded
  have tray : ∀ tray ∈ trays, Shows b w (update.run.run b w).trace .fan FanGood tray.2
      (fans tray.1) (m tray.1) := fun tray htray =>
    ((h.tray tray htray).mono recorded).shows once answered fun _ _ => rfl
  have named : ∀ {f : Fan} (slot : Fin 8), f.number = slot.val + 1 → f = .chassis slot :=
    fun _ hf => Fan.number_inj hf
  refine ⟨?trays, (h.psu.mono recorded).shows once answered fun _ _ => rfl, ?ending⟩
  case trays =>
    intro e he front rear hfront hrear
    simp only [List.mem_cons, List.not_mem_nil, or_false] at he
    rcases he with rfl | rfl | rfl | rfl
    · rw [named 0 hfront, named 1 hrear]
      exact tray (.fan1, [.chassis 0, .chassis 1]) (by decide)
    · rw [named 2 hfront, named 3 hrear]
      exact tray (.fan2, [.chassis 2, .chassis 3]) (by decide)
    · rw [named 4 hfront, named 5 hrear]
      exact tray (.fan3, [.chassis 4, .chassis 5]) (by decide)
    · rw [named 6 hfront, named 7 hrear]
      exact tray (.fan4, [.chassis 6, .chassis 7]) (by decide)
  case ending =>
    rw [h.yields.value]
    have ending := h.ending
    cases ending with
    | unread read =>
      refine .unread (recorded read) accesses ?_
      rw [accesses, settings_append, settings_early]
      rfl
    | complete read system =>
      have outside : ∀ x ∈ systemSensors, steers (.device (.sensor x)) = true :=
        fun x hx => (List.mem_filter.1 hx).2
      refine .complete (recorded read)
        ((system.mono recorded).shows once answered (recorded read) outside) accesses rfl ?_
      rw [accesses, settings_append, settings_early, settings_late]
      rfl

open Panel in
/-- **What the LEDs show**, on every board. -/
theorem panel_update (b : Board σ) (w : σ) : PanelUpdate b w where
  lights := by
    obtain ⟨m, fans, supplies, r, qs, updated⟩ := update_updated b w
    exact ⟨m, fans, supplies, updated.lights⟩
  independent R b' w' same related := by
    have run := update_sameRun same
    exact ⟨(run.value w w' related).symm, (run.queries w w' related).symm⟩
  words f r rpm same := fanWellWord_eq f same

section Trial

open Bench

/-- A cool bench on which a sensor has a shutdown limit below zero. -/
def negativeLimitWorld : World :=
  .patched 80 [.sensor .mnb (.ok { shutdown := some (-1) })]

/-- A limit that is neither zero nor above zero keeps no LED from being green. -/
theorem green_above_negative_limit :
    let o := Panel.update.run.run trialBoard negativeLimitWorld
    (∃ r, .asked (sensorAccess .mnb) (.ok r) ∈ o.trace ∧ r.limits.shutdown ≠ 0 ∧
      r.limits.shutdown < r.mcelsius) ∧
    ∃ report, o.value = .ok report ∧ report.mode? .system = some .green := by
  intro o
  have read : o.trace[26]? = some (.asked (sensorAccess .mnb)
      (.ok ⟨.mnb, true, false, 45000, ⟨0, -1⟩⟩)) := by rfl
  exact ⟨⟨_, List.mem_of_getElem? read, by decide, by decide⟩, _, rfl, by rfl⟩

end Trial

end SwitchThermal
