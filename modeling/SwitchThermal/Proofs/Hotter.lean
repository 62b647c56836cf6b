import SwitchThermal.Proofs.SpeedRules
import SwitchThermal.Proofs.Trial

/-!
# Hotter sensors, slower fans

Two passes from the same state on boards that differ in their temperatures only, the second one
nowhere cooler. The second pass mostly leaves the fans at least as fast. It need not, for two
reasons: the bands are open, so a temperature on a bound between two bands counts as cool; and below
the floor speed the hot band raises the fans at once, while the very hot one waits for the cooldown.

* `Bands.Adjoining`, `OffBands` — bands without gaps but for the bounds; a temperature between them.
* `classify_drop` — a hotter temperature is in a cooler band only if it is in no band.
* `Hotter` — what is assumed of the two boards.
* `hotter_never_slower_but` — the second pass leaves the fans at least as fast, or one of the two
  reasons applies.
-/

set_option autoImplicit false

namespace SwitchThermal

/-! ## Bands without gaps -/

namespace Bands

/-- Each band starts where the cooler one ends. -/
structure Adjoining (bs : Bands) : Prop where
  active : ∀ band, (bs.interval band).low < (bs.interval band).high
  desired : bs.desired.low = bs.low.high
  high : bs.high.low = bs.desired.high
  veryHigh : bs.veryHigh.low = bs.high.high
  critical : bs.critical.low = bs.veryHigh.high

/-- On an inner bound above the desired band's lower one, or at the top of the bands or above. -/
def OffBands (bs : Bands) (m : Int) : Prop :=
  m = bs.high.low ∨ m = bs.veryHigh.low ∨ m = bs.critical.low ∨ bs.critical.high ≤ m

variable {bs : Bands} {m m' : Int} {band : Band}

theorem Adjoining.of_stepped {d h v k t : Int} (desired : 0 < d) (high : d < h) (veryHigh : h < v)
    (critical : v < k) (ceiling : k < t) : (stepped d h v k t).Adjoining where
  active band := by cases band <;> assumption
  desired := rfl
  high := rfl
  veryHigh := rfl
  critical := rfl

theorem contains_of_classify (h : bs.classify m = some band) :
    (bs.interval band).low < m ∧ m < (bs.interval band).high := by
  have hc : (bs.interval band).contains m = true := by simpa using List.find?_some h
  simp only [Interval.contains, Bool.and_eq_true, decide_eq_true_eq] at hc
  exact ⟨hc.1.2, hc.2⟩

theorem not_contains_of_classify (hbs : bs.Adjoining) (h : bs.classify m = .none) (band : Band) :
    m ≤ (bs.interval band).low ∨ (bs.interval band).high ≤ m := by
  have hmem : band ∈ Band.hottestFirst := by cases band <;> decide
  have hc := List.find?_eq_none.1 h band hmem
  have hactive := hbs.active band
  simp only [Interval.contains, Interval.active, Bool.and_eq_true, decide_eq_true_eq] at hc
  omega

/-- A cooler band ends before a hotter one starts. -/
theorem Adjoining.high_le_low (hbs : bs.Adjoining) {band' : Band} (hlt : band' < band) :
    (bs.interval band').high ≤ (bs.interval band).low := by
  have hrank : band'.rank < band.rank := hlt
  have desired := hbs.active .desired
  have high := hbs.active .high
  have veryHigh := hbs.active .veryHigh
  have := hbs.desired
  have := hbs.high
  have := hbs.veryHigh
  have := hbs.critical
  simp only [interval] at desired high veryHigh
  cases band <;> cases band' <;> simp only [Band.rank] at hrank <;> simp only [interval] <;> omega

theorem Adjoining.low_le_low (hbs : bs.Adjoining) {band' : Band} (hle : band' ≤ band) :
    (bs.interval band').low ≤ (bs.interval band).low := by
  have hrank : band'.rank ≤ band.rank := hle
  rcases Nat.lt_or_eq_of_le hrank with hlt | heq
  · have := hbs.high_le_low (show band' < band from hlt)
    have := hbs.active band'
    omega
  · obtain rfl := Band.rank_inj heq
    exact Int.le_refl _

/-- A temperature that is no lower and in a cooler band, or in none, is off the bands. -/
theorem classify_drop (hbs : bs.Adjoining) (hm : m ≤ m') (h : bs.classify m = some band)
    (hdrop : heat (bs.classify m') < band.rank) : bs.classify m' = .none ∧ bs.OffBands m' := by
  obtain ⟨above, -⟩ := contains_of_classify h
  cases h' : bs.classify m' with
  | some band' =>
    rw [h'] at hdrop
    obtain ⟨-, below⟩ := contains_of_classify h'
    have := hbs.high_le_low (show band' < band from hdrop)
    omega
  | none =>
    refine ⟨rfl, ?_⟩
    have desired := not_contains_of_classify hbs h' .desired
    have high := not_contains_of_classify hbs h' .high
    have veryHigh := not_contains_of_classify hbs h' .veryHigh
    have critical := not_contains_of_classify hbs h' .critical
    have start : bs.desired.low ≤ (bs.interval band).low :=
      hbs.low_le_low (show Band.desired ≤ band from Nat.lt_of_le_of_lt (Nat.zero_le _) hdrop)
    have := hbs.high
    have := hbs.veryHigh
    have := hbs.critical
    simp only [interval] at desired high veryHigh critical
    unfold OffBands
    omega

end Bands

/-- The sensors that steer the fans have bands without gaps. -/
theorem board_adjoining : ∀ x ∈ BandTable.board.relevant, (BandTable.board.bands x).Adjoining := by
  intro x hx
  rw [BandTable.board_bands]
  cases x with
  | cpuCore0 | cpuCore1 | cpuCore2 | cpuCore3 | cpuPack | nps | pex | tcam =>
    exact .of_stepped (by decide) (by decide) (by decide) (by decide) (by decide)
  | front | rear | mnb | psu1 | psu2 => exact absurd hx (by decide)

/-! ## Two boards -/

variable {σ τ : Type}

/-- Two boards that differ in their temperatures only, the second one nowhere cooler. All fans and
supplies are healthy, all sensors that steer the fans are usable and below their shutdown limits,
and both boards accept every access of a pass. -/
structure Hotter (c : Controller) (b : Board σ) (w : σ) (b' : Board τ) (w' : τ) : Prop where
  clear : (b.round c.table w).Clear
  clear' : (b'.round c.table w').Clear
  fans : (b.round c.table w).fans = (b'.round c.table w').fans
  supplies : (b.round c.table w).supplies = (b'.round c.table w').supplies
  healthy : (b.round c.table w).problem = false
  usable : ∀ e ∈ (b.round c.table w).sensors, ∃ r, e.2 = .ok r ∧ r.usable = true
  usable' : ∀ e ∈ (b'.round c.table w').sensors, ∃ r, e.2 = .ok r ∧ r.usable = true
  hotter : ∀ x r r', (x, .ok r) ∈ (b.round c.table w).sensors →
    (x, .ok r') ∈ (b'.round c.table w').sensors → r.mcelsius ≤ r'.mcelsius
  calm : ∀ e ∈ (b.round c.table w).sensors, trips e = false
  calm' : ∀ e ∈ (b'.round c.table w').sensors, trips e = false
  accepts : ∀ v, (b (speedAccess .primary v) (b.after w c.roundAccesses)).answer = .ok ()
  accepts' : ∀ v, (b' (speedAccess .primary v) (b'.after w' c.roundAccesses)).answer = .ok ()

section Rounds

variable {c : Controller} {b : Board σ} {w : σ} {b' : Board τ} {w' : τ} {s : ControlState}

/-- On a board that accepts everything, a managed pass without overflow reports its command. -/
theorem managed_report {r : Except Halt PassReport} {s' : ControlState} {qs : List Query}
    (h : c.Managed b w s r s' qs)
    (calm : ∀ e ∈ (b.round c.table w).sensors, trips e = false)
    (accepts : ∀ v, (b (speedAccess .primary v) (b.after w c.roundAccesses)).answer = .ok ())
    (fits : ∀ e, r ≠ .error (.overflow e)) :
    ∃ applied, r = .ok ((b.round c.table w).report c.table applied) ∧
      c.command (b.round c.table w) s = .ok applied := by
  cases h with
  | tripped split first trip =>
    rw [calm _ (split ▸ List.mem_append_right _ List.mem_cons_self)] at trip
    cases trip
  | overflow calm exceeds => exact absurd rfl (fits _)
  | kept calm keep => exact ⟨none, rfl, keep⟩
  | applied calm change accepted follow => exact ⟨_, rfl, change⟩
  | refused calm change refused =>
    rw [accepts] at refused
    cases refused

namespace Hotter

/-- A sensor that is read on the first board has a usable reading on the second. -/
theorem reading (h : Hotter c b w b' w') {x : Sensor} {a : Except Fault SensorReading}
    (hx : (x, a) ∈ (b.round c.table w).sensors) :
    ∃ r', (x, .ok r') ∈ (b'.round c.table w').sensors ∧ r'.usable = true := by
  have polled : (b'.round c.table w').sensors.map Prod.fst =
      (b.round c.table w).sensors.map Prod.fst :=
    (map_fst_poll _ _ _).trans (map_fst_poll _ _ _).symm
  have listed : x ∈ (b'.round c.table w').sensors.map Prod.fst := by
    rw [polled]
    exact List.mem_map_of_mem hx
  obtain ⟨⟨y, a'⟩, he, rfl⟩ := List.mem_map.1 listed
  obtain ⟨r', rfl, usable⟩ := h.usable' _ he
  exact ⟨r', he, usable⟩

/-- A fast rise on the first board is one on the second. -/
theorem roseFast (h : Hotter c b w b' w') {s s' : ControlState} (base : s.baseline = s'.baseline)
    {p : Params} (rose : RoseFast ((b.round c.table w).sweep c.table).samples s p) :
    RoseFast ((b'.round c.table w').sweep c.table).samples s' p := by
  obtain ⟨x, m, hmem, fast⟩ := rose
  obtain ⟨r, hr, -, rfl⟩ := Sweep.reading_of_sample hmem
  obtain ⟨r₀, hr₀, usable⟩ := h.reading hr
  obtain ⟨m', hmem'⟩ := Sweep.sample_of_reading c.table hr₀ usable
  obtain ⟨r', hr', -, rfl⟩ := Sweep.reading_of_sample hmem'
  have warmer := h.hotter x r r' hr hr'
  refine ⟨x, r'.mcelsius, hmem', ?_⟩
  rw [show s'.baselineOf x = s.baselineOf x by unfold ControlState.baselineOf; rw [base]]
  exact Int.lt_of_lt_of_le fast (Int.sub_le_sub_right warmer _)

/-- A drop of the band takes a sensor whose temperature is off the bands on the second board. -/
theorem off_bands (h : Hotter c b w b' w') (table : c.table = .board)
    (hdrop : (b'.round c.table w').band c.table < (b.round c.table w).band c.table) :
    ∃ x r r' band, (x, .ok r) ∈ (b.round c.table w).sensors ∧
      (x, .ok r') ∈ (b'.round c.table w').sensors ∧
      c.table.classify x r.mcelsius = some band ∧ (b'.round c.table w').band c.table < band ∧
      c.table.classify x r'.mcelsius = none ∧ (c.table.bands x).OffBands r'.mcelsius := by
  have hotter : ∃ x r, (x, .ok r) ∈ (b.round c.table w).sensors ∧
      ((b'.round c.table w').band c.table).rank < heat (c.table.classify x r.mcelsius) := by
    refine Classical.byContradiction fun none_hotter => ?_
    have below : ((b.round c.table w).band c.table).rank ≤
        ((b'.round c.table w').band c.table).rank := by
      refine Sweep.rank_gather_le.2 ⟨Nat.zero_le _, fun x r hr _ => ?_⟩
      exact Nat.not_lt.1 fun hlt => none_hotter ⟨x, r, hr, hlt⟩
    exact absurd hdrop (Nat.not_lt.2 below)
  obtain ⟨x, r, hr, hheat⟩ := hotter
  obtain ⟨r', hr', usable⟩ := h.reading hr
  have adjoining : (c.table.bands x).Adjoining := by
    rw [table]
    exact board_adjoining x (table ▸ mem_round_relevant hr)
  -- the second band bounds all temperatures of the second board
  have cooler : heat (c.table.classify x r'.mcelsius) ≤
      ((b'.round c.table w').band c.table).rank :=
    (Sweep.rank_gather_le.1 (Nat.le_refl _)).2 x r' hr' usable
  cases hband : c.table.classify x r.mcelsius with
  | none =>
    rw [hband] at hheat
    exact absurd hheat (Nat.not_lt.2 (Nat.zero_le _))
  | some band =>
    rw [hband] at hheat
    obtain ⟨off, bound⟩ := Bands.classify_drop adjoining (h.hotter x r r' hr hr') hband
      (Nat.lt_of_le_of_lt cooler hheat)
    exact ⟨x, r, r', band, hr, hr', hband, hheat, off, bound⟩

end Hotter

end Rounds

/-! ## One sensor heated -/

section Heated

open Bench

theorem heated_calm {percentage : Nat} {y : Sensor} {m : Int} (hm : m ≤ 90000) :
    ∀ e ∈ (trialBoard.round trialController.table (.patched percentage [.heat y m])).sensors,
      trips e = false := by
  rintro ⟨x, a⟩ hx
  obtain rfl := mem_heated_sensors _ hx
  have limit : (Limits.ofSensor x).shutdown = 0 ∨ 90000 ≤ (Limits.ofSensor x).shutdown := by
    cases x <;> decide
  have below : (if x = y then m else 45000) ≤ 90000 := by
    split
    · exact hm
    · decide
  refine Bool.eq_false_iff.2 fun htrip => ?_
  simp [trips, SensorReading.usable, Limits.exceedsShutdown] at htrip
  omega

theorem heated_hotter (y : Sensor) {m m' : Int} (hm : m ≤ m') (hm' : m' ≤ 90000) :
    Hotter trialController trialBoard (.patched 80 [.heat y m]) trialBoard
      (.patched 80 [.heat y m']) where
  clear := heated_clear _
  clear' := heated_clear _
  fans := by rw [heated_fans, heated_fans]
  supplies := by rw [heated_supplies, heated_supplies]
  healthy := by
    unfold Round.problem
    rw [heated_fans, heated_supplies]
    decide
  usable e he := ⟨_, mem_heated_sensors _ he, rfl⟩
  usable' e he := ⟨_, mem_heated_sensors _ he, rfl⟩
  hotter x r r' hr hr' := by
    cases mem_heated_sensors _ hr
    cases mem_heated_sensors _ hr'
    show (if x = y then m else 45000) ≤ if x = y then m' else 45000
    split
    · exact hm
    · exact Int.le_refl _
  calm := heated_calm (Int.le_trans hm hm')
  calm' := heated_calm hm'
  accepts := trial_accepts _ rfl _
  accepts' := trial_accepts _ rfl _

end Heated

/-! ## The comparison -/

section Comparison

variable {c : Controller} {b : Board σ} {w : σ} {b' : Board τ} {w' : τ} {s : ControlState}

/-- **Hotter is never slower, but for two reasons.** From one state, the pass on the hotter board
leaves the fans at least as fast as the one on the other board; or the band has dropped, because a
sensor's temperature is off the bands; or the fans are below the floor speed during the cooldown,
and the very hot band leaves them where the hot one raises them to the floor. -/
theorem hotter_never_slower_but (table : c.table = .board) (params : c.params = .standard)
    (initialised : s.initialised = true) (enabled : s.enabled = true) (h : Hotter c b w b' w')
    (fits : ∀ e, (c.pass.runOn b s w).value.1 ≠ .error (.overflow e))
    (fits' : ∀ e, (c.pass.runOn b' s w').value.1 ≠ .error (.overflow e)) :
    ∃ applied applied',
      (c.pass.runOn b s w).value.1 = .ok ((b.round c.table w).report c.table applied) ∧
      (c.pass.runOn b' s w').value.1 = .ok ((b'.round c.table w').report c.table applied') ∧
      (applied.getD (b.round c.table w).speed ≤ applied'.getD (b'.round c.table w').speed ∨
        ((b'.round c.table w').band c.table < (b.round c.table w).band c.table ∧
          ∃ x r r' band, (x, .ok r) ∈ (b.round c.table w).sensors ∧
            (x, .ok r') ∈ (b'.round c.table w').sensors ∧
            c.table.classify x r.mcelsius = some band ∧
            (b'.round c.table w').band c.table < band ∧
            c.table.classify x r'.mcelsius = none ∧ (c.table.bands x).OffBands r'.mcelsius) ∨
        ((b.round c.table w).speed < 60 ∧ 1 < s.cooldown ∧
          (b.round c.table w).band c.table = .high ∧
          (b'.round c.table w').band c.table = .veryHigh ∧ applied' = none)) := by
  obtain ⟨r, s₁, qs, hends, hrun⟩ := c.pass_ends b w initialised
  obtain ⟨r', s₁', qs', hends', hrun'⟩ := c.pass_ends b' w' initialised
  rw [hrun.result] at fits
  rw [hrun'.result] at fits'
  obtain ⟨applied, rfl, command⟩ := managed_report (hends.managed_of_clear enabled h.clear)
    h.calm h.accepts fits
  obtain ⟨applied', rfl, command'⟩ := managed_report (hends'.managed_of_clear enabled h.clear')
    h.calm' h.accepts' fits'
  refine ⟨applied, applied', hrun.result, hrun'.result, ?_⟩
  have speed : (b'.round c.table w').speed = (b.round c.table w).speed := by
    unfold Round.speed
    rw [h.fans]
  have healthy' : (b'.round c.table w').problem = false := by
    have := h.healthy
    unfold Round.problem at this ⊢
    rwa [← h.fans, ← h.supplies]
  unfold Controller.command Controller.chosen at command command'
  rw [h.healthy, if_neg Bool.false_ne_true] at command
  rw [healthy', if_neg Bool.false_ne_true, speed] at command'
  rw [speed]
  have ordered : c.params.Ordered := by
    rw [params]
    exact Params.standard_ordered
  have cool : ((b.round c.table w).noted c.table s).cooldown =
      ((b'.round c.table w').noted c.table s).cooldown := rfl
  have base : ((b.round c.table w).noted c.table s).baseline =
      ((b'.round c.table w').noted c.table s).baseline := rfl
  by_cases hband : (b.round c.table w).band c.table ≤ (b'.round c.table w').band c.table
  · rcases Controller.target_mono ordered hband cool (h.roseFast base) command command' with
      faster | ⟨low, hot, high, veryHigh, still⟩
    · exact .inl faster
    · have cooling : s.cooldown - 1 ≠ 0 := hot
      rw [params] at low
      exact .inr (.inr ⟨low, by omega, high, veryHigh, still⟩)
  · have hdrop : (b'.round c.table w').band c.table < (b.round c.table w).band c.table :=
      Nat.not_le.1 hband
    exact .inr (.inl ⟨hdrop, h.off_bands table hdrop⟩)

end Comparison

section Runs

open Bench

/-- From 62 to 67 degrees the fans keep their 80 %. -/
theorem hotter_never_slower_but_at_67 :
    let w := World.patched 80 [.heat .cpuCore0 62000]
    let w' := World.patched 80 [.heat .cpuCore0 67000]
    ∃ applied applied',
      (trialPass (running 0) w).value.1 =
        .ok ((trialBoard.round trialController.table w).report trialController.table applied) ∧
      (trialPass (running 0) w').value.1 =
        .ok ((trialBoard.round trialController.table w').report trialController.table applied') ∧
      applied.getD 80 ≤ applied'.getD 80 := by
  have result : (trialPass (running 0) (.patched 80 [.heat .cpuCore0 62000])).value.1 =
      .ok (.managed .desired (some ⟨.cpuCore0, 62000⟩) false false none) := rfl
  have result' : (trialPass (running 0) (.patched 80 [.heat .cpuCore0 67000])).value.1 =
      .ok (.managed .high (some ⟨.cpuCore0, 67000⟩) false false none) := rfl
  obtain ⟨applied, applied', report, report', faster | ⟨drop, -⟩ | ⟨low, -⟩⟩ :=
    hotter_never_slower_but (s := running 0) rfl rfl rfl rfl
      (heated_hotter .cpuCore0 (show (62000 : Int) ≤ 67000 by decide) (by decide))
      (fun e he => by cases result.symm.trans he) (fun e he => by cases result'.symm.trans he)
  · exact ⟨applied, applied', report, report', faster⟩
  · exact absurd drop (by decide)
  · exact absurd low (by decide)

/-- **Hotter can be slower.** A core at 65 degrees is between two bands and counts as cool: the fans
slow down to 72 %. At 62 degrees they keep their 80 %. -/
theorem hotter_slower_on_bound :
    let w := World.patched 80 [.heat .cpuCore0 62000]
    let w' := World.patched 80 [.heat .cpuCore0 65000]
    trialController.table = .board ∧ trialController.params = .standard ∧
      (running 0).initialised = true ∧ (running 0).enabled = true ∧
      Hotter trialController trialBoard w trialBoard w' ∧
      (trialBoard.round trialController.table w).speed = 80 ∧
      (trialPass (running 0) w).value.1 =
        .ok (.managed .desired (some ⟨.cpuCore0, 62000⟩) false false none) ∧
      (trialPass (running 0) w').value.1 = .ok (.managed .low none false false (some 72)) :=
  ⟨rfl, rfl, rfl, rfl, heated_hotter .cpuCore0 (by decide) (by decide), rfl, rfl, rfl⟩

-- The second reason: at 55 %, during the cooldown, the hot band raises the fans and the very hot
-- one does not.
example :
    let s := { running 5 with baseline := Cells.ofList (Sensor.all.map fun x => (x, 68000)) }
    (trialPass s (.patched 55 [.heat .cpuCore0 69000])).value.1 =
        .ok (.managed .high (some ⟨.cpuCore0, 69000⟩) false false (some 60)) ∧
      (trialPass s (.patched 55 [.heat .cpuCore0 71000])).value.1 =
        .ok (.managed .veryHigh (some ⟨.cpuCore0, 71000⟩) false false none) :=
  ⟨rfl, rfl⟩

end Runs

end SwitchThermal
