import Mathlib.Logic.ExistsUnique
import SwitchThermal.Proofs.Maximum

/-!
# Bands from rising bounds

Stepped bands start at zero, and each bound ends one band and starts the next. With rising bounds they
share out the temperatures from zero to the last bound and leave out only the bounds themselves. With
any other bounds some bands are reversed or overlap, and the hottest one around a temperature counts.

* `Adjoining.le_of_inside`, `Adjoining.classify_eq_some_iff` — bands without gaps do not overlap, and
  a hotter temperature is in no cooler one.
* `Adjoining.classify_eq_none_iff` — the temperatures between such bands, below and above them.
* `relevant_eq_false_iff` — when a sensor has no active band.
* `Graduated` — what rising bounds do.
* `stepped_bands` — stepped bands with rising bounds, and with any.
-/

set_option autoImplicit false

namespace SwitchThermal.Bands

variable {bs : Bands} {m m' : Int} {band band' : Band}

/-! ## Bands without gaps -/

/-- A temperature that is no lower is in no cooler band. -/
theorem Adjoining.le_of_inside (hbs : bs.Adjoining) (hm : m ≤ m') (inside : bs.Inside m band)
    (inside' : bs.Inside m' band') : band ≤ band' := by
  by_contra cooler
  have ends : (bs.interval band').high ≤ (bs.interval band).low :=
    hbs.high_le_low (show band' < band from Nat.not_le.1 cooler)
  have above := inside.1
  have below := inside'.2
  omega

theorem Adjoining.eq_of_inside (hbs : bs.Adjoining) (inside : bs.Inside m band)
    (inside' : bs.Inside m band') : band = band' :=
  Band.rank_inj (Nat.le_antisymm (hbs.le_of_inside (Int.le_refl m) inside inside')
    (hbs.le_of_inside (Int.le_refl m) inside' inside))

/-- Of bands that do not overlap the one around a temperature is the hottest. -/
theorem Adjoining.classify_eq_some_iff (hbs : bs.Adjoining) :
    bs.classify m = some band ↔ bs.Inside m band := by
  constructor
  · exact contains_of_classify
  · intro inside
    cases h : bs.classify m with
    | none => exact absurd inside (not_inside_of_classify h band)
    | some other => rw [hbs.eq_of_inside (contains_of_classify h) inside]

theorem classify_eq_none_iff : bs.classify m = .none ↔ ∀ band, ¬ bs.Inside m band := by
  constructor
  · exact not_inside_of_classify
  · intro outside
    cases h : bs.classify m with
    | none => rfl
    | some band => exact absurd (contains_of_classify h) (outside band)

/-- A bound where a band starts is in no band. -/
theorem Adjoining.not_inside_low (hbs : bs.Adjoining) (other : Band) :
    ¬ bs.Inside (bs.interval other).low band := by
  rintro ⟨above, below⟩
  by_cases cooler : band < other
  · exact Int.not_lt.2 (hbs.high_le_low cooler) below
  · exact Int.not_lt.2 (hbs.low_le_low (show other ≤ band from Nat.not_lt.1 cooler)) above

/-- No band reaches past the critical one. -/
theorem Adjoining.high_le_critical (hbs : bs.Adjoining) (band : Band) :
    (bs.interval band).high ≤ bs.critical.high := by
  have active : bs.critical.low < bs.critical.high := hbs.active .critical
  cases band with
  | critical => exact Int.le_refl _
  | low | desired | high | veryHigh =>
    exact Int.le_trans (hbs.high_le_low (show _ < Band.critical by decide)) (Int.le_of_lt active)

/-- Out of all bands are the temperatures up to the lowest bound, those from the highest on, and the
bounds between. -/
theorem Adjoining.classify_eq_none_iff (hbs : bs.Adjoining) :
    bs.classify m = .none ↔ m ≤ bs.low.low ∨ bs.critical.high ≤ m ∨ m = bs.desired.low ∨
      m = bs.high.low ∨ m = bs.veryHigh.low ∨ m = bs.critical.low := by
  rw [Bands.classify_eq_none_iff]
  constructor
  · intro outside
    have offLow := outside .low
    have offDesired := outside .desired
    have offHigh := outside .high
    have offVeryHigh := outside .veryHigh
    have offCritical := outside .critical
    have desired := hbs.desired
    have high := hbs.high
    have veryHigh := hbs.veryHigh
    have critical := hbs.critical
    simp only [Inside, interval] at *
    omega
  · rintro (below | above | rfl | rfl | rfl | rfl) band
    · have start : bs.low.low ≤ (bs.interval band).low :=
        hbs.low_le_low (show Band.low ≤ band from Nat.zero_le _)
      exact fun inside => Int.not_lt.2 (Int.le_trans below start) inside.1
    · exact fun inside => Int.not_lt.2 (Int.le_trans (hbs.high_le_critical band) above) inside.2
    · exact hbs.not_inside_low .desired
    · exact hbs.not_inside_low .high
    · exact hbs.not_inside_low .veryHigh
    · exact hbs.not_inside_low .critical

/-! ## Any bands -/

/-- Inside an interval it is active. -/
theorem contains_iff_active :
    (bs.interval band).contains m = true ↔ (bs.interval band).active = true ∧ bs.Inside m band := by
  simp only [Interval.contains, Inside, Bool.and_eq_true, decide_eq_true_eq, and_assoc]

/-- Without an active band a sensor does not count. -/
theorem relevant_eq_false_iff :
    bs.relevant = false ↔ ∀ band, (bs.interval band).high ≤ (bs.interval band).low := by
  have all (band : Band) : band ∈ Band.hottestFirst := by cases band <;> decide
  simp only [relevant, List.any_eq_false, Interval.active, decide_eq_true_eq, Int.not_lt]
  exact ⟨fun h band => h band (all band), fun h band _ => h band⟩

theorem classify_of_irrelevant (h : bs.relevant = false) (m : Int) : bs.classify m = .none := by
  refine Bands.classify_eq_none_iff.2 fun band inside => ?_
  have reversed := relevant_eq_false_iff.1 h band
  have above := inside.1
  have below := inside.2
  omega

/-! ## Stepped bands -/

variable {d h v k t : Int}

/-- What rising bounds do. -/
structure Graduated (d h v k t : Int) : Prop where
  unclassified_iff : ∀ m, (stepped d h v k t).classify m = .none ↔
    m ≤ 0 ∨ t ≤ m ∨ m = d ∨ m = h ∨ m = v ∨ m = k
  /-- Every other temperature is inside one interval, and is classified as its band. -/
  unique : ∀ m, ¬ (m ≤ 0 ∨ t ≤ m ∨ m = d ∨ m = h ∨ m = v ∨ m = k) →
    ∃! band, (stepped d h v k t).Inside m band
  band_iff : ∀ m band, (stepped d h v k t).classify m = some band ↔
    (stepped d h v k t).Inside m band
  mono : ∀ m m' band band', m ≤ m' → (stepped d h v k t).classify m = some band →
    (stepped d h v k t).classify m' = some band' → band ≤ band'

theorem Graduated.of_adjoining (hbs : (stepped d h v k t).Adjoining) : Graduated d h v k t where
  unclassified_iff _ := hbs.classify_eq_none_iff
  unique m held := by
    cases classified : (stepped d h v k t).classify m with
    | none => exact absurd (hbs.classify_eq_none_iff.1 classified) held
    | some band =>
      have inside := hbs.classify_eq_some_iff.1 classified
      exact ⟨band, inside, fun band' inside' => hbs.eq_of_inside inside' inside⟩
  band_iff _ _ := hbs.classify_eq_some_iff
  mono _ _ _ _ hm classified classified' :=
    hbs.le_of_inside hm (contains_of_classify classified) (contains_of_classify classified')

theorem relevant_stepped_eq_false_iff :
    (stepped d h v k t).relevant = false ↔ d ≤ 0 ∧ h ≤ d ∧ v ≤ h ∧ k ≤ v ∧ t ≤ k := by
  rw [relevant_eq_false_iff]
  constructor
  · intro reversed
    exact ⟨reversed .low, reversed .desired, reversed .high, reversed .veryHigh, reversed .critical⟩
  · rintro ⟨low, desired, high, veryHigh, critical⟩ band
    cases band <;> assumption

/-- **Stepped bands.** Rising bounds share out the temperatures among the bands and leave out only
themselves. With bounds in any order a temperature is classified as the greatest band that is active
and around it, if there is one; and there is no active band just if the bounds never rise. -/
theorem stepped_bands (d h v k t : Int) :
    (0 < d → d < h → h < v → v < k → k < t → Graduated d h v k t) ∧
      (∀ m band, (stepped d h v k t).classify m = some band ↔
        IsGreatest {other | ((stepped d h v k t).interval other).active = true ∧
          (stepped d h v k t).Inside m other} band) ∧
      (∀ m, (stepped d h v k t).classify m = .none ↔
        ∀ band, ¬ (stepped d h v k t).Inside m band) ∧
      ((stepped d h v k t).relevant = false ↔ d ≤ 0 ∧ h ≤ d ∧ v ≤ h ∧ k ≤ v ∧ t ≤ k) ∧
      ((stepped d h v k t).relevant = false → ∀ m, (stepped d h v k t).classify m = .none) := by
  refine ⟨?_, ?_, fun _ => Bands.classify_eq_none_iff, relevant_stepped_eq_false_iff,
    classify_of_irrelevant⟩
  · intro desired high veryHigh critical ceiling
    exact .of_adjoining (.of_stepped desired high veryHigh critical ceiling)
  · intro m band
    have active (other : Band) :
        ((stepped d h v k t).interval other).active = true ∧ (stepped d h v k t).Inside m other ↔
          (stepped d h v k t).Inside m other :=
      contains_iff_active.symm.trans contains_iff_inside
    simp only [active]
    exact Bands.classify_eq_some_iff

/-- The bounds of the cores rise; with bounds that never rise nothing is classified. -/
theorem stepped_bands_of_cores :
    (0 : Int) < 60000 ∧ (60000 : Int) < 65000 ∧ (65000 : Int) < 70000 ∧ (70000 : Int) < 90000 ∧
      (90000 : Int) < 105000 ∧ Graduated 60000 65000 70000 90000 105000 ∧
      (stepped 0 (-5) (-5) (-7) (-9)).relevant = false ∧
      (stepped 0 (-5) (-5) (-7) (-9)).classify (-6) = .none :=
  ⟨by decide, by decide, by decide, by decide, by decide,
    (stepped_bands 60000 65000 70000 90000 105000).1 (by decide) (by decide) (by decide) (by decide)
      (by decide), by decide,
    (stepped_bands 0 (-5) (-5) (-7) (-9)).2.2.2.2 (by decide) (-6)⟩

end SwitchThermal.Bands
