import SwitchThermal.Proofs.Sweep

/-!
# What the speed rules do

The speeds that the rules for the bands ask for, compared with the current speed and with one
another.

* `Params.Ordered` — decay slows down, the climb speeds up, a fast rise no less than a steady climb,
  and the floor is not above full speed.
* `decay_le` — the cool rule never speeds up.
* `Rises`, `FirstRises`, `Reason` — the sensors that have risen fast, the first of them, and what
  the very hot rule may give as its reason.
* `escalate_eq_ok`, `escalate_cases` — what the very hot rule does.
* `target_mono` — a hotter band asks for no lower a speed, but for one stall below the floor.
-/

set_option autoImplicit false

namespace SwitchThermal

/-- The parameters are in their sensible order. -/
structure Params.Ordered (p : Params) : Prop where
  decay : p.decayFactor ≤ 100
  climb : 100 ≤ p.climbFactor
  rise : p.climbFactor ≤ p.riseFactor
  floor : p.floor ≤ p.full

theorem Params.standard_ordered : Params.standard.Ordered where
  decay := by decide
  climb := by decide
  rise := by decide
  floor := by decide

/-! ## Percentages -/

theorem scale_eq_ok {speed factor v : Nat} (h : scale speed factor = .ok v) :
    speed * factor < wordBound ∧ v = speed * factor / 100 := by
  unfold scale at h
  split at h
  · rename_i hlt
    cases h
    exact ⟨hlt, rfl⟩
  · cases h

theorem scale_le {speed factor v : Nat} (hf : factor ≤ 100) (h : scale speed factor = .ok v) :
    v ≤ speed := by
  obtain ⟨-, rfl⟩ := scale_eq_ok h
  refine Nat.div_le_of_le_mul ?_
  rw [Nat.mul_comm 100]
  exact Nat.mul_le_mul_left speed hf

theorem le_scale {speed factor v : Nat} (hf : 100 ≤ factor) (h : scale speed factor = .ok v) :
    speed ≤ v := by
  obtain ⟨-, rfl⟩ := scale_eq_ok h
  rw [Nat.le_div_iff_mul_le (by decide)]
  exact Nat.mul_le_mul_left speed hf

theorem scale_mono {speed factor factor' v v' : Nat} (hf : factor ≤ factor')
    (h : scale speed factor = .ok v) (h' : scale speed factor' = .ok v') : v ≤ v' := by
  obtain ⟨-, rfl⟩ := scale_eq_ok h
  obtain ⟨-, rfl⟩ := scale_eq_ok h'
  exact Nat.div_le_div_right (Nat.mul_le_mul_left speed hf)

/-! ## The cool rule -/

/-- What the cool rule does, and when. -/
theorem decay_cases {current : Nat} {s : ControlState} {p : Params} {a : Option Nat}
    (h : decay current s p = .ok a) :
    (a = none ∧ (s.cooldown ≠ 0 ∨ current ≤ p.floor)) ∨
      (s.cooldown = 0 ∧ p.floor < current ∧ current * p.decayFactor < wordBound ∧
        a = some (max (current * p.decayFactor / 100) p.floor)) := by
  unfold decay ControlState.cooledDown at h
  split at h
  · rename_i hot
    cases h
    exact .inl ⟨rfl, .inl (by simpa using hot)⟩
  · rename_i cool
    split at h
    · rename_i low
      cases h
      exact .inl ⟨rfl, .inr low⟩
    · rename_i high
      cases hs : scale current p.decayFactor with
      | error e =>
        rw [hs] at h
        cases h
      | ok v =>
        rw [hs] at h
        obtain ⟨fits, rfl⟩ := scale_eq_ok hs
        cases h
        exact .inr ⟨by simpa using cool, Nat.not_le.1 high, fits, rfl⟩

theorem decay_le {current : Nat} {s : ControlState} {p : Params} {a : Option Nat}
    (hp : p.Ordered) (h : decay current s p = .ok a) : a.getD current ≤ current := by
  rcases decay_cases h with ⟨rfl, -⟩ | ⟨-, high, fits, rfl⟩
  · exact Nat.le_refl _
  · have scaled : scale current p.decayFactor = .ok (current * p.decayFactor / 100) := by
      rw [scale, if_pos fits]
    have slower := scale_le hp.decay scaled
    show max _ _ ≤ current
    omega

/-! ## The very hot rule -/

section Hot

variable {current : Nat} {samples : Readings} {s : ControlState} {p : Params} {x y : Sensor}
  {d e : Int} {t : Trigger}

/-- Did some sensor rise fast? -/
def RoseFast (samples : Readings) (s : ControlState) (p : Params) : Prop :=
  ∃ x m, (x, m) ∈ samples.toList ∧ p.riseDelta < m - s.baselineOf x

/-- A sampled sensor has risen fast: by this much above its baseline, which is more than the
limit. -/
structure Rises (samples : Readings) (s : ControlState) (p : Params) (x : Sensor) (d : Int) :
    Prop where
  sampled : samples.get? x = some (s.baselineOf x + d)
  fast : p.riseDelta < d

/-- It is the first one in table order. -/
structure FirstRises (samples : Readings) (s : ControlState) (p : Params) (x : Sensor) (d : Int) :
    Prop where
  rises : Rises samples s p x d
  first : ∀ y e, Rises samples s p y e → Listed.rank x ≤ Listed.rank y

/-- The reasons to go faster. -/
inductive Reason (samples : Readings) (s : ControlState) (p : Params) : Trigger → Prop where
  | fastRise {x : Sensor} {d : Int} (first : FirstRises samples s p x d) :
    Reason samples s p (.fastRise x d)
  | steadyClimb (calm : ∀ x d, ¬ Rises samples s p x d) (cool : s.cooldown = 0) :
    Reason samples s p .steadyClimb

/-- There is no reason to go faster. -/
def NoReason (current : Nat) (samples : Readings) (s : ControlState) (p : Params) : Prop :=
  p.full ≤ current ∨ (∀ x d, ¬ Rises samples s p x d) ∧ 0 < s.cooldown

/-- The speed that goes with a reason, if the product fits. -/
def reasonSpeed (p : Params) (current : Nat) (t : Trigger) : Nat :=
  max (min (current * t.factor p / 100) p.full) p.floor

theorem Rises.of_sample {m : Int} (sampled : samples.get? x = some m)
    (fast : p.riseDelta < m - s.baselineOf x) : Rises samples s p x (m - s.baselineOf x) := by
  refine ⟨?_, fast⟩
  rw [sampled]
  congr 1
  omega

theorem roseFast_iff : RoseFast samples s p ↔ ∃ x d, Rises samples s p x d := by
  constructor
  · rintro ⟨x, m, listed, fast⟩
    exact ⟨x, _, .of_sample (Cells.mem_toList.1 listed) fast⟩
  · rintro ⟨x, d, sampled, fast⟩
    exact ⟨x, _, Cells.mem_toList.2 sampled, by omega⟩

theorem not_roseFast_iff : ¬ RoseFast samples s p ↔ ∀ x d, ¬ Rises samples s p x d := by
  rw [roseFast_iff]
  simp

theorem Rises.unique (h : Rises samples s p x d) (h' : Rises samples s p x e) : d = e := by
  have same := Option.some.inj (h.sampled.symm.trans h'.sampled)
  omega

theorem FirstRises.unique (h : FirstRises samples s p x d) (h' : FirstRises samples s p y e) :
    x = y ∧ d = e := by
  obtain rfl : x = y :=
    Listed.rank_inj (Nat.le_antisymm (h.first y e h'.rises) (h'.first x d h.rises))
  exact ⟨rfl, h.rises.unique h'.rises⟩

/-- There is at most one reason. -/
theorem Reason.unique {t' : Trigger} (h : Reason samples s p t) (h' : Reason samples s p t') :
    t = t' := by
  cases h with
  | fastRise first =>
    cases h' with
    | fastRise first' =>
      obtain ⟨rfl, rfl⟩ := first.unique first'
      rfl
    | steadyClimb calm cool => exact absurd first.rises (calm _ _)
  | steadyClimb calm cool =>
    cases h' with
    | fastRise first' => exact absurd first'.rises (calm _ _)
    | steadyClimb calm' cool' => rfl

/-- What some reason has, the only one has. -/
theorem Reason.exists_iff (h : Reason samples s p t) (P : Trigger → Prop) :
    (∃ t', Reason samples s p t' ∧ P t') ↔ P t := by
  constructor
  · rintro ⟨t', reason, holds⟩
    rwa [h.unique reason]
  · intro holds
    exact ⟨t, h, holds⟩

theorem Reason.not_noReason (h : Reason samples s p t) (slower : current < p.full) :
    ¬ NoReason current samples s p := by
  rintro (full | ⟨calm, hot⟩)
  · omega
  · cases h with
    | fastRise first => exact calm _ _ first.rises
    | steadyClimb _ cool => omega

theorem rise_eq_ok {m base d : Int} (h : rise m base = .ok d) : d = m - base := by
  unfold rise at h
  split at h
  · cases h
    rfl
  · cases h

/-- The search stops at the first entry that has risen fast. -/
theorem fastRiseIn_some {l : List (Sensor × Int)} (h : fastRiseIn s p l = .ok (some (x, d))) :
    ∃ before m after, l = before ++ (x, m) :: after ∧ d = m - s.baselineOf x ∧ p.riseDelta < d ∧
      ∀ y n, (y, n) ∈ before → n - s.baselineOf y ≤ p.riseDelta := by
  induction l with
  | nil => cases h
  | cons entry l ih =>
    obtain ⟨z, k⟩ := entry
    unfold fastRiseIn at h
    cases risen : rise k (s.baselineOf z) with
    | error o =>
      rw [risen] at h
      cases h
    | ok delta =>
      rw [risen] at h
      have delta_eq := rise_eq_ok risen
      simp only at h
      split at h
      · rename_i fast
        cases h
        exact ⟨[], k, l, rfl, delta_eq, fast, by simp⟩
      · rename_i slow
        obtain ⟨before, m, after, rfl, hd, fast, earlier⟩ := ih h
        refine ⟨(z, k) :: before, m, after, rfl, hd, fast, ?_⟩
        intro y n hmem
        rcases List.mem_cons.1 hmem with here | hmem
        · cases here
          omega
        · exact earlier y n hmem

theorem fastRiseIn_none {l : List (Sensor × Int)} (h : fastRiseIn s p l = .ok none) :
    ∀ x m, (x, m) ∈ l → m - s.baselineOf x ≤ p.riseDelta := by
  induction l with
  | nil => intro x m hmem; cases hmem
  | cons e l ih =>
    obtain ⟨x, m⟩ := e
    unfold fastRiseIn at h
    cases hr : rise m (s.baselineOf x) with
    | error e =>
      rw [hr] at h
      cases h
    | ok d =>
      rw [hr] at h
      obtain rfl := rise_eq_ok hr
      simp only at h
      split at h
      · cases h
      · rename_i slow
        intro y n hmem
        rcases List.mem_cons.1 hmem with heq | hmem
        · cases heq
          exact Int.not_lt.1 slow
        · exact ih h y n hmem

/-- The fast rise depends on the baseline alone. -/
theorem fastRiseIn_congr {s s' : ControlState} (same : s.baseline = s'.baseline) (p : Params)
    (l : List (Sensor × Int)) : fastRiseIn s p l = fastRiseIn s' p l := by
  have baselineOf : ∀ x, s.baselineOf x = s'.baselineOf x := by
    intro x
    unfold ControlState.baselineOf
    rw [same]
  induction l with
  | nil => rfl
  | cons e l ih => simp only [fastRiseIn, baselineOf, ih]

/-- The entries of a table are in table order, so the search finds the first sensor. -/
theorem firstRises_of_fastRise (h : fastRise samples s p = .ok (some (x, d))) :
    FirstRises samples s p x d := by
  obtain ⟨before, m, after, split, rfl, fast, slow⟩ := fastRiseIn_some h
  have sampled : samples.get? x = some m := by
    rw [← Cells.mem_toList, split]
    simp
  have sorted := Cells.sorted_toList samples
  rw [split, List.pairwise_append] at sorted
  have later := (List.pairwise_cons.1 sorted.2.1).1
  refine ⟨.of_sample sampled fast, ?_⟩
  intro y e rises
  have listed := Cells.mem_toList.2 rises.sampled
  rw [split, List.mem_append, List.mem_cons] at listed
  rcases listed with hmem | here | hmem
  · have below := slow y _ hmem
    have above := rises.fast
    omega
  · cases here
    exact Nat.le_refl _
  · exact Nat.le_of_lt (later _ hmem)

theorem not_rises_of_fastRise (h : fastRise samples s p = .ok none) : ¬ Rises samples s p x d := by
  intro rises
  have below := fastRiseIn_none h x _ (Cells.mem_toList.2 rises.sampled)
  have above := rises.fast
  omega

/-- Why the very hot rule acts, if it does. -/
theorem trigger_cases {r : Option Trigger} (h : trigger current samples s p = .ok r) :
    (r = none ∧ NoReason current samples s p) ∨
      ∃ t, r = some t ∧ current < p.full ∧ Reason samples s p t := by
  unfold trigger at h
  split at h
  · rename_i full
    cases h
    exact .inl ⟨rfl, .inl full⟩
  · rename_i slow
    have slower := Nat.not_le.1 slow
    split at h
    · cases h
    · rename_i x d found
      cases h
      exact .inr ⟨_, rfl, slower, .fastRise (firstRises_of_fastRise found)⟩
    · rename_i none
      have calm : ∀ x d, ¬ Rises samples s p x d := fun x d => not_rises_of_fastRise none
      by_cases cool : s.cooldown = 0
      · have elapsed : s.cooledDown = true := decide_eq_true cool
        rw [elapsed] at h
        cases h
        exact .inr ⟨_, rfl, slower, .steadyClimb calm cool⟩
      · have waiting : s.cooledDown = false := decide_eq_false cool
        rw [waiting] at h
        cases h
        exact .inl ⟨rfl, .inr ⟨calm, Nat.pos_of_ne_zero cool⟩⟩

/-- **What the very hot rule does**: nothing without a reason, and with one the speed that goes
with it. -/
theorem escalate_eq_ok {r : Option (Nat × Trigger)} (h : escalate current samples s p = .ok r) :
    (r = none ∧ NoReason current samples s p) ∨
      ∃ t, r = some (reasonSpeed p current t, t) ∧ current < p.full ∧ Reason samples s p t ∧
        current * t.factor p < wordBound := by
  unfold escalate at h
  split at h
  · cases h
  · rename_i found
    cases h
    rcases trigger_cases found with ⟨-, idle⟩ | ⟨t, some, -⟩
    · exact .inl ⟨rfl, idle⟩
    · cases some
  · rename_i t found
    rcases trigger_cases found with ⟨none, -⟩ | ⟨t', some, slower, reason⟩
    · cases none
    · cases some
      unfold Trigger.speed at h
      cases scaled : scale current (t.factor p) with
      | error o =>
        rw [scaled] at h
        cases h
      | ok v =>
        obtain ⟨fits, rfl⟩ := scale_eq_ok scaled
        rw [scaled] at h
        cases h
        exact .inr ⟨t, rfl, slower, reason, fits⟩

/-- Its speed alone, and when. -/
theorem escalate_cases {a : Option Nat}
    (h : ((escalate current samples s p).map fun r => r.map Prod.fst) = .ok a) :
    (a = none ∧ p.full ≤ current) ∨
      (a = none ∧ current < p.full ∧ ¬ RoseFast samples s p ∧ s.cooldown ≠ 0) ∨
      ∃ factor v, a = some (max (min v p.full) p.floor) ∧ scale current factor = .ok v ∧
        current < p.full ∧ (factor = p.riseFactor ∧ RoseFast samples s p ∨
          factor = p.climbFactor ∧ ¬ RoseFast samples s p ∧ s.cooldown = 0) := by
  cases rule : escalate current samples s p with
  | error o =>
    rw [rule] at h
    cases h
  | ok r =>
    rw [rule] at h
    cases h
    rcases escalate_eq_ok rule with ⟨rfl, idle⟩ | ⟨t, rfl, slower, reason, fits⟩
    · by_cases full : p.full ≤ current
      · exact .inl ⟨rfl, full⟩
      · obtain ⟨calm, hot⟩ := idle.resolve_left full
        exact .inr (.inl ⟨rfl, Nat.not_le.1 full, not_roseFast_iff.2 calm, Nat.ne_of_gt hot⟩)
    · refine .inr (.inr ⟨t.factor p, _, rfl, if_pos fits, slower, ?_⟩)
      cases reason with
      | fastRise first => exact .inl ⟨rfl, roseFast_iff.2 ⟨_, _, first.rises⟩⟩
      | steadyClimb calm cool => exact .inr ⟨rfl, not_roseFast_iff.2 calm, cool⟩

end Hot

/-! ## All bands -/

namespace Controller

variable {c : Controller} {current : Nat} {m m' : Readings} {s s' : ControlState}
  {a a' : Option Nat}

theorem override_eq_some {v : Nat}
    (h : c.override current = some v) : current < c.params.full ∧ v = c.params.full := by
  unfold override at h
  split at h
  · rename_i slow
    cases h
    exact ⟨slow, rfl⟩
  · cases h

theorem override_eq_none (h : c.override current = none) : c.params.full ≤ current := by
  unfold override at h
  split at h
  · cases h
  · rename_i fast
    exact Nat.not_lt.1 fast

/-- No band but the low one slows the fans down. -/
theorem le_target {band : Band} (hp : c.params.Ordered) (hb : band ≠ .low)
    (h : c.target band current m s = .ok a) : current ≤ a.getD current := by
  cases band with
  | low => exact absurd rfl hb
  | desired =>
    cases h
    exact Nat.le_refl _
  | high =>
    cases h
    split
    · rename_i slow
      exact Nat.le_of_lt slow
    · exact Nat.le_refl _
  | veryHigh =>
    rcases escalate_cases h with ⟨rfl, -⟩ | ⟨rfl, -⟩ | ⟨factor, v, rfl, hv, slow, hfactor⟩
    · exact Nat.le_refl _
    · exact Nat.le_refl _
    · have hle : 100 ≤ factor := by
        have := hp.climb
        have := hp.rise
        rcases hfactor with ⟨rfl, -⟩ | ⟨rfl, -⟩ <;> omega
      have := le_scale hle hv
      show current ≤ max (min v c.params.full) c.params.floor
      omega
  | critical =>
    cases h
    unfold override
    split
    · rename_i slow
      exact Nat.le_of_lt slow
    · exact Nat.le_refl _

/-- The two cool bands never speed the fans up. -/
theorem target_le {band : Band} (hp : c.params.Ordered) (hcool : band ≤ .desired)
    (h : c.target band current m s = .ok a) : a.getD current ≤ current := by
  have hrank : band.rank ≤ Band.desired.rank := hcool
  cases band with
  | low => exact decay_le hp h
  | desired =>
    cases h
    exact Nat.le_refl _
  | high | veryHigh | critical => exact absurd hrank (by decide)

/-- No band goes past full speed. -/
theorem target_le_full {band : Band} (hp : c.params.Ordered)
    (h : c.target band current m s = .ok a) : a.getD current ≤ max current c.params.full := by
  have := hp.floor
  cases band with
  | low =>
    have := decay_le hp h
    omega
  | desired =>
    cases h
    exact Nat.le_max_left _ _
  | high =>
    cases h
    split
    · show c.params.floor ≤ _
      omega
    · exact Nat.le_max_left _ _
  | veryHigh =>
    rcases escalate_cases h with ⟨rfl, -⟩ | ⟨rfl, -⟩ | ⟨factor, v, rfl, -⟩
    · exact Nat.le_max_left _ _
    · exact Nat.le_max_left _ _
    · show max (min v c.params.full) c.params.floor ≤ _
      omega
  | critical =>
    cases h
    unfold override
    split
    · exact Nat.le_max_right _ _
    · exact Nat.le_max_left _ _

theorem full_le_critical (h : c.target .critical current m s = .ok a) :
    max current c.params.full ≤ a.getD current := by
  cases h
  unfold override
  split
  · show _ ≤ c.params.full
    omega
  · show _ ≤ current
    omega

theorem high_eq (h : c.target .high current m s = .ok a) :
    a.getD current = max current c.params.floor := by
  cases h
  split
  · show c.params.floor = _
    omega
  · show current = _
    omega

/-- Above the floor, or when it acts at all, the very hot rule asks for no less than the hot one. -/
theorem high_le_veryHigh (hp : c.params.Ordered) (h : c.target .high current m s = .ok a)
    (h' : c.target .veryHigh current m' s' = .ok a') :
    a.getD current ≤ a'.getD current ∨
      (current < c.params.floor ∧ s'.cooldown ≠ 0 ∧ a' = none) := by
  rw [high_eq h]
  have climbs := le_target hp (by decide) h'
  rcases escalate_cases h' with ⟨rfl, fast⟩ | ⟨rfl, -, -, hot⟩ | ⟨factor, v, rfl, -⟩
  · have := hp.floor
    left
    show _ ≤ current
    omega
  · by_cases low : current < c.params.floor
    · exact .inr ⟨low, hot, rfl⟩
    · left
      show _ ≤ current
      omega
  · left
    change current ≤ max (min v c.params.full) c.params.floor at climbs
    show _ ≤ max (min v c.params.full) c.params.floor
    omega

/-- The very hot rule is monotone in whether a sensor rose fast. -/
theorem veryHigh_mono (hp : c.params.Ordered) (cool : s.cooldown = s'.cooldown)
    (rose : RoseFast m s c.params → RoseFast m' s' c.params)
    (h : c.target .veryHigh current m s = .ok a) (h' : c.target .veryHigh current m' s' = .ok a') :
    a.getD current ≤ a'.getD current := by
  have climbs := le_target hp (by decide) h'
  rcases escalate_cases h with ⟨rfl, -⟩ | ⟨rfl, -⟩ | ⟨factor, v, rfl, hv, slow, hfactor⟩
  · exact climbs
  · exact climbs
  rcases escalate_cases h' with ⟨-, fast⟩ | ⟨-, -, steady, hot⟩ |
    ⟨factor', v', rfl, hv', -, hfactor'⟩
  · omega
  · rcases hfactor with ⟨-, fast⟩ | ⟨-, -, cooled⟩
    · exact absurd (rose fast) steady
    · exact absurd (cool ▸ cooled) hot
  · have hle : factor ≤ factor' := by
      have := hp.rise
      rcases hfactor with ⟨rfl, fast⟩ | ⟨rfl, -⟩
      · rcases hfactor' with ⟨rfl, -⟩ | ⟨-, steady, -⟩
        · exact Nat.le_refl _
        · exact absurd (rose fast) steady
      · rcases hfactor' with ⟨rfl, -⟩ | ⟨rfl, -⟩ <;> omega
    have := scale_mono hle hv hv'
    show max (min v c.params.full) c.params.floor ≤ max (min v' c.params.full) c.params.floor
    omega

theorem decay_congr (cool : s.cooldown = s'.cooldown) (p : Params) :
    decay current s p = decay current s' p := by
  unfold decay ControlState.cooledDown
  rw [cool]

/-- The speed that a band asks for depends on the cooldown and on the baseline alone. -/
theorem target_congr (cool : s.cooldown = s'.cooldown) (same : s.baseline = s'.baseline)
    (band : Band) : c.target band current m s = c.target band current m s' := by
  cases band with
  | low => exact decay_congr cool c.params
  | desired | high | critical => rfl
  | veryHigh =>
    unfold target escalate trigger fastRise ControlState.cooledDown
    rw [fastRiseIn_congr same, cool]

/-- **A hotter band asks for no lower a speed**, but for the stall of the very hot rule below the
floor. -/
theorem target_mono {band band' : Band} (hp : c.params.Ordered) (hband : band ≤ band')
    (cool : s.cooldown = s'.cooldown) (rose : RoseFast m s c.params → RoseFast m' s' c.params)
    (h : c.target band current m s = .ok a) (h' : c.target band' current m' s' = .ok a') :
    a.getD current ≤ a'.getD current ∨
      (current < c.params.floor ∧ s'.cooldown ≠ 0 ∧ band = .high ∧ band' = .veryHigh ∧
        a' = none) := by
  by_cases hlow : band' = .low
  · subst hlow
    obtain rfl : band = .low := Band.rank_inj (Nat.le_zero.1 hband)
    change decay current s c.params = _ at h
    rw [decay_congr cool, show decay current s' c.params = .ok a' from h'] at h
    cases h
    exact .inl (Nat.le_refl _)
  have climbs := le_target hp hlow h'
  by_cases hcool : band ≤ .desired
  · exact .inl (Nat.le_trans (target_le hp hcool h) climbs)
  have hwarm : Band.desired.rank < band.rank := Nat.not_le.1 hcool
  have hrank : band.rank ≤ band'.rank := hband
  -- both bands are above the desired one
  cases band' with
  | low | desired => exact absurd (Nat.lt_of_lt_of_le hwarm hrank) (by decide)
  | critical => exact .inl (Nat.le_trans (target_le_full hp h) (full_le_critical h'))
  | high =>
    cases band with
    | low | desired => exact absurd hwarm (by decide)
    | high => exact .inl (Nat.le_of_eq ((high_eq h).trans (high_eq h').symm))
    | veryHigh | critical => exact absurd hrank (by decide)
  | veryHigh =>
    cases band with
    | low | desired => exact absurd hwarm (by decide)
    | high =>
      rcases high_le_veryHigh hp h h' with faster | ⟨low, hot, still⟩
      · exact .inl faster
      · exact .inr ⟨low, hot, rfl, rfl, still⟩
    | veryHigh => exact .inl (veryHigh_mono hp cool rose h h')
    | critical => exact absurd hrank (by decide)

end Controller

end SwitchThermal
