import Mathlib.Data.Rat.Floor
import SwitchThermal.Bench.Trial
import SwitchThermal.Proofs.AttributeNumbers

/-!
# Fan speeds in percent

The speed of a fan that is there is compared with the greatest speed at its place. No speed that an
attribute can hold brings the quotient near the end of 32 bits, so the percentage is the quotient cut
to an integer.

* `AttributeTree.fanPercentage_eq_quotient` — the percentage is the quotient, for every speed that an
  attribute can hold.
* `AttributeTree.fanPercentage_eq_floor`, `AttributeTree.fanPercentage_mono`,
  `AttributeTree.fanPercentage_share`, `AttributeTree.fanPercentage_ge` — the quotient as a floor,
  its monotony, shares of the greatest speed, and the lower end of the valid window.
* `FanMeasured`, `fan_percentage` — what the reading of such a fan says.
-/

set_option autoImplicit false

namespace SwitchThermal

open Text (InInt32)

namespace AttributeTree

variable {t : FileTree} {root : TreePath} {f : Fan} {rpm rpm' : Int}

/-! ## Speeds and percentages -/

theorem greatestRpm_ge (f : Fan) : 18000 ≤ f.greatestRpm := by
  unfold Fan.greatestRpm
  cases f.position <;> decide

/-- The greatest speeds are full hundreds. -/
theorem hundred_dvd_greatestRpm (f : Fan) : 100 ∣ f.greatestRpm := by
  unfold Fan.greatestRpm
  cases f.position <;> decide

/-- 87 % of the least speed of a chassis fan is more than 26 % of its greatest one. -/
theorem leastRpm_chassis (chassis : f.isChassis = true) :
    f.greatestRpm * 26 ≤ f.leastRpm * 87 := by
  cases f with
  | supply p => cases chassis
  | chassis slot => revert slot; decide

/-- **The percentage is the quotient.** No speed that an attribute can hold is past the bound. -/
theorem fanPercentage_eq_quotient (fits : InInt32 rpm) :
    fanPercentage f rpm = (rpm * 100).toNat / f.greatestRpm ∧
      fanPercentage f rpm < 4294967295 := by
  have quotient : (rpm * 100).toNat / f.greatestRpm < 4294967295 := by
    have scaled : (rpm * 100).toNat < 18000 * 4294967295 := by
      unfold InInt32 Text.int32Max at fits
      omega
    have great : 18000 * 4294967295 ≤ f.greatestRpm * 4294967295 :=
      Nat.mul_le_mul_right _ (greatestRpm_ge f)
    exact Nat.div_lt_of_lt_mul (scaled.trans_le great)
  have exact : fanPercentage f rpm = (rpm * 100).toNat / f.greatestRpm :=
    if_pos (quotient.trans (by decide))
  exact ⟨exact, exact ▸ quotient⟩

theorem fanPercentage_eq_floor (fits : InInt32 rpm) (turns : 0 < rpm) :
    (fanPercentage f rpm : Int) = ⌊((rpm * 100 : Int) : ℚ) / f.greatestRpm⌋ := by
  have scaled : ((rpm * 100).toNat : Int) = rpm * 100 := Int.toNat_of_nonneg (by omega)
  rw [(fanPercentage_eq_quotient fits).1, Rat.floor_intCast_div_natCast, Int.natCast_ediv, scaled]

theorem fanPercentage_mono (fits : InInt32 rpm) (fits' : InInt32 rpm') (le : rpm ≤ rpm') :
    fanPercentage f rpm ≤ fanPercentage f rpm' := by
  rw [(fanPercentage_eq_quotient fits).1, (fanPercentage_eq_quotient fits').1]
  have scaled : (rpm * 100).toNat ≤ (rpm' * 100).toNat := by omega
  exact Nat.div_le_div_right scaled

/-- The speed at a percentage has that percentage. -/
theorem fanPercentage_share {q : Nat} (fits : InInt32 (f.greatestRpm * q / 100 : Nat)) :
    fanPercentage f (f.greatestRpm * q / 100 : Nat) = q := by
  have share : f.greatestRpm * q / 100 * 100 = f.greatestRpm * q :=
    Nat.div_mul_cancel (Dvd.dvd.mul_right (hundred_dvd_greatestRpm f) q)
  have scaled : (((f.greatestRpm * q / 100 : Nat) : Int) * 100).toNat = f.greatestRpm * q := by
    omega
  have great := greatestRpm_ge f
  rw [(fanPercentage_eq_quotient fits).1, scaled, Nat.mul_div_cancel_left q (by omega)]

/-- The speed of a valid chassis fan, in percent, is above the lower end of the valid window. -/
theorem fanPercentage_ge (fits : InInt32 rpm) (chassis : f.isChassis = true)
    (valid : (f.leastRpm : Int) * 87 < rpm * 100) : 26 ≤ fanPercentage f rpm := by
  have least := leastRpm_chassis chassis
  have great := greatestRpm_ge f
  have scaled : 26 * f.greatestRpm ≤ (rpm * 100).toNat := by omega
  rw [(fanPercentage_eq_quotient fits).1]
  exact (Nat.le_div_iff_mul_le (by omega)).2 scaled

end AttributeTree

/-! ## Readings -/

open AttributeTree (ShowsFan fanReading)

/-- What the reading of a fan that is there says of a speed. -/
structure FanMeasured (f : Fan) (rpm : Int) (r : FanReading) : Prop where
  fan : r.fan = f
  present : r.present = true
  speed : r.rpm = rpm
  still : rpm ≤ 0 → r.failed = true ∧ r.percentage = 0
  turning : 0 < rpm → r.failed = false ∧
    (r.percentage : Int) = ⌊((rpm * 100 : Int) : ℚ) / f.greatestRpm⌋
  /-- The value that stands for a quotient past 32 bits does not occur. -/
  exact : r.percentage < 4294967295
  /-- The window of valid speeds, in percent of the greatest speed. -/
  window : f.isChassis = true → f.rpmValid rpm = true →
    r.failed = false ∧ 26 ≤ r.percentage ∧ r.percentage ≤ 111
  share : ∀ q : Nat, 0 < q → rpm = (f.greatestRpm * q / 100 : Nat) → r.percentage = q

namespace AttributeTree

variable {f : Fan} {rpm rpm' : Int}

theorem fanReading_still (still : rpm ≤ 0) : fanReading f rpm = ⟨f, true, true, rpm, 0⟩ :=
  if_pos still

theorem fanReading_turning (turns : 0 < rpm) :
    fanReading f rpm = ⟨f, true, false, rpm, fanPercentage f rpm⟩ :=
  if_neg (Int.not_le.2 turns)

theorem measured_of_still (still : rpm ≤ 0) : FanMeasured f rpm (fanReading f rpm) := by
  rw [fanReading_still still]
  refine ⟨rfl, rfl, rfl, fun _ => ⟨rfl, rfl⟩, fun turns => ?turning,
    (by decide : 0 < 4294967295), fun _ valid => ?window, fun q some_speed share => ?share⟩
  case turning => omega
  case window =>
    simp only [Fan.rpmValid, Bool.and_eq_true, decide_eq_true_eq] at valid
    omega
  case share =>
    have great : 18000 * 1 ≤ f.greatestRpm * q := Nat.mul_le_mul (greatestRpm_ge f) some_speed
    omega

theorem measured_of_turning (fits : InInt32 rpm) (turns : 0 < rpm) :
    FanMeasured f rpm (fanReading f rpm) := by
  rw [fanReading_turning turns]
  refine ⟨rfl, rfl, rfl, fun still => ?still, fun _ => ⟨rfl, fanPercentage_eq_floor fits turns⟩,
    (fanPercentage_eq_quotient fits).2, fun chassis valid => ⟨rfl, ?window⟩, fun q _ share => ?share⟩
  case still => omega
  case window =>
    simp only [Fan.rpmValid, Bool.and_eq_true, decide_eq_true_eq] at valid
    exact ⟨fanPercentage_ge fits chassis valid.1, fanPercentage_le turns valid.2⟩
  case share =>
    subst share
    exact fanPercentage_share fits

/-- A faster fan does not show a smaller percentage. -/
theorem fanReading_mono (fits : InInt32 rpm) (fits' : InInt32 rpm') (le : rpm ≤ rpm') :
    (fanReading f rpm).percentage ≤ (fanReading f rpm').percentage := by
  by_cases still : rpm ≤ 0
  · rw [fanReading_still still]
    exact Nat.zero_le _
  · have turns : 0 < rpm := Int.not_le.1 still
    rw [fanReading_turning turns, fanReading_turning (turns.trans_le le)]
    exact fanPercentage_mono fits fits' le

end AttributeTree

/-- **Fan speeds in percent.** A fan that is there and shows a speed has a reading. If it does not
turn, it has failed, at 0 %; otherwise the percentage is the quotient cut to an integer. The
percentage does not fall when the speed rises. -/
theorem fan_percentage {t : FileTree} {root : TreePath} {f : Fan} {rpm : Int}
    (shown : ShowsFan t root f rpm) :
    ∃ r, AttributeTree.fan t root f = .ok r ∧ FanMeasured f rpm r ∧
      ∀ (t' : FileTree) (root' : TreePath) (rpm' : Int), ShowsFan t' root' f rpm' → rpm ≤ rpm' →
        ∃ r', AttributeTree.fan t' root' f = .ok r' ∧ r.percentage ≤ r'.percentage := by
  have fits : InInt32 rpm := Attribute.inInt32_of_readInt shown.speed
  refine ⟨fanReading f rpm, shown.fan_eq, ?measured, fun t' root' rpm' shown' le => ?monotone⟩
  case measured =>
    rcases lt_or_ge 0 rpm with turns | still
    · exact AttributeTree.measured_of_turning fits turns
    · exact AttributeTree.measured_of_still still
  case monotone =>
    have fits' : InInt32 rpm' := Attribute.inInt32_of_readInt shown'.speed
    exact ⟨fanReading f rpm', shown'.fan_eq, AttributeTree.fanReading_mono fits fits' le⟩

/-- An attribute tree with a rear fan at a speed. -/
def rearFanTree (rpm : Int) : FileTree where
  nodes := [(["bsp"], .directory), (["bsp", "module"], .directory), (["bsp", "fan"], .directory),
    Bench.numberFile ["module", "fan1_status"] 1, Bench.numberFile ["fan", "fan2_speed_get"] rpm]

/-- Every speed that an attribute can hold is one that a fan can show. -/
theorem rearFanTree_shows {rpm : Int} (fits : InInt32 rpm) :
    ShowsFan (rearFanTree rpm) (.ofText "/bsp") (.chassis 1) rpm where
  present := rfl
  speed := by
    have bytes : (rearFanTree rpm).readBytes
        (TreePath.child (.ofText "/bsp") ["fan", AttributeTree.speedFile (.chassis 1)]) =
          .ok (Runs.ofBytes (Text.encode (toString rpm))).toBytes := rfl
    have text : Attribute.readText (rearFanTree rpm)
        (TreePath.child (.ofText "/bsp") ["fan", AttributeTree.speedFile (.chassis 1)]) =
          .ok (toString rpm) := by
      rw [Attribute.readText, FileTree.readText, bytes, Runs.toBytes_ofBytes]
      simp only [Text.decode?_encode]
    rw [Attribute.readInt_of_readText text]
    exact Attribute.parseInt_toString fits

/-- A rear fan at the least speed that is valid, and one at its greatest speed. -/
theorem fan_percentage_at_bounds :
    ShowsFan (rearFanTree 4699) (.ofText "/bsp") (.chassis 1) 4699 ∧
    ShowsFan (rearFanTree 18000) (.ofText "/bsp") (.chassis 1) 18000 ∧
    ∃ r, AttributeTree.fan (rearFanTree 4699) (.ofText "/bsp") (.chassis 1) = .ok r ∧
      r.failed = false ∧ 26 ≤ r.percentage ∧
    ∃ r', AttributeTree.fan (rearFanTree 18000) (.ofText "/bsp") (.chassis 1) = .ok r' ∧
      r.percentage ≤ r'.percentage ∧ r'.percentage = 100 := by
  have slow : ShowsFan (rearFanTree 4699) (.ofText "/bsp") (.chassis 1) 4699 :=
    rearFanTree_shows (by decide)
  have fast : ShowsFan (rearFanTree 18000) (.ofText "/bsp") (.chassis 1) 18000 :=
    rearFanTree_shows (by decide)
  obtain ⟨r, read, measured, monotone⟩ := fan_percentage slow
  obtain ⟨r', read', measured', -⟩ := fan_percentage fast
  obtain ⟨working, least, -⟩ := measured.window rfl (by decide)
  obtain ⟨r'', read'', le⟩ := monotone _ _ _ fast (by decide)
  obtain rfl : r' = r'' := Except.ok.inj (read'.symm.trans read'')
  exact ⟨slow, fast, r, read, working, least, r', read', le, measured'.share 100 (by decide) rfl⟩

end SwitchThermal
