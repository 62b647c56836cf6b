import SwitchThermal.Control.Pass

/-!
# Health of fans and supplies

The survey at the start of a managed pass. A fan is healthy if it is present and its speed is valid,
a supply if it is present; a problem is logged when it begins, not while it lasts.

* `fanNotice`, `supplyNotice` — what a reading is worth logging for, given the reading before it.
* `FanSurvey`, `SupplySurvey` — the findings; the current speed is that of the last healthy fan.
* `surveyFans` — reads the chassis fans in order and stops at an unreadable one.
* `surveySupplies` — reads the supplies; an unreadable one is a problem.
-/

set_option autoImplicit false

namespace SwitchThermal

/-! ## Fans -/

/-- Is the fan there and its speed valid? -/
def FanReading.healthy (f : Fan) (r : FanReading) : Bool :=
  r.present && f.rpmValid r.rpm

/-- What a fan reading is worth logging for: an absence after a presence, or an invalid speed after
a valid one. -/
def fanNotice (previous : Option FanReading) (f : Fan) (r : FanReading) : Option Notice :=
  if !r.present then
    if previous.all fun q => q.present then some (.fanAbsent f) else none
  else if !f.rpmValid r.rpm then
    if previous.all fun q => f.rpmValid q.rpm then some (.fanSpeedInvalid f r.rpm) else none
  else none

/-- The findings about the chassis fans. -/
structure FanSurvey where
  /-- The speed of the last healthy fan, in percent; zero if there is none. -/
  current : Nat := 0
  problem : Bool := false
  /-- Has a problem been logged? -/
  reported : Bool := false
  deriving DecidableEq, Repr

/-- The findings after one more reading. -/
def FanSurvey.add (v : FanSurvey) (f : Fan) (r : FanReading) (reported : Bool) : FanSurvey :=
  if r.healthy f then { v with current := r.percentage }
  else { v with problem := true, reported := v.reported || reported }

/-- Reads one more fan. -/
def surveyFan (v : FanSurvey) (f : Fan) : Pass FanSurvey := do
  let r ← Pass.need (.fan f) fun e => .fanUnreadable f e
  let notice := fanNotice ((← get).previousFans.get? f) f r
  Pass.tellAll notice.toList
  modify fun s => { s with previousFans := s.previousFans.insert f r }
  return v.add f r notice.isSome

/-- Reads the chassis fans in order. -/
def surveyFans : Pass FanSurvey := do
  let v ← Fan.chassisFans.foldlM surveyFan {}
  if v.problem && v.reported then Pass.tell .fansProblem
  return v

/-! ## Supplies -/

/-- What a supply reading is worth logging for: an absence after a presence. -/
def supplyNotice (previous : Option SupplyReading) (p : PowerSupply) (r : SupplyReading) :
    Option Notice :=
  if !r.present then
    if previous.all fun q => q.present then some (.supplyAbsent p) else none
  else none

/-- The findings about the supplies. -/
structure SupplySurvey where
  problem : Bool := false
  /-- Has a problem been logged? -/
  reported : Bool := false
  /-- The records of the readable supplies, in order. -/
  records : List SupplyReading := []
  deriving DecidableEq, Repr

/-- Reads one more supply. -/
def surveySupply (v : SupplySurvey) (p : PowerSupply) : Pass SupplySurvey := do
  match ← Pass.ask (.supply p) with
  | .ok r =>
    let notice := supplyNotice ((← get).previousSupplies.get? p) p r
    Pass.tellAll notice.toList
    modify fun s => { s with previousSupplies := s.previousSupplies.insert p r }
    return ⟨v.problem || !r.present, v.reported || notice.isSome, v.records ++ [r]⟩
  | .error e =>
    Pass.tell (.supplyUnreadable p e)
    return { v with problem := true, reported := true }

/-- Reads the supplies in order. -/
def surveySupplies : Pass SupplySurvey := do
  let v ← PowerSupply.all.foldlM surveySupply {}
  if v.problem && v.reported then Pass.tell .suppliesProblem
  return v

end SwitchThermal
