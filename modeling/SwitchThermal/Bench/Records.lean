import SwitchThermal.Board.Query

/-!
# A board of records

Devices without hardware, for trying the control loop on the bench: a table of readings and faults.
A reading is what the table holds; a setting is recorded, and changes no reading.

* `Records` — the table; `Records.healthy` is one with nothing amiss.
* `Records.devices` — the table as devices.
* `FanPatch`, `SensorPatch`, `SupplyPatch`, `RailPatch` — partial changes of a reading.
-/

set_option autoImplicit false

namespace SwitchThermal.Bench

/-- A setting that was accepted. -/
inductive Setting where
  | fan (f : Fan) (percentage : Nat)
  | led (led : Led) (mode : LedMode)
  deriving DecidableEq, Repr

/-- Readings and faults by entity, and the settings that were accepted. -/
structure Records where
  fans : Cells Fan (Except Fault FanReading)
  sensors : Cells Sensor (Except Fault SensorReading)
  supplies : Cells PowerSupply (Except Fault SupplyReading)
  rails : Cells Rail (Except Fault RailReading)
  fanFaults : Cells Fan Fault := Cells.empty
  ledFaults : Cells Led Fault := Cells.empty
  /-- The accepted settings, in order. -/
  settings : List Setting := []

/-! ## Healthy readings -/

/-- A fan that runs at a percentage of its greatest speed. -/
def runningFan (percentage : Nat) (f : Fan) : FanReading :=
  ⟨f, true, false, ((f.greatestRpm * percentage / 100 : Nat) : Int), percentage⟩

/-- A sensor at 45 degrees. -/
def coolSensor (s : Sensor) : SensorReading :=
  ⟨s, true, false, 45000, .ofSensor s⟩

/-- A supply that is there and powered. -/
def goodSupply (p : PowerSupply) : SupplyReading :=
  ⟨p, true, false, false⟩

/-- A rail in the middle of its span. -/
def goodRail (r : Rail) : RailReading :=
  ⟨r, true, false, 1000, ⟨900, 1100⟩⟩

/-- One reading for every entity of a kind. -/
def forAll {κ α : Type} [Listed κ] (reading : κ → α) : Cells κ (Except Fault α) :=
  Cells.ofList (Listed.all.map fun k => (k, .ok (reading k)))

theorem get?_forAll {κ α : Type} [Listed κ] [DecidableEq κ] (reading : κ → α) (k : κ) :
    (forAll reading).get? k = some (.ok (reading k)) := by
  unfold forAll Cells.ofList
  rw [List.foldl_map]
  exact (Cells.get?_foldl_insert _ _ _ k).trans (if_pos (Listed.mem_all k))

/-- A board with nothing amiss and its fans at a speed. -/
def Records.healthy (percentage : Nat) : Records where
  fans := forAll (runningFan percentage)
  sensors := forAll coolSensor
  supplies := forAll goodSupply
  rails := forAll goodRail

/-! ## Devices -/

/-- The table with a setting recorded, unless it is refused. -/
def Records.accept (t : Records) (refusal : Option Fault) (s : Setting) : Reply Records Unit :=
  match refusal with
  | some e => .quiet (.error e) t
  | none => .quiet (.ok ()) { t with settings := t.settings ++ [s] }

/-- The table as devices. -/
def Records.devices : Devices Records
  | .fan f, t => .quiet ((t.fans.get? f).getD (.ok (.absent f))) t
  | .sensor s, t => .quiet ((t.sensors.get? s).getD (.ok (coolSensor s))) t
  | .supply p, t => .quiet ((t.supplies.get? p).getD (.ok (goodSupply p))) t
  | .rail r, t => .quiet ((t.rails.get? r).getD (.ok (goodRail r))) t
  | .setFan f percentage, t => t.accept (t.fanFaults.get? f) (.fan f percentage)
  | .setLed led mode, t => t.accept (t.ledFaults.get? led) (.led led mode)

/-! ## Changes -/

/-- Changes of a fan reading; what is not named stays. -/
structure FanPatch where
  present : Option Bool := none
  failed : Option Bool := none
  rpm : Option Int := none
  percentage : Option Nat := none
  deriving DecidableEq, Repr

def FanPatch.apply (p : FanPatch) (r : FanReading) : FanReading :=
  ⟨r.fan, p.present.getD r.present, p.failed.getD r.failed, p.rpm.getD r.rpm,
    p.percentage.getD r.percentage⟩

/-- Changes of a sensor reading; what is not named stays. -/
structure SensorPatch where
  present : Option Bool := none
  failed : Option Bool := none
  mcelsius : Option Int := none
  warning : Option Int := none
  shutdown : Option Int := none
  deriving DecidableEq, Repr

def SensorPatch.apply (p : SensorPatch) (r : SensorReading) : SensorReading :=
  ⟨r.sensor, p.present.getD r.present, p.failed.getD r.failed, p.mcelsius.getD r.mcelsius,
    ⟨p.warning.getD r.limits.warning, p.shutdown.getD r.limits.shutdown⟩⟩

/-- Changes of a supply reading; what is not named stays. -/
structure SupplyPatch where
  present : Option Bool := none
  unplugged : Option Bool := none
  failed : Option Bool := none
  deriving DecidableEq, Repr

def SupplyPatch.apply (p : SupplyPatch) (r : SupplyReading) : SupplyReading :=
  ⟨r.supply, p.present.getD r.present, p.unplugged.getD r.unplugged, p.failed.getD r.failed⟩

/-- Changes of a rail reading; what is not named stays. -/
structure RailPatch where
  present : Option Bool := none
  failed : Option Bool := none
  millivolts : Option Int := none
  least : Option Int := none
  greatest : Option Int := none
  deriving DecidableEq, Repr

def RailPatch.apply (p : RailPatch) (r : RailReading) : RailReading :=
  ⟨r.rail, p.present.getD r.present, p.failed.getD r.failed, p.millivolts.getD r.millivolts,
    ⟨p.least.getD r.span.least, p.greatest.getD r.span.greatest⟩⟩

/-- A change of the table. -/
inductive Edit where
  | fan (f : Fan) (patch : Except Fault FanPatch)
  | chassisFans (percentage : Nat)
  | sensor (s : Sensor) (patch : Except Fault SensorPatch)
  | supply (p : PowerSupply) (patch : Except Fault SupplyPatch)
  | rail (r : Rail) (patch : Except Fault RailPatch)
  | fanFault (f : Fan) (fault : Option Fault)
  | ledFault (led : Led) (fault : Option Fault)

/-- The table with one entry patched or made to fail; `start` stands in for an entry without a
reading. -/
def patchCell {κ α π : Type} [Listed κ] (m : Cells κ (Except Fault α)) (k : κ) (start : α)
    (apply : π → α → α) (patch : Except Fault π) : Cells κ (Except Fault α) :=
  match patch with
  | .error e => m.insert k (.error e)
  | .ok p =>
    match m.get? k with
    | some (.ok r) => m.insert k (.ok (apply p r))
    | _ => m.insert k (.ok (apply p start))

/-- The table with a fault of an entity set or cleared. -/
def setFault {κ : Type} [Listed κ] (m : Cells κ Fault) (k : κ) : Option Fault → Cells κ Fault
  | some e => m.insert k e
  | none => m.erase k

/-- The table with a change made. -/
def Records.edit (t : Records) : Edit → Records
  | .fan f patch => { t with fans := patchCell t.fans f (.absent f) FanPatch.apply patch }
  | .chassisFans percentage =>
    let run := fun (m : Cells Fan (Except Fault FanReading)) f =>
      m.insert f (.ok (runningFan percentage f))
    { t with fans := Fan.chassisFans.foldl run t.fans }
  | .sensor s patch =>
    { t with sensors := patchCell t.sensors s (coolSensor s) SensorPatch.apply patch }
  | .supply p patch =>
    { t with supplies := patchCell t.supplies p (goodSupply p) SupplyPatch.apply patch }
  | .rail r patch => { t with rails := patchCell t.rails r (goodRail r) RailPatch.apply patch }
  | .fanFault f fault => { t with fanFaults := setFault t.fanFaults f fault }
  | .ledFault led fault => { t with ledFaults := setFault t.ledFaults led fault }

end SwitchThermal.Bench
