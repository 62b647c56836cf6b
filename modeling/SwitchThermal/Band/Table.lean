import SwitchThermal.Band.Basic
import SwitchThermal.Chassis.Sensor

/-!
# Band tables

Which bands each sensor has.

* `BandTable` — the bands of the listed sensors; sensors that are not listed have none.
* `BandTable.ofEntries` — a table from entries in any order; the first entry of a sensor counts.
* `BandTable.relevant` — the sensors with an active band, in table order: the ones that steer the
  fans.
* `BandTable.board` — the bands of this board.
-/

set_option autoImplicit false

namespace SwitchThermal

/-- The bands of each listed sensor. -/
structure BandTable where
  cells : Cells Sensor Bands
  deriving DecidableEq, Repr

namespace BandTable

/-- The table with an entry added unless the sensor has one. -/
def addEntry (t : BandTable) (e : Sensor × Bands) : BandTable :=
  match t.cells.get? e.1 with
  | some _ => t
  | none => ⟨t.cells.insert e.1 e.2⟩

/-- The table of a list of entries; the first entry of a sensor counts. -/
def ofEntries (entries : List (Sensor × Bands)) : BandTable :=
  entries.foldl addEntry ⟨Cells.empty⟩

/-- The entries in table order. -/
def entries (t : BandTable) : List (Sensor × Bands) :=
  t.cells.toList

def bands (t : BandTable) (s : Sensor) : Bands :=
  (t.cells.get? s).getD Bands.none

def classify (t : BandTable) (s : Sensor) (mcelsius : Int) : Option Band :=
  (t.bands s).classify mcelsius

/-- The sensors with an active band, in table order. -/
def relevant (t : BandTable) : List Sensor :=
  (t.entries.filter fun e => e.2.relevant).map Prod.fst

/-- The table without one sensor. -/
def erase (t : BandTable) (s : Sensor) : BandTable :=
  ⟨t.cells.erase s⟩

/-- The bands of this board's sensors. -/
def boardBands : Sensor → Bands
  | .cpuCore0 | .cpuCore1 | .cpuCore2 | .cpuCore3 | .cpuPack | .nps =>
    .stepped 60000 65000 70000 90000 105000
  | .pex => .stepped 65000 70000 75000 95000 110000
  | .tcam => .stepped 50000 55000 60000 80000 95000
  | .front | .rear | .mnb | .psu1 | .psu2 => .none

/-- The table of this board, with an entry for every sensor. -/
def board : BandTable :=
  ofEntries (Sensor.all.map fun s => (s, boardBands s))

theorem board_bands (s : Sensor) : board.bands s = boardBands s := by
  cases s <;> rfl

end BandTable

end SwitchThermal
