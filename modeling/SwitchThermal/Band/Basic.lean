/-!
# Temperature bands

* `Band` — the five bands, from cool to critical, ordered by `Band.rank`.
* `Interval` — an open interval of temperatures; one that is empty or reversed is inactive.
* `Bands` — the interval of each band for one sensor; `Bands.classify` is the hottest band whose
  interval holds a temperature.
* `Bands.stepped` — adjoining bands from five rising bounds. The bounds themselves lie in no band.
-/

set_option autoImplicit false

namespace SwitchThermal

/-- The temperature bands, from cool to hot. -/
inductive Band where
  | low
  | desired
  | high
  | veryHigh
  | critical
  deriving DecidableEq, Repr

namespace Band

/-- The bands from hot to cool: the order in which they are tried on a temperature. -/
def hottestFirst : List Band :=
  [critical, veryHigh, high, desired, low]

/-- The position of a band from cool to hot. -/
def rank : Band → Nat
  | low => 0
  | desired => 1
  | high => 2
  | veryHigh => 3
  | critical => 4

instance : LT Band := ⟨fun a b => a.rank < b.rank⟩

instance : LE Band := ⟨fun a b => a.rank ≤ b.rank⟩

instance (a b : Band) : Decidable (a < b) :=
  inferInstanceAs (Decidable (a.rank < b.rank))

instance (a b : Band) : Decidable (a ≤ b) :=
  inferInstanceAs (Decidable (a.rank ≤ b.rank))

/-- The name of a band in reports. -/
def name : Band → String
  | low => "low"
  | desired => "desired"
  | high => "high"
  | veryHigh => "very_high"
  | critical => "critical"

/-- The name of a band in messages. -/
def label : Band → String
  | low => "low"
  | desired => "desired"
  | high => "high"
  | veryHigh => "very high"
  | critical => "critical"

/-- The identifier of a band in structured message fields. -/
def identifier : Band → String
  | low => "Low"
  | desired => "Desired"
  | high => "High"
  | veryHigh => "VeryHigh"
  | critical => "Critical"

def ofName? (s : String) : Option Band :=
  hottestFirst.find? fun b => b.name = s

end Band

/-- An open interval of temperatures in thousandths of a degree. -/
structure Interval where
  low : Int
  high : Int
  deriving DecidableEq, Repr

namespace Interval

/-- The interval of a band that a sensor does not have. -/
def inactive : Interval := ⟨0, 0⟩

/-- Is the upper bound above the lower one? -/
def active (i : Interval) : Bool :=
  decide (i.low < i.high)

/-- Is the temperature strictly inside an active interval? -/
def contains (i : Interval) (mcelsius : Int) : Bool :=
  i.active && decide (i.low < mcelsius) && decide (mcelsius < i.high)

end Interval

/-- The intervals of the five bands for one sensor. -/
structure Bands where
  low : Interval
  desired : Interval
  high : Interval
  veryHigh : Interval
  critical : Interval
  deriving DecidableEq, Repr

namespace Bands

/-- No active band. -/
def none : Bands :=
  ⟨.inactive, .inactive, .inactive, .inactive, .inactive⟩

/-- Adjoining bands: `low` starts at zero, each further bound ends one band and starts the next. -/
def stepped (desired high veryHigh critical ceiling : Int) : Bands :=
  ⟨⟨0, desired⟩, ⟨desired, high⟩, ⟨high, veryHigh⟩, ⟨veryHigh, critical⟩, ⟨critical, ceiling⟩⟩

def interval (bs : Bands) : Band → Interval
  | .low => bs.low
  | .desired => bs.desired
  | .high => bs.high
  | .veryHigh => bs.veryHigh
  | .critical => bs.critical

/-- Has the sensor an active band? -/
def relevant (bs : Bands) : Bool :=
  Band.hottestFirst.any fun b => (bs.interval b).active

/-- The hottest band whose interval holds the temperature. -/
def classify (bs : Bands) (mcelsius : Int) : Option Band :=
  Band.hottestFirst.find? fun b => (bs.interval b).contains mcelsius

end Bands

end SwitchThermal
