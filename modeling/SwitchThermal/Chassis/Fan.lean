import SwitchThermal.Cells
import SwitchThermal.Fault

/-!
# Power supplies and fans

The chassis holds four fan trays of two fans each, and two power supplies with one fan each. Fans
are numbered from one: the front and rear fans of the trays in turn, then the supplies' fans.

* `PowerSupply`, `Fan` — the entities, with their numbers and names.
* `Fan.position`, `Fan.tray?` — where a fan sits; the position decides the speed limits.
* `Fan.leastRpm`, `Fan.greatestRpm`, `Fan.rpmValid` — the limits and the window of valid speeds,
  87 % of the least to 112 % of the greatest, both ends excluded.
* `Fan.ofNumber?_number` — numbering is faithful.
-/

set_option autoImplicit false

namespace SwitchThermal

/-- The two power supplies. -/
inductive PowerSupply where
  | first
  | second
  deriving DecidableEq, Repr

namespace PowerSupply

def all : List PowerSupply := [first, second]

def number : PowerSupply → Nat
  | first => 1
  | second => 2

def ofNumber? : Nat → Except Fault PowerSupply
  | 1 => .ok first
  | 2 => .ok second
  | n => .error (.invalidEntity ("psu " ++ toString n))

def label (p : PowerSupply) : String :=
  "PSU-" ++ toString p.number

instance : Listed PowerSupply :=
  Listed.ofNodup all (by intro p; cases p <;> decide) (by decide)

end PowerSupply

inductive FanPosition where
  | front
  | rear
  | supply
  deriving DecidableEq, Repr

def FanPosition.name : FanPosition → String
  | front => "front"
  | rear => "rear"
  | supply => "psu"

/-- The eight fans of the trays and the fans inside the supplies. -/
inductive Fan where
  | chassis (slot : Fin 8)
  | supply (p : PowerSupply)
  deriving DecidableEq, Repr

namespace Fan

/-- The fans of the trays, in ascending order. -/
def chassisFans : List Fan :=
  (List.finRange 8).map chassis

/-- The fans of the supplies, in ascending order. -/
def supplyFans : List Fan :=
  PowerSupply.all.map supply

def all : List Fan := chassisFans ++ supplyFans

/-- The chassis fan that carries the shared speed setting. -/
def primary : Fan := chassis 0

/-- The fans of each tray, front and rear. -/
def trays : List (List Fan) :=
  [[chassis 0, chassis 1], [chassis 2, chassis 3], [chassis 4, chassis 5], [chassis 6, chassis 7]]

def number : Fan → Nat
  | chassis slot => slot.val + 1
  | supply p => 8 + p.number

def ofNumber? (n : Nat) : Except Fault Fan :=
  if h : 1 ≤ n ∧ n ≤ 8 then .ok (chassis ⟨n - 1, by omega⟩)
  else if n = 9 then .ok (supply .first)
  else if n = 10 then .ok (supply .second)
  else .error (.invalidEntity ("fan " ++ toString n))

/-- Is it a fan of a tray? -/
def isChassis : Fan → Bool
  | chassis _ => true
  | supply _ => false

/-- The place of a fan; odd numbers are in front. -/
def position : Fan → FanPosition
  | chassis slot => if slot.val % 2 = 0 then .front else .rear
  | supply _ => .supply

/-- The tray that holds a chassis fan, two fans to a tray. -/
def tray? : Fan → Option Nat
  | chassis slot => some (slot.val / 2 + 1)
  | supply _ => none

/-- The supply that holds the fan. -/
def supply? : Fan → Option PowerSupply
  | chassis _ => none
  | supply p => some p

def label : Fan → String
  | chassis slot => "Chassis Fan " ++ toString (slot.val + 1)
  | supply p => p.label ++ " Fan"

/-! ## Speed limits -/

/-- The least speed at each place. -/
def leastRpm (f : Fan) : Nat :=
  match f.position with
  | .front => 6300
  | .rear => 5400
  | .supply => 0

/-- The greatest speed at each place. -/
def greatestRpm (f : Fan) : Nat :=
  match f.position with
  | .front => 21000
  | .rear => 18000
  | .supply => 18000

/-- Is the speed above 87 % of the least and below 112 % of the greatest? -/
def rpmValid (f : Fan) (rpm : Int) : Bool :=
  decide ((f.leastRpm : Int) * 87 < rpm * 100) && decide (rpm * 100 < (f.greatestRpm : Int) * 112)

/-! ## Numbering -/

theorem ofNumber?_number (f : Fan) : ofNumber? f.number = .ok f := by
  cases f with
  | chassis slot =>
    have h : 1 ≤ slot.val + 1 ∧ slot.val + 1 ≤ 8 := by omega
    simp [ofNumber?, number, h]
  | supply p => cases p <;> rfl

theorem number_inj {f g : Fan} (h : f.number = g.number) : f = g := by
  have hf := ofNumber?_number f
  rw [h, ofNumber?_number g] at hf
  exact (Except.ok.inj hf).symm

theorem mem_all (f : Fan) : f ∈ all := by
  cases f with
  | chassis slot => simp [all, chassisFans]
  | supply p => cases p <;> simp [all, supplyFans, PowerSupply.all]

instance : Listed Fan :=
  Listed.ofNodup all mem_all (by decide)

end Fan

end SwitchThermal
