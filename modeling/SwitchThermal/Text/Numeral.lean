import SwitchThermal.Text.DecimalDigit

/-!
# Decimal numerals

Reading unsigned and signed decimal numbers of bounded size.

* `digitsValue` — the number that a run of ASCII digits denotes, most significant first.
* `readNat` — one or more digits with an optional plus sign, below a bound.
* `readInt32` — one or more digits with an optional sign, in the signed 32-bit range.
-/

set_option autoImplicit false

namespace SwitchThermal.Text

/-- The value of one ASCII digit. -/
def digitValue (c : Char) : Nat :=
  c.toNat - 0x30

/-- The number that a run of ASCII digits denotes, most significant digit first. -/
def digitsValue (ds : List Char) : Nat :=
  ds.foldl (fun n d => 10 * n + digitValue d) 0

/-- The number that the text denotes if it is one or more ASCII digits. -/
def readDigits (cs : List Char) : Option Nat :=
  if cs ≠ [] ∧ cs.all isAsciiDigit then some (digitsValue cs) else none

/-- An optional plus sign and digits, denoting a number below `bound`. -/
def readNat (bound : Nat) (cs : List Char) : Option Nat :=
  let ds := match cs with
    | '+' :: r => r
    | r => r
  (readDigits ds).bind fun n => if n < bound then some n else none

/-- The least signed 32-bit integer. -/
def int32Min : Int := -2147483648

/-- The greatest signed 32-bit integer. -/
def int32Max : Int := 2147483647

/-- Is the integer in the signed 32-bit range? -/
def InInt32 (n : Int) : Prop := int32Min ≤ n ∧ n ≤ int32Max

instance (n : Int) : Decidable (InInt32 n) := by
  unfold InInt32
  infer_instance

/-- The integer that the text denotes: an optional sign and one or more ASCII digits. -/
def readSigned (cs : List Char) : Option Int :=
  match cs with
  | '-' :: r => (readDigits r).map fun n => -(n : Int)
  | '+' :: r => (readDigits r).map fun n => (n : Int)
  | r => (readDigits r).map fun n => (n : Int)

/-- A signed decimal integer in the signed 32-bit range. -/
def readInt32 (cs : List Char) : Option Int :=
  (readSigned cs).bind fun n => if InInt32 n then some n else none

end SwitchThermal.Text
