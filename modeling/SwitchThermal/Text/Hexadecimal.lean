/-!
# Hexadecimal numerals

* `hexText` — a number as `0x` and lower-case hexadecimal digits, without leading zeros.
* `isHexDigit`, `hexValue` — the digits of either case and the number that a run of them denotes.
-/

set_option autoImplicit false

namespace SwitchThermal.Text

/-- A number as `0x` followed by lower-case hexadecimal digits. -/
def hexText (n : Nat) : String :=
  "0x" ++ String.ofList (Nat.toDigits 16 n)

/-- The value of one hexadecimal digit of either case. -/
def hexDigitValue (c : Char) : Option Nat :=
  let n := c.toNat
  if 0x30 ≤ n ∧ n ≤ 0x39 then some (n - 0x30)
  else if 0x61 ≤ n ∧ n ≤ 0x66 then some (n - 0x61 + 10)
  else if 0x41 ≤ n ∧ n ≤ 0x46 then some (n - 0x41 + 10)
  else none

/-- Is the character a hexadecimal digit? -/
def isHexDigit (c : Char) : Bool :=
  (hexDigitValue c).isSome

/-- The number that a run of hexadecimal digits denotes, most significant first. -/
def hexValue (ds : List Char) : Nat :=
  ds.foldl (fun n d => 16 * n + (hexDigitValue d).getD 0) 0

end SwitchThermal.Text
