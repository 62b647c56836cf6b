/-!
# Blank characters

The characters with the Unicode property `White_Space`, and cutting them off both ends of a text.

* `isBlank` — membership in the property's ranges.
* `trimEnd`, `trim` — the text without its trailing blanks, and without leading and trailing blanks.
-/

set_option autoImplicit false

namespace SwitchThermal.Text

/-- The ranges of the Unicode property `White_Space`, first and last code point. -/
def blankRanges : List (Nat × Nat) :=
  [(0x9, 0xD), (0x20, 0x20), (0x85, 0x85), (0xA0, 0xA0), (0x1680, 0x1680), (0x2000, 0x200A),
   (0x2028, 0x2029), (0x202F, 0x202F), (0x205F, 0x205F), (0x3000, 0x3000)]

/-- Has the character the property `White_Space`? -/
def isBlank (c : Char) : Bool :=
  blankRanges.any fun r => decide (r.1 ≤ c.toNat) && decide (c.toNat ≤ r.2)

/-- The text without its trailing blanks. -/
def trimEnd (cs : List Char) : List Char :=
  (cs.reverse.dropWhile isBlank).reverse

/-- The text without leading and trailing blanks. -/
def trim (cs : List Char) : List Char :=
  trimEnd (cs.dropWhile isBlank)

/-- `trim` on strings. -/
def trimText (s : String) : String :=
  String.ofList (trim s.toList)

end SwitchThermal.Text
