/-!
# Text between separators

* `Text.split` — the parts of a text between the occurrences of a character; there is always one
  more part than there are separators.
-/

set_option autoImplicit false

namespace SwitchThermal.Text

/-- The parts of a text between separators. -/
def split (separator : Char) : List Char → List (List Char)
  | [] => [[]]
  | c :: rest =>
    if c = separator then [] :: split separator rest
    else
      match split separator rest with
      | [] => [[c]]
      | part :: parts => (c :: part) :: parts

end SwitchThermal.Text
