import Mathlib.Data.List.TakeWhile
import Mathlib.Data.Nat.Digits.Defs
import SwitchThermal.Register.Helper

/-!
# Values in the output of the helper program

A read finds its value at the first place of the output where a marker is followed by a hexadecimal
digit, and takes all the digits there.

* `StartsValue`, `Valueless` — a value begins here, or nowhere.
* `FirstValue` — an output split at its first value. `valueDigits?_eq_some_iff` finds this split.
* `hexValue_toDigits` — the digits of a number denote it.
* `StartsValue.of_append` — no value begins before a marker and reaches into it.
* `output_read` — which outputs have which value, and that what is written after a text without
  values is read back.
-/

set_option autoImplicit false

namespace SwitchThermal

open Text (isHexDigit hexValue)

/-! ## Places of values -/

/-- What stands before the digits of a value. -/
def marker : List Char := ['=', ' ', '0', 'x']

/-- A value begins here: the marker, and a hexadecimal digit right after it. -/
def StartsValue (cs : List Char) : Prop :=
  ∃ d rest, cs = marker ++ d :: rest ∧ isHexDigit d = true

/-- No value begins anywhere in the text. -/
def Valueless (cs : List Char) : Prop :=
  ∀ i, ¬ StartsValue (cs.drop i)

/-- A text split at its first value, with all the digits of that value. -/
structure FirstValue (cs before digits after : List Char) : Prop where
  split : cs = before ++ (marker ++ (digits ++ after))
  some_digit : digits ≠ []
  all_digits : ∀ d ∈ digits, isHexDigit d = true
  /-- The run of digits is not cut short. -/
  maximal : ∀ d rest, after = d :: rest → isHexDigit d = false
  leftmost : ∀ i < before.length, ¬ StartsValue (cs.drop i)

theorem not_startsValue_nil : ¬ StartsValue [] := by
  rintro ⟨d, rest, split, -⟩
  cases split

/-- A run of digits with no digit after it is all that is taken. -/
theorem takeWhile_digits {digits after : List Char} (all : ∀ d ∈ digits, isHexDigit d = true)
    (maximal : ∀ d rest, after = d :: rest → isHexDigit d = false) :
    (digits ++ after).takeWhile isHexDigit = digits := by
  rw [List.takeWhile_append_of_pos all]
  cases after with
  | nil => simp
  | cons d rest => rw [List.takeWhile_cons, maximal d rest rfl]; simp

/-! ## The search -/

theorem valueDigits?_of_starts {cs : List Char} (h : StartsValue cs) :
    valueDigits? cs = some ((cs.drop marker.length).takeWhile isHexDigit) := by
  obtain ⟨d, rest, rfl, digit⟩ := h
  rw [List.drop_left]
  simp only [marker, List.cons_append, List.nil_append, valueDigits?, if_pos digit]

theorem valueDigits?_of_not_starts {c : Char} {rest : List Char} (h : ¬ StartsValue (c :: rest)) :
    valueDigits? (c :: rest) = valueDigits? rest := by
  rw [valueDigits?.eq_def]
  simp only
  split
  · rename_i d r
    split
    · rename_i digit
      exact absurd ⟨d, r, rfl, digit⟩ h
    · rfl
  · rfl

/-- The search passes over what no value begins in. -/
theorem valueDigits?_append {before cs : List Char}
    (none : ∀ i < before.length, ¬ StartsValue ((before ++ cs).drop i)) :
    valueDigits? (before ++ cs) = valueDigits? cs := by
  induction before with
  | nil => rfl
  | cons c before ih =>
    have here : ¬ StartsValue (c :: (before ++ cs)) := none 0 (Nat.succ_pos _)
    rw [List.cons_append, valueDigits?_of_not_starts here]
    exact ih fun i hi => none (i + 1) (Nat.succ_lt_succ hi)

/-- The search finds the first value. -/
theorem firstValue_of_valueDigits? {cs digits : List Char} (h : valueDigits? cs = some digits) :
    ∃ before after, FirstValue cs before digits after := by
  induction cs with
  | nil => cases h
  | cons c rest ih =>
    by_cases starts : StartsValue (c :: rest)
    · rw [valueDigits?_of_starts starts] at h
      obtain ⟨d, r, split, digit⟩ := starts
      rw [split, List.drop_left] at h
      cases h
      refine ⟨[], (d :: r).dropWhile isHexDigit, ?_, ?_, ?_, ?_, ?_⟩
      · rw [split, List.takeWhile_append_dropWhile, List.nil_append]
      · rw [List.takeWhile_cons, if_pos digit]
        nofun
      · exact fun x hx => List.mem_takeWhile_imp hx
      · intro x more after
        have stop := List.head_dropWhile_not isHexDigit (l := d :: r) (by rw [after]; nofun)
        simp only [after] at stop
        exact stop
      · nofun
    · rw [valueDigits?_of_not_starts starts] at h
      obtain ⟨before, after, found⟩ := ih h
      refine ⟨c :: before, after, congrArg (c :: ·) found.split, found.some_digit, found.all_digits,
        found.maximal, ?_⟩
      intro i hi
      cases i with
      | zero => exact starts
      | succ i => exact found.leftmost i (Nat.lt_of_succ_lt_succ hi)

theorem FirstValue.startsValue {cs before digits after : List Char}
    (h : FirstValue cs before digits after) : StartsValue (marker ++ (digits ++ after)) := by
  obtain ⟨d, ds, rfl⟩ := List.exists_cons_of_ne_nil h.some_digit
  exact ⟨d, ds ++ after, rfl, h.all_digits d List.mem_cons_self⟩

theorem FirstValue.valueDigits? {cs before digits after : List Char}
    (h : FirstValue cs before digits after) : valueDigits? cs = some digits := by
  have starts := h.startsValue
  obtain ⟨rfl, -, all, maximal, leftmost⟩ := h
  rw [valueDigits?_append leftmost, valueDigits?_of_starts starts, List.drop_left,
    takeWhile_digits all maximal]

/-- **The digits that a read finds** are those of the first value. -/
theorem valueDigits?_eq_some_iff {cs digits : List Char} :
    valueDigits? cs = some digits ↔ ∃ before after, FirstValue cs before digits after :=
  ⟨firstValue_of_valueDigits?, fun ⟨_, _, found⟩ => found.valueDigits?⟩

theorem valueDigits?_eq_none_iff {cs : List Char} : valueDigits? cs = none ↔ Valueless cs := by
  constructor
  · intro h i
    induction cs generalizing i with
    | nil => rw [List.drop_nil]; exact not_startsValue_nil
    | cons c rest ih =>
      have here : ¬ StartsValue (c :: rest) := by
        intro starts
        rw [valueDigits?_of_starts starts] at h
        cases h
      rw [valueDigits?_of_not_starts here] at h
      cases i with
      | zero => exact here
      | succ i => exact ih h i
  · intro h
    have passed : valueDigits? (cs ++ []) = valueDigits? [] := valueDigits?_append fun i _ => by
      rw [List.append_nil]
      exact h i
    rwa [List.append_nil] at passed

/-! ## Numbers as hexadecimal digits -/

theorem hexValue_concat (ds : List Char) (d : Char) :
    hexValue (ds ++ [d]) = 16 * hexValue ds + (Text.hexDigitValue d).getD 0 := by
  rw [hexValue, List.foldl_append]
  rfl

theorem hexDigitValue_digitChar {n : Nat} (h : n < 16) :
    Text.hexDigitValue n.digitChar = some n := by
  have all : ∀ n < 16, Text.hexDigitValue n.digitChar = some n := by decide
  exact all n h

theorem isHexDigit_digitChar {n : Nat} (h : n < 16) : isHexDigit n.digitChar = true := by
  rw [isHexDigit, hexDigitValue_digitChar h]
  rfl

/-- The hexadecimal digits of a number are digits that denote it. -/
theorem hexValue_toDigits (n : Nat) :
    (∀ d ∈ Nat.toDigits 16 n, isHexDigit d = true) ∧ hexValue (Nat.toDigits 16 n) = n := by
  induction n using Nat.strong_induction_on with
  | _ n ih =>
    by_cases small : n < 16
    · rw [Nat.toDigits_of_lt_base small]
      refine ⟨fun d hd => ?_, ?_⟩
      · obtain rfl := List.mem_singleton.1 hd
        exact isHexDigit_digitChar small
      · simp [hexValue, hexDigitValue_digitChar small]
    · have large := Nat.not_lt.1 small
      have low : n % 16 < 16 := Nat.mod_lt n (by decide)
      obtain ⟨digits, value⟩ := ih (n / 16) (Nat.div_lt_self (by omega) (by decide))
      rw [Nat.toDigits_of_base_le (by decide) large]
      refine ⟨fun d hd => ?_, ?_⟩
      · rcases List.mem_append.1 hd with hd | hd
        · exact digits d hd
        · obtain rfl := List.mem_singleton.1 hd
          exact isHexDigit_digitChar low
      · rw [hexValue_concat, value, hexDigitValue_digitChar low]
        exact Nat.div_add_mod n 16

/-! ## Values after other text -/

/-- No value begins in a text and reaches past its end, if an equals sign stands there: the marker
has none but its first, and none is a digit. -/
theorem StartsValue.of_append {text rest : List Char} (h : StartsValue (text ++ '=' :: rest))
    (some : text ≠ []) : StartsValue text := by
  obtain ⟨d, r, split, digit⟩ := h
  match text, some, split with
  | [_], _, split => simp [marker] at split
  | [_, _], _, split => simp [marker] at split
  | [_, _, _], _, split => simp [marker] at split
  | [_, _, _, _], _, split =>
    obtain rfl : '=' = d := by simp [marker] at split; exact split.2.2.2.2.1
    cases digit
  | c₀ :: c₁ :: c₂ :: c₃ :: c₄ :: more, _, split =>
    simp [marker] at split
    obtain ⟨rfl, rfl, rfl, rfl, rfl, -⟩ := split
    exact ⟨c₄, more, rfl, digit⟩

/-- A value that is written after a text without values is the first one. -/
theorem FirstValue.of_valueless {before digits after : List Char} (none : Valueless before)
    (some_digit : digits ≠ []) (all_digits : ∀ d ∈ digits, isHexDigit d = true)
    (maximal : ∀ d rest, after = d :: rest → isHexDigit d = false) :
    FirstValue (before ++ (marker ++ (digits ++ after))) before digits after where
  split := rfl
  some_digit := some_digit
  all_digits := all_digits
  maximal := maximal
  leftmost i hi starts := by
    rw [List.drop_append_of_le_length (Nat.le_of_lt hi)] at starts
    have inside : before.drop i ≠ [] := by
      rw [ne_eq, List.drop_eq_nil_iff]
      exact Nat.not_le.2 hi
    exact none i (starts.of_append inside)

/-! ## Whole outputs -/

theorem parseOutput?_eq_some_iff {output : String} {v : Nat} :
    parseOutput? output = some v ↔ ∃ before digits after,
      FirstValue output.toList before digits after ∧ hexValue digits = v ∧ v ≤ 4294967295 := by
  unfold parseOutput?
  rw [Option.bind_eq_some_iff]
  constructor
  · rintro ⟨digits, found, value⟩
    obtain ⟨before, after, first⟩ := valueDigits?_eq_some_iff.1 found
    split at value
    · rename_i fits
      cases value
      exact ⟨before, digits, after, first, rfl, Nat.le_of_lt_succ fits⟩
    · cases value
  · rintro ⟨before, digits, after, first, rfl, fits⟩
    exact ⟨digits, first.valueDigits?, if_pos (Nat.lt_succ_of_le fits)⟩

theorem parseOutput?_eq_none_iff {output : String} :
    parseOutput? output = none ↔ Valueless output.toList ∨ ∃ before digits after,
      FirstValue output.toList before digits after ∧ 4294967295 < hexValue digits := by
  unfold parseOutput?
  cases found : valueDigits? output.toList with
  | none =>
    have valueless := valueDigits?_eq_none_iff.1 found
    simp [valueless]
  | some digits =>
    obtain ⟨before, after, first⟩ := valueDigits?_eq_some_iff.1 found
    have place : ¬ Valueless output.toList := by
      intro valueless
      rw [valueDigits?_eq_none_iff.2 valueless] at found
      cases found
    rw [Option.bind_some]
    constructor
    · intro refused
      split at refused
      · cases refused
      · rename_i large
        exact .inr ⟨before, digits, after, first, Nat.lt_of_succ_le (Nat.not_lt.1 large)⟩
    · rintro (valueless | ⟨before', digits', after', first', large⟩)
      · exact absurd valueless place
      · obtain rfl : digits = digits' := Option.some.inj (found.symm.trans first'.valueDigits?)
        exact if_neg (Nat.not_lt.2 (Nat.succ_le_of_lt large))

/-- What is read of an output with a value after a text without one: the value, if it fits. -/
theorem parseOutput?_written {before after : String} {digits : List Char}
    (none : Valueless before.toList) (some_digit : digits ≠ [])
    (all_digits : ∀ d ∈ digits, isHexDigit d = true)
    (maximal : ∀ d rest, after.toList = d :: rest → isHexDigit d = false)
    (fits : hexValue digits ≤ 4294967295) :
    parseOutput? (before ++ "= 0x" ++ String.ofList digits ++ after) = some (hexValue digits) := by
  refine parseOutput?_eq_some_iff.2 ⟨before.toList, digits, after.toList, ?_, rfl, fits⟩
  have text : (before ++ "= 0x" ++ String.ofList digits ++ after).toList =
      before.toList ++ (marker ++ (digits ++ after.toList)) := by
    simp [marker]
  rw [text]
  exact .of_valueless none some_digit all_digits maximal

/-- **Which value is read of which output.** It is the value of the first place where the marker is
followed by digits, whatever stands at later ones; there is none if there is no such place or if
that value is too large. A value that is written after a text without values, and not right before a
digit, is read back, with any digits that denote it. -/
theorem output_read :
    (∀ output v, parseOutput? output = some v ↔ ∃ before digits after,
      FirstValue output.toList before digits after ∧ hexValue digits = v ∧ v ≤ 4294967295) ∧
    (∀ output, parseOutput? output = none ↔ Valueless output.toList ∨ ∃ before digits after,
      FirstValue output.toList before digits after ∧ 4294967295 < hexValue digits) ∧
    ∀ v ≤ 4294967295, ∀ before after : String, Valueless before.toList →
      (∀ d rest, after.toList = d :: rest → isHexDigit d = false) →
      parseOutput? (before ++ "= " ++ Text.hexText v ++ after) = some v ∧
      ∀ digits ≠ [], (∀ d ∈ digits, isHexDigit d = true) → hexValue digits = v →
        parseOutput? (before ++ "= 0x" ++ String.ofList digits ++ after) = some v := by
  refine ⟨fun _ _ => parseOutput?_eq_some_iff, fun _ => parseOutput?_eq_none_iff, ?_⟩
  intro v fits before after none maximal
  constructor
  · obtain ⟨all, value⟩ := hexValue_toDigits v
    have text : before ++ "= " ++ Text.hexText v ++ after =
        before ++ "= 0x" ++ String.ofList (Nat.toDigits 16 v) ++ after := by
      rw [← String.toList_inj]
      simp [Text.hexText]
    have read := parseOutput?_written none Nat.toDigits_ne_nil all maximal (by rwa [value])
    rw [text, read, value]
  · rintro digits some_digit all rfl
    exact parseOutput?_written none some_digit all maximal fits

/-- The address in an answer of the helper has no equals sign before it, so the value is read. -/
theorem output_read_past_address :
    Valueless "Read 1 bytes from 0x252e ".toList ∧
    parseOutput? ("Read 1 bytes from 0x252e " ++ "= " ++ Text.hexText 0xfb ++ "\n") = some 0xfb := by
  have none : Valueless "Read 1 bytes from 0x252e ".toList := valueDigits?_eq_none_iff.1 (by decide)
  have maximal : ∀ d rest, "\n".toList = d :: rest → isHexDigit d = false := by
    rintro d rest split
    cases split
    rfl
  exact ⟨none, (output_read.2.2 0xfb (by decide) _ _ none maximal).1⟩

end SwitchThermal
