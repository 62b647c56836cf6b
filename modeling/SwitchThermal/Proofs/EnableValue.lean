import Mathlib.Algebra.Order.Round
import Mathlib.Data.Int.Log
import Mathlib.Data.List.Induction
import Mathlib.Data.Rat.Floor
import Mathlib.Tactic.FieldSimp
import Mathlib.Tactic.Linarith
import Mathlib.Tactic.NormNum
import SwitchThermal.Proofs.SettingsLines

/-!
# The value of the switch

The value of `enable` is read as a decimal number, rounded to binary64 and cut to an integer, and
switches the algorithm on unless that is zero. So the digits at its start do not decide alone.

* `nearestEven`, `binary64` — rounding to nearest, ties to even. `one_le_binary64_iff` says which
  numbers become one or more.
* `AsciiNumber`, `numberValue` — the number at the start of a value.
* `enables_iff`, `enables_iff_rounded` — when a value switches the algorithm on.
* `enable_value` — so it is for every line that assigns to the switch.
* `enable_value_misread` — a fraction that is rounded up to one, and a one that counts for nothing
  because a digit of another script follows it.
-/

set_option autoImplicit false

namespace SwitchThermal

open Text (digitsValue isAsciiDigit isDecimalDigit)

/-! ## Rounding to binary64 -/

/-- The nearest integer; of two that are equally near, the even one. -/
def nearestEven (x : ℚ) : ℤ :=
  if x - ⌊x⌋ < 1 / 2 then ⌊x⌋
  else if 1 / 2 < x - ⌊x⌋ then ⌊x⌋ + 1
  else if Even ⌊x⌋ then ⌊x⌋ else ⌊x⌋ + 1

/-- The unit in the last place of the binary64 numbers that are as large as `x`. -/
def lastPlace (x : ℚ) : ℚ :=
  2 ^ max (Int.log 2 x - 52) (-1074)

/-- The binary64 number nearest to a number. The exponent is not bounded above. -/
def binary64 (x : ℚ) : ℚ :=
  nearestEven (x / lastPlace x) * lastPlace x

theorem floor_le_nearestEven (x : ℚ) : ⌊x⌋ ≤ nearestEven x := by
  unfold nearestEven
  split_ifs <;> omega

theorem nearestEven_le_add_half (x : ℚ) : (nearestEven x : ℚ) ≤ x + 1 / 2 := by
  have below := Int.floor_le x
  unfold nearestEven
  split_ifs <;> push_cast <;> linarith

/-- Rounding reaches an even number from half below it. -/
theorem le_nearestEven_iff {n : ℤ} (even : Even n) {x : ℚ} :
    n ≤ nearestEven x ↔ (n : ℚ) - 1 / 2 ≤ x := by
  constructor
  · intro reached
    have cast : (n : ℚ) ≤ nearestEven x := by exact_mod_cast reached
    linarith [nearestEven_le_add_half x]
  · intro near
    by_cases past : (n : ℚ) ≤ x
    · exact (Int.le_floor.2 past).trans (floor_le_nearestEven x)
    · have floor : ⌊x⌋ = n - 1 := by
        rw [Int.floor_eq_iff]
        push_cast
        constructor <;> linarith
      have odd : ¬ Even (n - 1) := by
        rw [Int.even_sub_one]
        exact not_not_intro even
      have far : ¬ x - ((n - 1 : ℤ) : ℚ) < 1 / 2 := by
        push_cast
        linarith
      rw [nearestEven, floor, if_neg far, if_neg odd, ite_self]
      omega

theorem lastPlace_pos (x : ℚ) : 0 < lastPlace x :=
  zpow_pos (by norm_num) _

/-- Rounding to a coarser grid goes up by half a step at most. -/
theorem binary64_le_add (x : ℚ) : binary64 x ≤ x + lastPlace x / 2 := by
  have pos := lastPlace_pos x
  calc binary64 x ≤ (x / lastPlace x + 1 / 2) * lastPlace x :=
        mul_le_mul_of_nonneg_right (nearestEven_le_add_half _) pos.le
    _ = x + lastPlace x / 2 := by field_simp

/-- Numbers from one on stay so. -/
theorem one_le_binary64_of_large {x : ℚ} (large : 1 ≤ x) : 1 ≤ binary64 x := by
  have positive : 0 < x := by linarith
  have log : 0 ≤ Int.log 2 x :=
    (Int.zpow_le_iff_le_log (by norm_num) positive).1 (by simpa using large)
  have place : 2 ^ 52 * lastPlace x = 2 ^ Int.log 2 x := by
    rw [lastPlace, max_eq_left (by omega), ← zpow_natCast, ← zpow_add₀ (by norm_num)]
    congr 1
    omega
  have scaled : (2 : ℚ) ^ 52 ≤ x / lastPlace x := by
    rw [le_div_iff₀ (lastPlace_pos x), place]
    exact Int.zpow_log_le_self (by norm_num) positive
  have rounded : (2 : ℤ) ^ 52 ≤ nearestEven (x / lastPlace x) := by
    refine (le_nearestEven_iff (by decide)).2 ?_
    push_cast
    linarith
  have cast : (2 : ℚ) ^ 52 ≤ nearestEven (x / lastPlace x) := by exact_mod_cast rounded
  calc (1 : ℚ) ≤ 2 ^ Int.log 2 x := one_le_zpow₀ (by norm_num) log
    _ = 2 ^ 52 * lastPlace x := place.symm
    _ ≤ binary64 x := mul_le_mul_of_nonneg_right cast (lastPlace_pos x).le

/-- From a half to one the numbers are 2⁻⁵³ apart. -/
theorem lastPlace_of_half {x : ℚ} (half : 1 / 2 ≤ x) (small : x < 1) :
    lastPlace x = 1 / 2 ^ 53 := by
  have positive : 0 < x := by linarith
  have lower : -1 ≤ Int.log 2 x :=
    (Int.zpow_le_iff_le_log (by norm_num) positive).1 (by norm_num; linarith)
  have upper : Int.log 2 x < 0 :=
    (Int.lt_zpow_iff_log_lt (by norm_num) positive).1 (by simpa using small)
  have log : Int.log 2 x = -1 := by omega
  rw [lastPlace, log]
  norm_num

theorem lastPlace_le_of_small {x : ℚ} (small : x < 1) : lastPlace x ≤ 1 / 2 ^ 52 := by
  have log : Int.log 2 x ≤ 0 := by
    by_cases positive : 0 < x
    · exact ((Int.lt_zpow_iff_log_lt (by norm_num) positive).1 (by simpa using small)).le
    · rw [Int.log_of_right_le_zero 2 (not_lt.1 positive)]
  calc lastPlace x ≤ 2 ^ (-52 : ℤ) := zpow_le_zpow_right₀ (by norm_num) (by omega)
    _ = 1 / 2 ^ 52 := by norm_num

/-- **The numbers that are rounded to one or more**: the midpoint between one and the number before
it goes to one, whose last place is even. -/
theorem one_le_binary64_iff (x : ℚ) : 1 ≤ binary64 x ↔ 1 - 1 / 2 ^ 54 ≤ x := by
  by_cases large : 1 ≤ x
  · have near : 1 - 1 / 2 ^ 54 ≤ x := by
      norm_num
      linarith
    simp only [one_le_binary64_of_large large, near]
  have small := not_le.1 large
  by_cases half : 1 / 2 ≤ x
  · have reached := le_nearestEven_iff (n := 2 ^ 53) (by decide) (x := x / (1 / 2 ^ 53))
    have cast : (2 : ℚ) ^ 53 ≤ nearestEven (x / (1 / 2 ^ 53)) ↔
        (2 : ℤ) ^ 53 ≤ nearestEven (x / (1 / 2 ^ 53)) := by exact_mod_cast Iff.rfl
    rw [binary64, lastPlace_of_half half small, mul_one_div, le_div_iff₀ (by norm_num), one_mul, cast,
      reached]
    norm_num
    constructor <;> intro h <;> linarith
  · have low := not_le.1 half
    have above := binary64_le_add x
    have place := lastPlace_le_of_small small
    have rounded : ¬ 1 ≤ binary64 x := by
      norm_num at place
      linarith
    have near : ¬ 1 - 1 / 2 ^ 54 ≤ x := by
      norm_num
      linarith
    simp only [rounded, near]

theorem binary64_nonneg {x : ℚ} (nonneg : 0 ≤ x) : 0 ≤ binary64 x := by
  have place := lastPlace_pos x
  have floor : 0 ≤ nearestEven (x / lastPlace x) :=
    (Int.floor_nonneg.2 (div_nonneg nonneg place.le)).trans (floor_le_nearestEven _)
  exact mul_nonneg (by exact_mod_cast floor) place.le

/-! ## The number in a value -/

/-- All the digits of the number at the start of a value are ASCII digits. -/
def AsciiNumber (value : List Char) : Prop :=
  ∀ d ∈ (leadingNumber value).1 ++ (leadingNumber value).2, isAsciiDigit d = true

/-- The fraction that the digits after a point denote. -/
def fraction (ds : List Char) : ℚ :=
  digitsValue ds / 10 ^ ds.length

/-- The number at the start of a value. -/
def numberValue (value : List Char) : ℚ :=
  digitsValue (leadingNumber value).1 + fraction (leadingNumber value).2

theorem digitsValue_concat (ds : List Char) (d : Char) :
    digitsValue (ds ++ [d]) = 10 * digitsValue ds + Text.digitValue d := by
  rw [digitsValue, List.foldl_append]
  rfl

theorem digitsValue_lt {ds : List Char} (ascii : ∀ d ∈ ds, isAsciiDigit d = true) :
    digitsValue ds < 10 ^ ds.length := by
  induction ds using List.reverseRecOn with
  | nil => exact Nat.one_pos
  | append_singleton ds d ih =>
    have before := ih fun x hx => ascii x (List.mem_append_left _ hx)
    have digit := ascii d (List.mem_append_right _ List.mem_cons_self)
    simp only [isAsciiDigit, Bool.and_eq_true, decide_eq_true_eq] at digit
    rw [digitsValue_concat, Text.digitValue, List.length_append, List.length_singleton, Nat.pow_succ]
    omega

theorem fraction_nonneg (ds : List Char) : 0 ≤ fraction ds :=
  div_nonneg (Nat.cast_nonneg _) (by positivity)

/-- The test for a fraction that is rounded to one, as an inequality of numbers. -/
theorem fractionRoundsToOne_iff {ds : List Char} (ascii : ∀ d ∈ ds, isAsciiDigit d = true) :
    fractionRoundsToOne ds = true ↔ 1 - 1 / 2 ^ 54 ≤ fraction ds := by
  have below := digitsValue_lt ascii
  have positive : (0 : ℚ) < 10 ^ ds.length := by positivity
  have cast : (Nat.pow 10 ds.length - digitsValue ds) * Nat.pow 2 54 ≤ Nat.pow 10 ds.length ↔
      ((10 : ℚ) ^ ds.length - digitsValue ds) * 2 ^ 54 ≤ 10 ^ ds.length := by
    change (10 ^ ds.length - digitsValue ds) * 2 ^ 54 ≤ 10 ^ ds.length ↔ _
    rw [← Nat.cast_le (α := ℚ), Nat.cast_mul, Nat.cast_sub below.le]
    push_cast
    rfl
  rw [fractionRoundsToOne, decide_eq_true_iff, cast, fraction, le_div_iff₀ positive]
  norm_num
  constructor <;> intro h <;> linarith

/-- **When a value switches the algorithm on.** -/
theorem enables_iff (value : List Char) :
    enables value = true ↔ AsciiNumber value ∧
      (digitsValue (leadingNumber value).1 ≠ 0 ∨
        1 - 1 / 2 ^ 54 ≤ fraction (leadingNumber value).2) := by
  rw [enables, Bool.and_eq_true, List.all_eq_true, Bool.or_eq_true, decide_eq_true_iff]
  refine and_congr_right fun ascii => or_congr_right ?_
  exact fractionRoundsToOne_iff fun d hd => ascii d (List.mem_append_right _ hd)

/-- It is when the number does not become zero by rounding and cutting. -/
theorem enables_iff_rounded (value : List Char) :
    enables value = true ↔ AsciiNumber value ∧ ⌊binary64 (numberValue value)⌋ ≠ 0 := by
  have nonneg : 0 ≤ numberValue value := add_nonneg (Nat.cast_nonneg _) (fraction_nonneg _)
  have cut : ⌊binary64 (numberValue value)⌋ ≠ 0 ↔ 1 ≤ binary64 (numberValue value) := by
    rw [ne_eq, Int.floor_eq_zero_iff, Set.mem_Ico, not_and, not_lt]
    exact ⟨fun h => h (binary64_nonneg nonneg), fun h _ => h⟩
  rw [enables_iff, cut, one_le_binary64_iff, numberValue]
  refine and_congr_right fun _ => ?_
  by_cases whole : digitsValue (leadingNumber value).1 = 0
  · simp [whole]
  · have one : (1 : ℚ) ≤ digitsValue (leadingNumber value).1 := by
      exact_mod_cast Nat.one_le_iff_ne_zero.2 whole
    have reached : 1 - 1 / 2 ^ 54 ≤
        (digitsValue (leadingNumber value).1 : ℚ) + fraction (leadingNumber value).2 := by
      norm_num
      linarith [fraction_nonneg (leadingNumber value).2]
    simp only [ne_eq, whole, not_false_eq_true, true_or, reached]

/-- The digits before the point are the longest run of digits at the start. -/
theorem leadingNumber_fst (value : List Char) :
    (leadingNumber value).1 = value.takeWhile isDecimalDigit := by
  unfold leadingNumber
  simp only
  split <;> rfl

/-- A stricter test takes the same elements if it holds of all that are taken. -/
theorem takeWhile_eq_of_imp {α : Type} {p q : α → Bool} {l : List α}
    (weaker : ∀ x, q x = true → p x = true) (all : ∀ x ∈ l.takeWhile p, q x = true) :
    l.takeWhile p = l.takeWhile q := by
  induction l with
  | nil => rfl
  | cons x l ih =>
    by_cases taken : p x = true
    · rw [List.takeWhile_cons, if_pos taken] at all ⊢
      rw [List.takeWhile_cons, if_pos (all x List.mem_cons_self),
        ih fun y hy => all y (List.mem_cons_of_mem _ hy)]
    · have missed : ¬ q x = true := fun h => taken (weaker x h)
      rw [List.takeWhile_cons, if_neg taken, List.takeWhile_cons, if_neg missed]

/-- If they are all ASCII digits, no digit of another script follows them. -/
theorem AsciiNumber.leading {value : List Char} (ascii : AsciiNumber value) :
    (leadingNumber value).1 = value.takeWhile isAsciiDigit := by
  rw [leadingNumber_fst]
  refine takeWhile_eq_of_imp (fun _ => Text.isDecimalDigit_of_isAsciiDigit) ?_
  rw [← leadingNumber_fst]
  exact fun d hd => ascii d (List.mem_append_left _ hd)

/-! ## Lines that assign to the switch -/

/-- Of a line without a comment all but the spaces counts. -/
theorem counted_of_uncommented {line : List Char} (h : '#' ∉ line) :
    counted line = line.filter (· ≠ ' ') := by
  have all : line.takeWhile (· ≠ '#') = line := by
    rw [List.takeWhile_eq_self_iff]
    intro x hx
    exact decide_eq_true fun heq => h (heq ▸ hx)
  rw [counted, all]

/-- A single line that assigns to the switch decides by its value. -/
theorem parse_enable {v : String} (uncommented : '#' ∉ v.toList) (unbroken : '\n' ∉ v.toList) :
    (Settings.parse ("enable=" ++ v)).enabled = enables (v.toList.filter (· ≠ ' ')) := by
  have line : ("enable=" ++ v).toList = "enable=".toList ++ v.toList := String.toList_append
  have plain : '#' ∉ "enable=".toList ++ v.toList := by
    rw [List.mem_append]
    exact not_or_intro (by decide) uncommented
  have value : (String.ofList (v.toList.filter (· ≠ ' '))).toList = v.toList.filter (· ≠ ' ') :=
    String.toList_ofList
  have assigns : Assigns ("enable=" ++ v) "enable" (.ofList (v.toList.filter (· ≠ ' '))) := by
    refine ⟨?_, by decide⟩
    rw [line, counted_of_uncommented plain, List.filter_append, value]
    rfl
  have whole : '\n' ∉ ("enable=" ++ v).toList := by
    rw [line, List.mem_append]
    exact not_or_intro (by decide) unbroken
  rw [Settings.parse, Settings.addText_of_unbroken whole, Settings.addLine_of_assigns assigns,
    if_pos rfl, value]

/-- What a value, without its spaces, switches. -/
structure Switches (value : List Char) (on : Bool) : Prop where
  /-- The number is rounded to binary64 before it is cut to an integer. -/
  rounded : on = true ↔ AsciiNumber value ∧ ⌊binary64 (numberValue value)⌋ ≠ 0
  exact : on = true ↔ AsciiNumber value ∧ (digitsValue (value.takeWhile isAsciiDigit) ≠ 0 ∨
    1 - 1 / 2 ^ 54 ≤ fraction (leadingNumber value).2)
  /-- The digits at the start decide alone if no digit of another script belongs to the number and
  its fraction is not rounded up. -/
  truncated : AsciiNumber value → fraction (leadingNumber value).2 < 1 - 1 / 2 ^ 54 →
    (on = true ↔ digitsValue (value.takeWhile isAsciiDigit) ≠ 0)

/-- **What the value of the switch decides**, on a line of its own. -/
theorem enable_value (v : String) (uncommented : '#' ∉ v.toList) (unbroken : '\n' ∉ v.toList) :
    Switches (v.toList.filter (· ≠ ' ')) (Settings.parse ("enable=" ++ v)).enabled := by
  rw [parse_enable uncommented unbroken]
  have exact : enables (v.toList.filter (· ≠ ' ')) = true ↔
      AsciiNumber (v.toList.filter (· ≠ ' ')) ∧
        (digitsValue ((v.toList.filter (· ≠ ' ')).takeWhile isAsciiDigit) ≠ 0 ∨
          1 - 1 / 2 ^ 54 ≤ fraction (leadingNumber (v.toList.filter (· ≠ ' '))).2) := by
    rw [enables_iff]
    exact and_congr_right fun ascii => by rw [ascii.leading]
  refine ⟨enables_iff_rounded _, exact, fun ascii low => ?_⟩
  rw [exact]
  simp only [ascii, not_le.2 low, true_and, or_false]

/-- Spaces between the digits, and what follows the number, do not matter. -/
theorem enable_value_with_spaces :
    '#' ∉ " 1 0.5 V".toList ∧ '\n' ∉ " 1 0.5 V".toList ∧
    Switches "10.5V".toList (Settings.parse ("enable=" ++ " 1 0.5 V")).enabled :=
  ⟨by decide, by decide, enable_value " 1 0.5 V" (by decide) (by decide)⟩

/-- **The digits at the start do not decide alone.** A fraction just below one is rounded up to it,
and a digit of another script makes the number zero. -/
theorem enable_value_misread :
    digitsValue ("0.99999999999999999999".toList.takeWhile isAsciiDigit) = 0 ∧
    (Settings.parse ("enable=" ++ "0.99999999999999999999")).enabled = true ∧
    digitsValue ("1\u0663".toList.takeWhile isAsciiDigit) = 1 ∧
    (Settings.parse ("enable=" ++ "1\u0663")).enabled = false := by
  refine ⟨by decide, ?_, by decide, ?_⟩
  · rw [parse_enable (by decide) (by decide)]
    decide
  · rw [parse_enable (by decide) (by decide)]
    decide

end SwitchThermal
