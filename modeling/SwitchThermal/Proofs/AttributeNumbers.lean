import Mathlib.Data.List.TakeWhile
import SwitchThermal.Proofs.AttributeFiles

/-!
# Numbers in attribute files

An attribute that holds an integer holds a decimal numeral with an optional sign, between blanks, and
nothing else. What it denotes has to be in the signed 32-bit range.

* `Text.Trimmed`, `Text.trim_eq_iff` — a text between blanks, which is what trimming leaves.
* `Text.Numeral`, `Text.readInt32_eq_some_iff` — the numerals that are read, and what they denote.
* `Text.numeral_toString` — an integer is written as a numeral that denotes it.
* `Attribute.parseInt_eq_ok_iff`, `Attribute.parseInt_eq_error_iff` — the integer in the text of an
  attribute, or the fault.
* `ReadsNumeral`, `attribute_numbers` — reading an attribute, and reading back what was written.
-/

set_option autoImplicit false

namespace SwitchThermal

namespace Text

variable {cs core lead trail ds : List Char} {n : Int}

/-! ## Texts between blanks -/

/-- A text is blanks, then a core that neither starts nor ends with a blank, then blanks. -/
structure Trimmed (cs core : List Char) : Prop where
  between : ∃ lead trail, cs = lead ++ (core ++ trail) ∧ (∀ c ∈ lead, isBlank c = true) ∧
    ∀ c ∈ trail, isBlank c = true
  start : ∀ c, core.head? = some c → isBlank c = false
  stop : ∀ c, core.getLast? = some c → isBlank c = false

/-- Blanks are dropped up to the first character that is none. -/
theorem dropWhile_blanks (blank : ∀ c ∈ lead, isBlank c = true)
    (start : ∀ c, core.head? = some c → isBlank c = false) :
    (lead ++ core).dropWhile isBlank = core := by
  rw [List.dropWhile_append_of_pos blank]
  cases core with
  | nil => rfl
  | cons c rest => rw [List.dropWhile_cons_of_neg (by simp [start c rfl])]

theorem Trimmed.trim_eq (h : Trimmed cs core) : trim cs = core := by
  obtain ⟨lead, trail, rfl, blank, blank'⟩ := h.between
  have ends : trimEnd (core ++ trail) = core := by
    rw [trimEnd, List.reverse_append, dropWhile_blanks, List.reverse_reverse]
    · exact fun c hc => blank' c (List.mem_reverse.1 hc)
    · intro c hc
      rw [List.head?_reverse] at hc
      exact h.stop c hc
  cases core with
  | nil =>
    have all : ∀ c ∈ lead ++ trail, isBlank c = true := by
      intro c hc
      exact (List.mem_append.1 hc).elim (blank c) (blank' c)
    have dropped : (lead ++ trail ++ []).dropWhile isBlank = [] := dropWhile_blanks all nofun
    rw [List.append_nil] at dropped
    rw [trim, List.nil_append, dropped]
    rfl
  | cons c rest =>
    have dropped : (lead ++ (c :: rest ++ trail)).dropWhile isBlank = c :: rest ++ trail :=
      dropWhile_blanks blank fun _ first => h.start _ first
    rw [trim, dropped, ends]

/-- What dropping blanks leaves does not start with one. -/
theorem not_blank_of_head?_dropWhile {c : Char}
    (h : (cs.dropWhile isBlank).head? = some c) : isBlank c = false := by
  have stops := List.head?_dropWhile_not isBlank cs
  rw [h] at stops
  exact stops

theorem trimmed_trim (cs : List Char) : Trimmed cs (trim cs) := by
  have ends : cs.dropWhile isBlank =
      trim cs ++ ((cs.dropWhile isBlank).reverse.takeWhile isBlank).reverse := by
    rw [trim, trimEnd, ← List.reverse_append, List.takeWhile_append_dropWhile, List.reverse_reverse]
  constructor
  · refine ⟨cs.takeWhile isBlank, ((cs.dropWhile isBlank).reverse.takeWhile isBlank).reverse,
      ?_, ?_, ?_⟩
    · rw [← ends, List.takeWhile_append_dropWhile]
    · exact fun c hc => List.mem_takeWhile_imp hc
    · exact fun c hc => List.mem_takeWhile_imp (List.mem_reverse.1 hc)
  · intro c first
    have head : (cs.dropWhile isBlank).head? = some c := by
      rw [ends, List.head?_append, first, Option.some_or]
    exact not_blank_of_head?_dropWhile head
  · intro c last
    rw [trim, trimEnd, List.getLast?_reverse] at last
    exact not_blank_of_head?_dropWhile last

/-- **Trimming** leaves the core of a text, and only that. -/
theorem trim_eq_iff : trim cs = core ↔ Trimmed cs core :=
  ⟨fun h => h ▸ trimmed_trim cs, Trimmed.trim_eq⟩

/-! ## Numerals -/

/-- A decimal numeral with an optional sign, and what it denotes. -/
inductive Numeral : List Char → Int → Prop where
  | unsigned {ds : List Char} (some_digit : ds ≠ []) (digits : ∀ d ∈ ds, isAsciiDigit d = true) :
    Numeral ds (Nat.ofDigitChars 10 ds 0)
  | plus {ds : List Char} (some_digit : ds ≠ []) (digits : ∀ d ∈ ds, isAsciiDigit d = true) :
    Numeral ('+' :: ds) (Nat.ofDigitChars 10 ds 0)
  | minus {ds : List Char} (some_digit : ds ≠ []) (digits : ∀ d ∈ ds, isAsciiDigit d = true) :
    Numeral ('-' :: ds) (-(Nat.ofDigitChars 10 ds 0 : Nat))

/-- A text of digits is read as what they denote, and no other text is. -/
theorem map_readDigits_eq_some_iff {f : Nat → Int} : (readDigits ds).map f = some n ↔
    ds ≠ [] ∧ (∀ d ∈ ds, isAsciiDigit d = true) ∧ f (Nat.ofDigitChars 10 ds 0) = n := by
  unfold readDigits
  rw [← and_assoc, ← List.all_eq_true]
  by_cases digits : ds ≠ [] ∧ ds.all isAsciiDigit = true
  · rw [if_pos digits, Option.map_some, Option.some_inj]
    exact (and_iff_right digits).symm
  · rw [if_neg digits]
    exact iff_of_false nofun fun h => digits h.1

theorem readSigned_minus (ds : List Char) :
    readSigned ('-' :: ds) = (readDigits ds).map fun v : Nat => -(v : Int) := by
  rw [readSigned]
  cases readDigits ds <;> rfl

theorem readSigned_plus (ds : List Char) :
    readSigned ('+' :: ds) = (readDigits ds).map fun v : Nat => (v : Int) := by
  rw [readSigned]
  cases readDigits ds <;> rfl

theorem readSigned_unsigned (minus : ∀ r, cs ≠ '-' :: r) (plus : ∀ r, cs ≠ '+' :: r) :
    readSigned cs = (readDigits cs).map fun v : Nat => (v : Int) := by
  rw [readSigned.eq_3 cs minus plus]
  cases readDigits cs <;> rfl

/-- **The numerals that are read.** -/
theorem readSigned_eq_some_iff : readSigned cs = some n ↔ Numeral cs n := by
  constructor
  · intro h
    by_cases minus : ∃ r, cs = '-' :: r
    · obtain ⟨ds, rfl⟩ := minus
      rw [readSigned_minus, map_readDigits_eq_some_iff] at h
      obtain ⟨some_digit, digits, rfl⟩ := h
      exact .minus some_digit digits
    · by_cases plus : ∃ r, cs = '+' :: r
      · obtain ⟨ds, rfl⟩ := plus
        rw [readSigned_plus, map_readDigits_eq_some_iff] at h
        obtain ⟨some_digit, digits, rfl⟩ := h
        exact .plus some_digit digits
      · rw [readSigned_unsigned (not_exists.1 minus) (not_exists.1 plus),
          map_readDigits_eq_some_iff] at h
        obtain ⟨some_digit, digits, rfl⟩ := h
        exact .unsigned some_digit digits
  · intro h
    cases h with
    | minus some_digit digits =>
      rw [readSigned_minus]
      exact map_readDigits_eq_some_iff.2 ⟨some_digit, digits, rfl⟩
    | plus some_digit digits =>
      rw [readSigned_plus]
      exact map_readDigits_eq_some_iff.2 ⟨some_digit, digits, rfl⟩
    | unsigned some_digit digits =>
      rw [readSigned_unsigned]
      · exact map_readDigits_eq_some_iff.2 ⟨some_digit, digits, rfl⟩
      · rintro r rfl
        exact absurd (digits '-' List.mem_cons_self) (by decide)
      · rintro r rfl
        exact absurd (digits '+' List.mem_cons_self) (by decide)

theorem readInt32_eq_some_iff : readInt32 cs = some n ↔ Numeral cs n ∧ InInt32 n := by
  rw [readInt32, Option.bind_eq_some_iff]
  constructor
  · rintro ⟨m, read, fits⟩
    split at fits
    · cases fits
      exact ⟨readSigned_eq_some_iff.1 read, ‹_›⟩
    · cases fits
  · rintro ⟨numeral, fits⟩
    exact ⟨n, readSigned_eq_some_iff.2 numeral, if_pos fits⟩

theorem isAsciiDigit_of_isDigit {c : Char} (h : c.isDigit = true) : isAsciiDigit c = true := by
  simp only [Char.isDigit, Bool.and_eq_true, decide_eq_true_eq] at h
  simp only [isAsciiDigit, Bool.and_eq_true, decide_eq_true_eq]
  exact h

/-- **An integer is written as a numeral that denotes it.** -/
theorem numeral_toString (n : Int) : Numeral (toString n).toList n := by
  have written (v : Nat) : (toString v).toList = Nat.toDigits 10 v := by
    rw [Nat.toString_eq_ofList_toDigits, String.toList_ofList]
  have digits (v : Nat) : ∀ d ∈ Nat.toDigits 10 v, isAsciiDigit d = true := fun d hd =>
    isAsciiDigit_of_isDigit (Nat.isDigit_of_mem_toDigits (by decide) (by decide) hd)
  cases n with
  | ofNat v =>
    have numeral := Numeral.unsigned Nat.toDigits_ne_nil (digits v)
    rw [Nat.ofDigitChars_ten_toDigits, ← written] at numeral
    exact numeral
  | negSucc v =>
    have numeral := Numeral.minus Nat.toDigits_ne_nil (digits (v + 1))
    rw [Nat.ofDigitChars_ten_toDigits, ← written] at numeral
    have text : (toString (Int.negSucc v)).toList = '-' :: (toString (v + 1)).toList :=
      String.toList_append
    rw [text]
    exact numeral

/-- No digit is a blank. -/
theorem isBlank_of_isAsciiDigit {c : Char} (h : isAsciiDigit c = true) : isBlank c = false := by
  simp only [isAsciiDigit, Bool.and_eq_true, decide_eq_true_eq] at h
  simp only [isBlank, blankRanges, List.any_eq_false, List.mem_cons, List.not_mem_nil, or_false,
    Bool.and_eq_true, decide_eq_true_eq]
  rintro r (rfl | rfl | rfl | rfl | rfl | rfl | rfl | rfl | rfl | rfl) <;> omega

theorem Numeral.not_blank (h : Numeral cs n) : ∀ c ∈ cs, isBlank c = false := by
  cases h with
  | unsigned some_digit digits => exact fun c hc => isBlank_of_isAsciiDigit (digits c hc)
  | plus some_digit digits | minus some_digit digits =>
    intro c hc
    rcases List.mem_cons.1 hc with rfl | hc
    · decide
    · exact isBlank_of_isAsciiDigit (digits c hc)

/-- A numeral between blanks is the core of the text. -/
theorem Numeral.trimmed (h : Numeral core n) (blank : ∀ c ∈ lead, isBlank c = true)
    (blank' : ∀ c ∈ trail, isBlank c = true) : Trimmed (lead ++ (core ++ trail)) core where
  between := ⟨lead, trail, rfl, blank, blank'⟩
  start c first := h.not_blank c (List.mem_of_head? first)
  stop c last := h.not_blank c (List.mem_of_getLast? last)

end Text

open Text (Trimmed Numeral InInt32 isBlank)

/-! ## The text of an attribute -/

namespace Attribute

variable {path content : String} {n : Int}

theorem parseInt_eq_ok_iff : parseInt path content = .ok n ↔
    ∃ core, Trimmed content.toList core ∧ Numeral core n ∧ InInt32 n := by
  unfold parseInt
  constructor
  · intro h
    split at h
    · rename_i read
      cases h
      exact ⟨_, Text.trimmed_trim _, Text.readInt32_eq_some_iff.1 read⟩
    · cases h
  · rintro ⟨core, trimmed, numeral⟩
    rw [trimmed.trim_eq, Text.readInt32_eq_some_iff.2 numeral]

theorem parseInt_eq_error_iff {e : Fault} : parseInt path content = .error e ↔
    ∃ core : String, Trimmed content.toList core.toList ∧
      (∀ n, Numeral core.toList n → ¬ InInt32 n) ∧ e = .malformed path core := by
  have trimmed : Trimmed content.toList (Text.trimText content).toList := by
    rw [Text.trimText, String.toList_ofList]
    exact Text.trimmed_trim _
  constructor
  · intro h
    refine ⟨Text.trimText content, trimmed, fun n numeral fits => ?_, eq_malformed_of_parseInt h⟩
    rw [parseInt_eq_ok_iff.2 ⟨_, trimmed, numeral, fits⟩] at h
    cases h
  · rintro ⟨core, trimmed', unread, rfl⟩
    obtain rfl : core = Text.trimText content := by
      rw [Text.trimText, trimmed'.trim_eq, String.ofList_toList]
    cases read : parseInt path content with
    | ok n =>
      obtain ⟨core', trimmed', numeral, fits⟩ := parseInt_eq_ok_iff.1 read
      rw [← trimmed'.trim_eq, trimmed.trim_eq] at numeral
      exact absurd fits (unread n numeral)
    | error e => rw [eq_malformed_of_parseInt read]

variable {t : FileTree} {p : TreePath}

/-- What is read of an attribute is in the signed 32-bit range. -/
theorem inInt32_of_readInt (h : readInt t p = .ok n) : InInt32 n := by
  cases read : readText t p with
  | error e =>
    rw [readInt, read] at h
    cases h
  | ok content =>
    rw [readInt_of_readText read] at h
    obtain ⟨-, -, -, fits⟩ := parseInt_eq_ok_iff.1 h
    exact fits

end Attribute

/-! ## Reading and writing -/

/-- What is read of an attribute with a text. -/
structure ReadsNumeral (path content : String) (r : Except Fault Int) : Prop where
  ok_iff : ∀ n, r = .ok n ↔ ∃ core, Trimmed content.toList core ∧ Numeral core n ∧ InInt32 n
  /-- Any other text is a fault, which shows it without the blanks around it. -/
  error_iff : ∀ e, r = .error e ↔ ∃ core : String, Trimmed content.toList core.toList ∧
    (∀ n, Numeral core.toList n → ¬ InInt32 n) ∧ e = .malformed path core
  padded : ∀ n lead trail, InInt32 n → (∀ c ∈ lead, isBlank c = true) →
    (∀ c ∈ trail, isBlank c = true) → content.toList = lead ++ ((toString n).toList ++ trail) →
    r = .ok n

/-- A numeral between blanks is read. -/
theorem Attribute.parseInt_padded {path content : String} {n : Int} {lead trail : List Char}
    (fits : InInt32 n) (blank : ∀ c ∈ lead, isBlank c = true)
    (blank' : ∀ c ∈ trail, isBlank c = true)
    (split : content.toList = lead ++ ((toString n).toList ++ trail)) :
    parseInt path content = .ok n := by
  have numeral := Text.numeral_toString n
  refine parseInt_eq_ok_iff.2 ⟨_, ?_, numeral, fits⟩
  rw [split]
  exact numeral.trimmed blank blank'

theorem Attribute.parseInt_toString {path : String} {n : Int} (fits : InInt32 n) :
    parseInt path (toString n) = .ok n := by
  have none : ∀ c ∈ ([] : List Char), isBlank c = true := nofun
  have bare : (toString n).toList = [] ++ ((toString n).toList ++ []) := by
    rw [List.append_nil, List.nil_append]
  exact parseInt_padded fits none none bare

/-- **Numbers in attribute files.** The integer of an attribute is what a decimal numeral between
blanks denotes, if it is in range; any other text is a fault. So an integer in range that is written
to an attribute is read back. -/
theorem attribute_numbers :
    (∀ (t : FileTree) (path : TreePath) (content : String),
      Attribute.readText t path = .ok content →
        ReadsNumeral path.text content (Attribute.readInt t path)) ∧
      ∀ (t t' : FileTree) (path : TreePath) (n : Int), InInt32 n →
        Attribute.writeText t path (toString n) = .ok t' → Attribute.readInt t' path = .ok n := by
  constructor
  · intro t path content readable
    rw [Attribute.readInt_of_readText readable]
    exact ⟨fun _ => Attribute.parseInt_eq_ok_iff, fun _ => Attribute.parseInt_eq_error_iff,
      fun _ _ _ => Attribute.parseInt_padded⟩
  · intro t t' path n fits written
    rw [Attribute.readInt_of_readText (Attribute.readText_writeText written)]
    exact Attribute.parseInt_toString fits

/-- The tree with one attribute. -/
def oneAttribute (content : String) : FileTree :=
  FileTree.empty.setNode ["speed"] (.file (Runs.ofBytes (Text.encode content)) false)

theorem writeText_oneAttribute (content : String) :
    Attribute.writeText .empty (.ofText "/speed") content = .ok (oneAttribute content) :=
  rfl

/-- A numeral with a sign and leading zeros between blanks, and the least integer written and read. -/
theorem attribute_numbers_at_bounds :
    Attribute.readText (oneAttribute "\u3000+007\n") (.ofText "/speed") = .ok "\u3000+007\n" ∧
    Attribute.readInt (oneAttribute "\u3000+007\n") (.ofText "/speed") = .ok 7 ∧
    InInt32 (-2147483648) ∧
    Attribute.writeText .empty (.ofText "/speed") (toString (-2147483648 : Int)) =
      .ok (oneAttribute (toString (-2147483648 : Int))) ∧
    Attribute.readInt (oneAttribute (toString (-2147483648 : Int))) (.ofText "/speed") =
      .ok (-2147483648) := by
  have readable : Attribute.readText (oneAttribute "\u3000+007\n") (.ofText "/speed") =
      .ok "\u3000+007\n" := Attribute.readText_writeText (writeText_oneAttribute _)
  have written := writeText_oneAttribute (toString (-2147483648 : Int))
  have digits : ∀ d ∈ ['0', '0', '7'], Text.isAsciiDigit d = true := List.all_eq_true.1 rfl
  have numeral : Numeral ['+', '0', '0', '7'] 7 := .plus (by decide) digits
  have trimmed : Trimmed "\u3000+007\n".toList ['+', '0', '0', '7'] :=
    Text.trim_eq_iff.1 (by decide)
  exact ⟨readable,
    ((attribute_numbers.1 _ _ _ readable).ok_iff 7).2 ⟨_, trimmed, numeral, by decide⟩, by decide,
    written, attribute_numbers.2 _ _ _ _ (by decide) written⟩

end SwitchThermal
