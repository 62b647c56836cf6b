import Mathlib.Data.List.TakeWhile
import SwitchThermal.Control.Settings

/-!
# The control file line by line

The settings of a control file are a fold over its lines: of each line counts what stands before its
comment, without spaces, and of the lines that set the same thing the last one counts.

* `counted`, `Assigns` — what counts of a line, and the key and the value that it assigns.
* `line_induction` — induction along the lines of a text.
* `Settings.addText_join` — the settings of joined lines are the fold over the lines.
* `LastSet` — the last line that sets something. `LastSet.of_foldl` finds it for a fold.
* `ControlLines` — what the lines of a control file decide, and which edits change nothing.
* `control_lines` — so it is for every list of lines.
-/

set_option autoImplicit false

namespace SwitchThermal

/-! ## What counts of a line -/

/-- What stands before the comment of a line, without spaces. -/
def counted (line : List Char) : List Char :=
  (line.takeWhile (· ≠ '#')).filter (· ≠ ' ')

/-- The entry of a line depends only on what counts of it. -/
theorem entry?_eq (line : List Char) :
    entry? line = match (counted line).dropWhile (· ≠ '=') with
      | [] => none
      | _ :: value => some ((counted line).takeWhile (· ≠ '='), value) :=
  rfl

theorem entry?_congr {l l' : List Char} (h : counted l = counted l') : entry? l = entry? l' := by
  rw [entry?_eq, entry?_eq, h]

/-- A comment does not count. -/
theorem counted_comment (l comment : List Char) :
    counted (l ++ '#' :: comment) = counted l := by
  have cut : (l ++ '#' :: comment).takeWhile (· ≠ '#') = l.takeWhile (· ≠ '#') := by
    induction l with
    | nil => rfl
    | cons x l ih =>
      rw [List.cons_append, List.takeWhile_cons, List.takeWhile_cons, ih]
  exact congrArg (List.filter _) cut

/-- Nor do spaces. -/
theorem counted_filter (l : List Char) : counted (l.filter (· ≠ ' ')) = counted l := by
  unfold counted
  induction l with
  | nil => rfl
  | cons x l ih =>
    by_cases space : x = ' '
    · simpa [space] using ih
    · by_cases hash : x = '#'
      · simp [hash]
      · simpa [space, hash] using ih

/-- A line without an equals sign has no entry. -/
theorem entry?_of_unfound {line : List Char} (h : (counted line).dropWhile (· ≠ '=') = []) :
    entry? line = none := by
  rw [entry?_eq, h]

/-- Otherwise the entry is what stands before the first one and after it. -/
theorem entry?_of_found {line value : List Char} {x : Char}
    (h : (counted line).dropWhile (· ≠ '=') = x :: value) :
    entry? line = some ((counted line).takeWhile (· ≠ '='), value) := by
  rw [entry?_eq, h]

/-- The entry of a line is split at the first equals sign. -/
theorem entry?_eq_some_iff {line key value : List Char} :
    entry? line = some (key, value) ↔ counted line = key ++ '=' :: value ∧ '=' ∉ key := by
  constructor
  · intro h
    have parts := List.takeWhile_append_dropWhile (p := (· ≠ '=')) (l := counted line)
    have fresh : '=' ∉ (counted line).takeWhile (· ≠ '=') := fun hmem => by
      simpa using List.mem_takeWhile_imp hmem
    cases rest : (counted line).dropWhile (· ≠ '=') with
    | nil =>
      rw [entry?_of_unfound rest] at h
      cases h
    | cons x value' =>
      obtain rfl : x = '=' := by
        have stop := List.head_dropWhile_not (fun y => decide (y ≠ '=')) (l := counted line)
          (by rw [rest]; nofun)
        simp only [rest] at stop
        exact Decidable.not_not.1 (of_decide_eq_false stop)
      rw [entry?_of_found rest] at h
      rw [rest] at parts
      cases h
      exact ⟨parts.symm, fresh⟩
  · rintro ⟨text, fresh⟩
    have before : ∀ x ∈ key, decide (x ≠ '=') = true := by
      intro x hx
      exact decide_eq_true fun heq => fresh (heq ▸ hx)
    have found : (counted line).dropWhile (· ≠ '=') = '=' :: value := by
      rw [text, List.dropWhile_append_of_pos before]
      rfl
    rw [entry?_of_found found, text, List.takeWhile_append_of_pos before]
    simp

/-! ## The lines of a text -/

/-- A text without a line feed is a line of its own. -/
theorem splitLine_of_unbroken {l : List Char} (h : '\n' ∉ l) : splitLine l = (l, []) := by
  fun_induction splitLine l with
  | case1 => rfl
  | case2 r => exact absurd List.mem_cons_self h
  | case3 x r other ih => rw [ih fun hr => h (List.mem_cons_of_mem _ hr)]

/-- The first line of a text ends at the first line feed. -/
theorem splitLine_append {l : List Char} (h : '\n' ∉ l) (r : List Char) :
    splitLine (l ++ '\n' :: r) = (l ++ ['\n'], r) := by
  induction l with
  | nil => rfl
  | cons x l ih =>
    have other : x ≠ '\n' := fun hx => h (hx ▸ List.mem_cons_self)
    rw [List.cons_append, splitLine.eq_3 _ _ other, ih fun hl => h (List.mem_cons_of_mem _ hl)]
    rfl

theorem chopLineEnd_of_unbroken {l : List Char} (h : '\n' ∉ l) : chopLineEnd l = l := by
  unfold chopLineEnd
  split
  · rename_i r shape
    exact absurd (List.mem_reverse.1 (shape ▸ List.mem_cons_self)) h
  · rename_i r shape
    exact absurd (List.mem_reverse.1 (shape ▸ List.mem_cons_self)) h
  · rfl

/-- A line loses its line feed, and a carriage return before it. -/
theorem chopLineEnd_feed (l : List Char) :
    chopLineEnd (l ++ ['\n']) = l ∨ l = chopLineEnd (l ++ ['\n']) ++ ['\r'] := by
  obtain rfl | ⟨init, x, rfl⟩ := l.eq_nil_or_concat
  · exact .inl rfl
  · unfold chopLineEnd
    rw [List.concat_eq_append, List.reverse_append, List.reverse_append]
    by_cases cr : x = '\r'
    · right
      simp [cr]
    · left
      simp [cr]

/-- The lines of a text with a line feed in it. -/
theorem lines_append {l : List Char} (h : '\n' ∉ l) (r : List Char) :
    lines (l ++ '\n' :: r) = chopLineEnd (l ++ ['\n']) :: lines r := by
  obtain ⟨x, rest, shape⟩ := List.exists_cons_of_ne_nil (l := l ++ '\n' :: r) (by simp)
  rw [shape, lines, ← shape, splitLine_append h]

@[simp] theorem lines_nil : lines [] = [] := by
  rw [lines]

/-- A text without a line feed is a single line, unless it is empty. -/
theorem lines_of_unbroken {x : Char} {l : List Char} (h : '\n' ∉ x :: l) :
    lines (x :: l) = [x :: l] := by
  rw [lines, splitLine_of_unbroken h, chopLineEnd_of_unbroken h, lines_nil]

/-- **Induction along the lines of a text.** -/
theorem line_induction {P : List Char → Prop} (last : ∀ l, '\n' ∉ l → P l)
    (next : ∀ l r, '\n' ∉ l → P r → P (l ++ '\n' :: r)) (text : List Char) : P text := by
  induction length : text.length using Nat.strong_induction_on generalizing text with
  | _ n ih =>
    by_cases broken : '\n' ∈ text
    · obtain ⟨l, r, rfl, first⟩ := List.eq_append_cons_of_mem broken
      refine next l r first (ih r.length ?_ r rfl)
      rw [← length, List.length_append, List.length_cons]
      omega
    · exact last text broken

/-! ## The settings of lines -/

namespace Settings

theorem addLine_congr {l l' : List Char} (h : counted l = counted l') (s : Settings) :
    s.addLine l = s.addLine l' := by
  unfold addLine
  rw [entry?_congr h]

/-- A text without a line feed counts as a line. -/
theorem addText_of_unbroken {l : List Char} (h : '\n' ∉ l) (s : Settings) :
    s.addText l = s.addLine l := by
  cases l with
  | nil => rw [addText, lines_nil]; rfl
  | cons x l => rw [addText, lines_of_unbroken h]; rfl

/-- A line that is broken only by what does not count: it has no line feed, and it counts the same
without a carriage return at its end. -/
structure Whole (l : List Char) : Prop where
  unbroken : '\n' ∉ l
  chopped : counted (chopLineEnd (l ++ ['\n'])) = counted l

theorem Whole.of_plain {l : List Char} (feed : '\n' ∉ l) (cr : '\r' ∉ l) : Whole l where
  unbroken := feed
  chopped := by
    rcases chopLineEnd_feed l with same | broken
    · rw [same]
    · exact absurd (broken ▸ List.mem_append_right _ List.mem_cons_self) cr

/-- In a comment a carriage return does no harm. -/
theorem Whole.comment {l text : List Char} (h : '\n' ∉ l) (feed : '\n' ∉ text) :
    Whole (l ++ '#' :: text) where
  unbroken hmem := by
    rcases List.mem_append.1 hmem with hmem | hmem
    · exact h hmem
    · rcases List.mem_cons.1 hmem with heq | hmem
      · cases heq
      · exact feed hmem
  chopped := by
    rcases chopLineEnd_feed (l ++ '#' :: text) with same | broken
    · rw [same]
    · obtain rfl | ⟨init, x, rfl⟩ := text.eq_nil_or_concat
      · cases (List.append_inj' broken rfl).2
      · rw [List.concat_eq_append, ← List.cons_append, ← List.append_assoc] at broken ⊢
        rw [← (List.append_inj' broken rfl).1, List.append_assoc, counted_comment, List.cons_append,
          counted_comment]

/-- The settings of a text whose first line is whole. -/
theorem addText_append {l : List Char} (h : Whole l) (r : List Char) (s : Settings) :
    s.addText (l ++ '\n' :: r) = (s.addLine l).addText r := by
  rw [addText, lines_append h.unbroken, List.foldl_cons, addLine_congr h.chopped]
  rfl

/-- The settings after some more lines. -/
def addLines (s : Settings) (ls : List String) : Settings :=
  ls.foldl (fun s l => s.addLine l.toList) s

theorem addLines_cons (s : Settings) (l : String) (ls : List String) :
    s.addLines (l :: ls) = (s.addLine l.toList).addLines ls := rfl

theorem addLines_append (s : Settings) (ls ms : List String) :
    s.addLines (ls ++ ms) = (s.addLines ls).addLines ms :=
  List.foldl_append

/-- **The settings of joined lines** are the fold over the lines. -/
theorem addText_join {ls : List String} (h : ∀ l ∈ ls, Whole l.toList) (s : Settings) :
    s.addText ("\n".intercalate ls).toList = s.addLines ls := by
  induction ls generalizing s with
  | nil => rw [String.intercalate_nil]; exact addText_of_unbroken List.not_mem_nil s
  | cons l ls ih =>
    have whole := h l List.mem_cons_self
    cases ls with
    | nil =>
      rw [String.intercalate_singleton]
      exact addText_of_unbroken whole.unbroken s
    | cons m ms =>
      rw [String.intercalate_cons_cons, String.toList_append, String.toList_append,
        List.append_assoc]
      exact (addText_append whole _ s).trans (ih (fun l hl => h l (List.mem_cons_of_mem _ hl)) _)

/-- **Spaces in a text** do not count, wherever they stand. -/
theorem addText_filter {text : List Char} (cr : '\r' ∉ text) (s : Settings) :
    s.addText (text.filter (· ≠ ' ')) = s.addText text := by
  have kept : ∀ {x : Char} {l : List Char}, x ∉ l → x ∉ l.filter (· ≠ ' ') :=
    fun fresh hmem => fresh (List.mem_filter.1 hmem).1
  induction text using line_induction generalizing s with
  | last l feed =>
    rw [addText_of_unbroken (kept feed), addText_of_unbroken feed, addLine_congr (counted_filter l)]
  | next l r feed ih =>
    obtain ⟨crl, crr⟩ : '\r' ∉ l ∧ '\r' ∉ r := by
      simpa using cr
    rw [List.filter_append, List.filter_cons_of_pos (by decide),
      addText_append (.of_plain (kept feed) (kept crl)), addText_append (.of_plain feed crl),
      addLine_congr (counted_filter l), ih crr]

end Settings

/-! ## The last line counts -/

/-- What a row of lines sets: what the last of those lines sets that set anything, or what was there
from the start. -/
inductive LastSet {α : Type} (sets : String → α → Prop) (initial : α) (ls : List String) (x : α) :
    Prop where
  | unset (none : ∀ l ∈ ls, ∀ y, ¬ sets l y) (same : x = initial) : LastSet sets initial ls x
  | last {before after : List String} {l : String} (split : ls = before ++ l :: after)
      (here : sets l x) (later : ∀ m ∈ after, ∀ y, ¬ sets m y) : LastSet sets initial ls x

/-- A fold whose steps set something or leave it alone leaves what the last of them has set. -/
theorem LastSet.of_foldl {α β : Type} {sets : String → α → Prop} {f : β → String → β} {g : β → α}
    (step : ∀ s l, sets l (g (f s l)) ∨ (∀ y, ¬ sets l y) ∧ g (f s l) = g s) (s : β)
    (ls : List String) : LastSet sets (g s) ls (g (ls.foldl f s)) := by
  induction ls generalizing s with
  | nil => exact .unset (fun _ h => by cases h) rfl
  | cons l ls ih =>
    cases ih (f s l) with
    | @last before after m split here later =>
      have longer : l :: ls = (l :: before) ++ m :: after := congrArg (l :: ·) split
      exact .last longer here later
    | unset none same =>
      rcases step s l with here | ⟨idle, kept⟩
      · have first : l :: ls = [] ++ l :: ls := rfl
        refine .last first ?_ none
        rw [List.foldl_cons, same]
        exact here
      · refine .unset (fun m hm => ?_) ?_
        · rcases List.mem_cons.1 hm with rfl | hm
          · exact idle
          · exact none m hm
        · rw [List.foldl_cons, same, kept]

/-- The line assigns the value to the key: what counts of it is the key, an equals sign and the
value, which may hold further equals signs. -/
structure Assigns (line key value : String) : Prop where
  text : counted line.toList = key.toList ++ '=' :: value.toList
  first : '=' ∉ key.toList

/-- The line switches the algorithm on or off. -/
def SetsEnabled (line : String) (on : Bool) : Prop :=
  ∃ value, Assigns line "enable" value ∧ on = enables value.toList

/-- The line sets a level, by its keyword. -/
def SetsLevel (line : String) (level : SyslogLevel) : Prop :=
  Assigns line "syslog_level" level.keyword

theorem assigns_iff {line key value : String} :
    Assigns line key value ↔ entry? line.toList = some (key.toList, value.toList) := by
  rw [entry?_eq_some_iff]
  exact ⟨fun ⟨text, first⟩ => ⟨text, first⟩, fun ⟨text, first⟩ => ⟨text, first⟩⟩

/-- A line assigns nothing, or one value to one key. -/
theorem unassigned_or_assigns (line : String) :
    entry? line.toList = none ∧ (∀ key value, ¬ Assigns line key value) ∨
      ∃ key value, Assigns line key value := by
  cases he : entry? line.toList with
  | none => exact .inl ⟨rfl, fun key value h => by cases he.symm.trans (assigns_iff.1 h)⟩
  | some e => exact .inr ⟨.ofList e.1, .ofList e.2, assigns_iff.2 (by simp [he])⟩

theorem Assigns.unique {line key value key' value' : String} (h : Assigns line key value)
    (h' : Assigns line key' value') : key = key' ∧ value = value' := by
  have same := Option.some.inj ((assigns_iff.1 h).symm.trans (assigns_iff.1 h'))
  exact (Prod.mk.inj same).imp String.toList_inj.1 String.toList_inj.1

theorem ofKeyword?_keyword (level : SyslogLevel) :
    SyslogLevel.ofKeyword? level.keyword = .ok level := by
  cases level <;> rfl

theorem keyword_of_ofKeyword? {word : String} {level : SyslogLevel}
    (h : SyslogLevel.ofKeyword? word = .ok level) : level.keyword = word := by
  unfold SyslogLevel.ofKeyword? at h
  split at h
  · rename_i found
    cases h
    simpa using List.find?_some found
  · cases h

namespace Settings

/-- A line that assigns nothing changes nothing. -/
theorem addLine_of_unassigned {l : List Char} (h : entry? l = none) (s : Settings) :
    s.addLine l = s := by
  rw [addLine, h]

theorem addLine_of_assigns {l key value : String} (h : Assigns l key value) (s : Settings) :
    s.addLine l.toList =
      if key = "enable" then { s with enabled := enables value.toList }
      else if key = "syslog_level" then
        match SyslogLevel.ofKeyword? value with
        | .ok level => { s with level := level }
        | .error _ => s
      else s := by
  rw [addLine, assigns_iff.1 h]
  by_cases enable : key = "enable"
  · rw [if_pos enable]
    exact if_pos (congrArg String.toList enable)
  · rw [if_neg enable]
    refine (if_neg (mt String.toList_inj.1 enable)).trans ?_
    by_cases level : key = "syslog_level"
    · rw [if_pos level, String.ofList_toList]
      exact if_pos (congrArg String.toList level)
    · rw [if_neg level]
      exact if_neg (mt String.toList_inj.1 level)

/-- A line switches the algorithm, or leaves the switch alone. -/
theorem addLine_enabled (s : Settings) (l : String) :
    SetsEnabled l (s.addLine l.toList).enabled ∨
      (∀ on, ¬ SetsEnabled l on) ∧ (s.addLine l.toList).enabled = s.enabled := by
  rcases unassigned_or_assigns l with ⟨unassigned, none⟩ | ⟨key, value, assigns⟩
  · rw [addLine_of_unassigned unassigned]
    exact .inr ⟨fun on ⟨value, h, _⟩ => none _ _ h, rfl⟩
  · rw [addLine_of_assigns assigns]
    by_cases enable : key = "enable"
    · rw [if_pos enable]
      exact .inl ⟨value, enable ▸ assigns, rfl⟩
    · refine .inr ⟨fun on ⟨_, h, _⟩ => enable (assigns.unique h).1, ?_⟩
      rw [if_neg enable]
      split
      · cases SyslogLevel.ofKeyword? value <;> rfl
      · rfl

/-- A line sets a level, or leaves the level alone. -/
theorem addLine_level (s : Settings) (l : String) :
    SetsLevel l (s.addLine l.toList).level ∨
      (∀ level, ¬ SetsLevel l level) ∧ (s.addLine l.toList).level = s.level := by
  rcases unassigned_or_assigns l with ⟨unassigned, none⟩ | ⟨key, value, assigns⟩
  · rw [addLine_of_unassigned unassigned]
    exact .inr ⟨fun level h => none _ _ h, rfl⟩
  · rw [addLine_of_assigns assigns]
    by_cases levels : key = "syslog_level"
    · subst levels
      rw [if_neg (by decide), if_pos rfl]
      cases known : SyslogLevel.ofKeyword? value with
      | ok level =>
        left
        rw [SetsLevel, keyword_of_ofKeyword? known]
        exact assigns
      | error e =>
        refine .inr ⟨fun level h => ?_, rfl⟩
        obtain ⟨-, rfl⟩ := assigns.unique h
        cases known.symm.trans (ofKeyword?_keyword level)
    · refine .inr ⟨fun level h => levels (assigns.unique h).1, ?_⟩
      rw [if_neg levels]
      split <;> rfl

end Settings

/-! ## What the lines decide -/

/-- The line neither switches the algorithm nor assigns to the level: no equals sign stands before
its comment, or it assigns to another key. -/
inductive Idle (line : String) : Prop where
  | unassigned (none : '=' ∉ counted line.toList) : Idle line
  | otherKey {key value : String} (assigns : Assigns line key value) (enable : key ≠ "enable")
      (level : key ≠ "syslog_level") : Idle line

/-- The line has no line end in it. -/
structure Plain (line : String) : Prop where
  feed : '\n' ∉ line.toList
  cr : '\r' ∉ line.toList

instance (line : String) : Decidable (Plain line) :=
  decidable_of_iff ('\n' ∉ line.toList ∧ '\r' ∉ line.toList)
    ⟨fun ⟨feed, cr⟩ => ⟨feed, cr⟩, fun ⟨feed, cr⟩ => ⟨feed, cr⟩⟩

theorem Idle.addLine {line : String} (h : Idle line) (s : Settings) :
    s.addLine line.toList = s := by
  cases h with
  | unassigned none =>
    rcases unassigned_or_assigns line with ⟨unassigned, -⟩ | ⟨key, value, assigns⟩
    · exact Settings.addLine_of_unassigned unassigned s
    · rw [assigns.text] at none
      exact absurd (List.mem_append_right _ List.mem_cons_self) none
  | otherKey assigns enable level =>
    rw [Settings.addLine_of_assigns assigns, if_neg enable, if_neg level]

theorem addLines_of_idle {ls : List String} (h : ∀ l ∈ ls, Idle l) (s : Settings) :
    s.addLines ls = s := by
  induction ls with
  | nil => rfl
  | cons l ls ih =>
    rw [Settings.addLines_cons, (h l List.mem_cons_self).addLine]
    exact ih fun m hm => h m (List.mem_cons_of_mem _ hm)

/-- The text of a control file with these lines. -/
def joined (ls : List String) : String :=
  "\n".intercalate ls

/-- What the lines of a control file decide, and which edits of it change nothing. -/
structure ControlLines (ls : List String) : Prop where
  fold : Settings.parse (joined ls) = Settings.standard.addLines ls
  /-- The last line with the key of the switch decides, by its value alone. -/
  enabled : LastSet SetsEnabled true ls (Settings.parse (joined ls)).enabled
  /-- The last line with a valid level decides, whatever invalid ones follow it. -/
  level : LastSet SetsLevel .warning ls (Settings.parse (joined ls)).level
  /-- Spaces may be added or removed anywhere. -/
  spaces : ∀ text : String, text.toList.filter (· ≠ ' ') = (joined ls).toList.filter (· ≠ ' ') →
    Settings.parse text = Settings.parse (joined ls)
  /-- A comment may be added to any line. -/
  comments : ∀ before line after (comment : String), ls = before ++ line :: after →
    '\n' ∉ comment.toList →
    Settings.parse (joined (before ++ (line ++ "#" ++ comment) :: after)) =
      Settings.parse (joined ls)
  /-- Idle lines may be added anywhere. -/
  idle : ∀ before inserted after, ls = before ++ after → (∀ l ∈ inserted, Plain l ∧ Idle l) →
    Settings.parse (joined (before ++ inserted ++ after)) = Settings.parse (joined ls)
  /-- The lines that come last are read with the settings of those before them. -/
  concatenated : ∀ before after, ls = before ++ after →
    Settings.parse (joined ls) = (Settings.parse (joined before)).addText (joined after).toList

theorem parse_joined {ls : List String} (h : ∀ l ∈ ls, Settings.Whole l.toList) :
    Settings.parse (joined ls) = Settings.standard.addLines ls :=
  Settings.addText_join h Settings.standard

theorem Plain.whole {line : String} (h : Plain line) : Settings.Whole line.toList :=
  .of_plain h.feed h.cr

/-- No carriage return comes into a text by joining lines. -/
theorem cr_not_mem_joined {ls : List String} (h : ∀ l ∈ ls, Plain l) :
    '\r' ∉ (joined ls).toList := by
  unfold joined
  induction ls with
  | nil => simp
  | cons l ls ih =>
    have rest := ih fun m hm => h m (List.mem_cons_of_mem _ hm)
    have here := (h l List.mem_cons_self).cr
    cases ls with
    | nil => simpa using here
    | cons m ms =>
      rw [String.intercalate_cons_cons, String.toList_append, String.toList_append]
      simp only [List.mem_append, not_or]
      exact ⟨⟨here, by decide⟩, rest⟩

/-- **The control file line by line**, for lines without line ends in them. -/
theorem control_lines (ls : List String) (plain : ∀ l ∈ ls, Plain l) : ControlLines ls := by
  have whole : ∀ l ∈ ls, Settings.Whole l.toList := fun l hl => (plain l hl).whole
  have fold := parse_joined whole
  refine ⟨fold, ?enabled, ?level, ?spaces, ?comments, ?idle, ?concatenated⟩
  case enabled =>
    rw [fold]
    exact .of_foldl Settings.addLine_enabled Settings.standard ls
  case level =>
    rw [fold]
    exact .of_foldl Settings.addLine_level Settings.standard ls
  case spaces =>
    intro text same
    have absent := cr_not_mem_joined plain
    have cr : '\r' ∉ text.toList := by
      intro hmem
      have kept : '\r' ∈ (joined ls).toList.filter (· ≠ ' ') :=
        same ▸ List.mem_filter.2 ⟨hmem, rfl⟩
      exact absent (List.mem_filter.1 kept).1
    rw [Settings.parse, ← Settings.addText_filter cr, same, Settings.addText_filter absent]
    rfl
  case comments =>
    rintro before line after comment rfl feed
    have commented : Settings.Whole (line ++ "#" ++ comment).toList := by
      rw [String.toList_append, String.toList_append, List.append_assoc]
      exact .comment (whole line (by simp)).unbroken feed
    have same : ∀ s : Settings,
        s.addLine (line ++ "#" ++ comment).toList = s.addLine line.toList := by
      intro s
      rw [String.toList_append, String.toList_append, List.append_assoc]
      exact Settings.addLine_congr (counted_comment _ _) s
    rw [parse_joined, fold, Settings.addLines_append, Settings.addLines_append,
      Settings.addLines_cons, Settings.addLines_cons, same]
    intro l hl
    rcases List.mem_append.1 hl with hl | hl
    · exact whole l (List.mem_append_left _ hl)
    · rcases List.mem_cons.1 hl with rfl | hl
      · exact commented
      · exact whole l (List.mem_append_right _ (List.mem_cons_of_mem _ hl))
  case idle =>
    rintro before inserted after rfl idle
    rw [parse_joined, fold, Settings.addLines_append, Settings.addLines_append,
      Settings.addLines_append, addLines_of_idle fun l hl => (idle l hl).2]
    intro l hl
    rcases List.mem_append.1 hl with hl | hl
    · rcases List.mem_append.1 hl with hl | hl
      · exact whole l (List.mem_append_left _ hl)
      · exact (idle l hl).1.whole
    · exact whole l (List.mem_append_right _ hl)
  case concatenated =>
    rintro before after rfl
    rw [fold, parse_joined fun l hl => whole l (List.mem_append_left _ hl), joined,
      Settings.addText_join fun l hl => whole l (List.mem_append_right _ hl),
      Settings.addLines_append]

/-- The last line with a valid level decides, though one with an invalid level follows it. -/
theorem control_lines_with_invalid_level :
    let ls := ["enable = 0", "syslog_level=LOG_INFO # quiet", "syslog_level=LOUD", "fans"]
    (∀ l ∈ ls, Plain l) ∧ ControlLines ls ∧ Settings.parse (joined ls) = ⟨false, .info⟩ := by
  intro ls
  have plain : ∀ l ∈ ls, Plain l := by decide
  have control := control_lines ls plain
  exact ⟨plain, control, control.fold.trans (by decide)⟩

end SwitchThermal
