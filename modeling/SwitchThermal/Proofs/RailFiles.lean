import SwitchThermal.Proofs.AttributeFiles
import SwitchThermal.Proofs.RailAlarms

/-!
# Rails as attribute files

What is written below a root leaves the files with other names alone. So a board of attribute files
shows the same rails whatever is set on it.

* `FileTree.walk_append`, `FileTree.walk_down` — walks in two parts, and walks along ordinary names.
* `FileTree.look_write_aside` — a write below a root, seen from another path below it.
* `AttributeTree.railTexts` — what the attributes of a rail hold; `rail_congr` is that they decide
  its reading, and `railTexts_devices` that no device access changes them.
* `RailsAside` — registers and a control file that leave the attributes of the rails alone.
* `OnFiles.railTexts_after`, `OnFiles.pollRails` — the rails after any accesses, and their answers.
* `RailScan.alarms_congr` — scans of rails whose attributes hold the same.
-/

set_option autoImplicit false

namespace SwitchThermal

/-! ## Writes seen from other paths -/

namespace FileTree

variable {t t' : FileTree} {p q here : Place} {names xs ys : List String} {root : TreePath}
  {content : Runs}

theorem walk_append (t : FileTree) (here : Place) (names rest : List String) :
    t.walk here (names ++ rest) = t.walk here names >>= fun p => t.walk p rest := by
  induction names generalizing here with
  | nil => rfl
  | cons name names ih =>
    rw [List.cons_append, walk_cons, walk_cons]
    cases t.follow here name with
    | error e => rfl
    | ok p => exact ih p

/-- A name that leads down from a directory. -/
def Ordinary (name : String) : Prop :=
  name ≠ "" ∧ name ≠ "." ∧ name ≠ ".."

theorem follow_ordinary {name : String} (ordinary : Ordinary name)
    (h : t.follow here name = .ok q) : q = here ++ [name] := by
  obtain ⟨blank, dot, up⟩ := ordinary
  unfold follow at h
  split at h
  · cases h
  · rw [if_neg (by simp [blank, dot]), if_neg up] at h
    split at h
    · cases h
    · cases h
      rfl
  · cases h

/-- Ordinary names lead straight down. -/
theorem walk_down (ordinary : ∀ name ∈ names, Ordinary name) (h : t.walk here names = .ok q) :
    q = here ++ names := by
  induction names generalizing here with
  | nil =>
    cases h
    exact (List.append_nil _).symm
  | cons name names ih =>
    obtain ⟨first, rest⟩ := List.forall_mem_cons.1 ordinary
    rw [walk_cons] at h
    obtain ⟨there, next, below⟩ := bind_eq_ok h
    rw [ih rest below, follow_ordinary first next, List.append_assoc]
    rfl

/-- A walk along ordinary names does not notice a change at a place that it does not touch. -/
theorem walk_setNode_aside (below : p ≠ []) (n : Node)
    (ordinary : ∀ name ∈ names, Ordinary name)
    (aside : ∀ way, way <+: names → here ++ way ≠ p) :
    (t.setNode p n).walk here names = t.walk here names := by
  induction names generalizing here with
  | nil => rfl
  | cons name names ih =>
    obtain ⟨first, rest⟩ := List.forall_mem_cons.1 ordinary
    have elsewhere : here ≠ p := by
      simpa using aside [] List.nil_prefix
    have same : (t.setNode p n).follow here name = t.follow here name := by
      unfold follow
      rw [node?_setNode n below, if_neg elsewhere]
    rw [walk_cons, walk_cons, same]
    cases next : t.follow here name with
    | error e => rfl
    | ok there =>
      obtain rfl := follow_ordinary first next
      refine ih rest fun way hway => ?_
      rw [List.append_assoc]
      exact aside _ ((List.prefix_cons_inj name).2 hway)

/-- **A write below a root** does not show at a path below it that does not pass by what is written.
-/
theorem look_write_aside (h : t.write (root.child xs) content = .ok t')
    (written : ∀ name ∈ xs, Ordinary name) (seen : ∀ name ∈ ys, Ordinary name)
    (aside : ¬ xs <+: ys) : t'.look (root.child ys) = t.look (root.child ys) := by
  obtain ⟨p, executable, located, file, rfl⟩ := write_eq_ok h
  have below : p ≠ [] := by
    rintro rfl
    exact file (if_pos rfl)
  -- the way to the root leads through directories, so it is still there after the write
  obtain ⟨base, toRoot, place⟩ : ∃ base, t.walk [] root.names = .ok base ∧ p = base ++ xs := by
    have walked := (locate_eq_ok_iff.1 located).2
    rw [TreePath.child, walk_append] at walked
    obtain ⟨base, toRoot, below⟩ := bind_eq_ok walked
    exact ⟨base, toRoot, walk_down written below⟩
  have apart : ∀ way, way <+: ys → base ++ way ≠ p := by
    rintro way hway same
    rw [place] at same
    exact aside (List.append_cancel_left same ▸ hway)
  have walk_eq : (t.setNode p (.file content executable)).walk [] (root.names ++ ys) =
      t.walk [] (root.names ++ ys) := by
    rw [walk_append, walk_append, walk_setNode toRoot file, toRoot]
    exact walk_setNode_aside below _ seen apart
  have locate_eq : (t.setNode p (.file content executable)).locate (root.child ys) =
      t.locate (root.child ys) := by
    unfold locate
    cases usable : usableNames (root.child ys) with
    | error e => rfl
    | ok names =>
      obtain rfl := usableNames_eq_ok usable
      simp only [TreePath.child, walk_eq]
  unfold look
  rw [locate_eq]
  cases found : t.locate (root.child ys) with
  | error e => rfl
  | ok q =>
    have place_eq : q = base ++ ys := by
      have walked := (locate_eq_ok_iff.1 found).2
      rw [TreePath.child, walk_append, toRoot] at walked
      exact walk_down seen walked
    have other : q ≠ p := place_eq ▸ apart ys (List.prefix_refl ys)
    simp only [node?_setNode _ below, if_neg other]

end FileTree

/-! ## Texts -/

/-- The text of a file is told by the node that its path leads to. -/
theorem Attribute.readText_congr {t t' : FileTree} {path : TreePath}
    (h : t'.look path = t.look path) : Attribute.readText t' path = Attribute.readText t path := by
  simp only [readText, FileTree.readText, FileTree.readBytes, h]

/-- Whether an attribute holds an integer, and which one, is told by its text alone. -/
theorem Attribute.toOption_readInt (t : FileTree) (path : TreePath) :
    (readInt t path).toOption =
      (readText t path).toOption.bind fun content =>
        Text.readInt32 (Text.trim content.toList) := by
  unfold readInt
  cases readText t path with
  | error e => rfl
  | ok content =>
    simp only [parseInt, Except.toOption, Option.bind_some]
    cases Text.readInt32 (Text.trim content.toList) <;> rfl

/-! ## Rails -/

namespace AttributeTree

variable {root root' : TreePath} {t t' : FileTree} {r : Rail}

/-- What the attributes of a rail hold, where they can be read. -/
def railTexts (root : TreePath) (t : FileTree) (r : Rail) : List (Option String) :=
  (attributes (.rail r)).map fun names => (Attribute.readText t (root.child names)).toOption

/-- A reading of a rail is told by the three texts, below whichever root they are. -/
theorem rail_congr (h : railTexts root t r = railTexts root' t' r) :
    (rail t root r).toOption = (rail t' root' r).toOption := by
  have bind_eq {α β : Type} (x : Except Fault α) (f : α → Except Fault β) :
      (x >>= f).toOption = x.toOption.bind fun a => (f a).toOption := by
    cases x <;> rfl
  simp only [railTexts, attributes, List.map_cons, List.map_nil, List.cons.injEq, and_true] at h
  obtain ⟨level, least, greatest⟩ := h
  simp only [rail, bind_eq, Attribute.toOption_readInt, level, least, greatest]

/-- A setting in another directory leaves the texts of the rails as they are. -/
theorem railTexts_changed {directory name : String} {result : Except Fault FileTree}
    (written : ∀ t', result = .ok t' →
      ∃ content, t.write (root.child [directory, name]) content = .ok t')
    (ordinary : ∀ part ∈ [directory, name], FileTree.Ordinary part)
    (elsewhere : directory ≠ "voltage") :
    railTexts root (changed t result).next = railTexts root t := by
  cases result with
  | error e => rfl
  | ok t' =>
    obtain ⟨content, written⟩ := written t' rfl
    funext r
    refine List.map_congr_left fun names hnames => congrArg Except.toOption ?_
    obtain ⟨ending, hending, rfl⟩ := List.mem_map.1 hnames
    refine Attribute.readText_congr (FileTree.look_write_aside written ordinary ?_ fun below => ?_)
    · have usual : ∀ ending ∈ ["_in", "_min", "_max"], ∀ part ∈ ["voltage", r.stem ++ ending],
          FileTree.Ordinary part := by
        unfold FileTree.Ordinary
        cases r <;> decide
      exact usual ending hending
    · exact elsewhere (List.cons_prefix_cons.1 below).1

/-- **No device access changes the texts of a rail.** -/
theorem railTexts_devices (root : TreePath) (q : DeviceQuery) (t : FileTree) :
    railTexts root (devices root q t).next = railTexts root t := by
  cases q with
  | fan f | sensor x | supply p | rail r => rfl
  | setFan f percentage =>
    have written : ∀ t', setFan t root f percentage = .ok t' →
        ∃ content, t.write (root.child ["fan", "fan_speed_set"]) content = .ok t' := by
      intro t' h
      exact ⟨_, Attribute.write_of_writeText (writeText_of_setFan h)⟩
    refine railTexts_changed written ?_ (by decide)
    unfold FileTree.Ordinary
    decide
  | setLed led mode =>
    refine railTexts_changed (fun t' h => ⟨_, Attribute.write_of_writeText h⟩) ?_ (by decide)
    unfold FileTree.Ordinary
    cases led <;> decide

end AttributeTree

/-! ## Boards -/

variable {σ : Type} {b : Board σ} {root : TreePath} {files : σ → FileTree}

/-- The registers and the control file leave what the attributes of the rails hold as it is. -/
structure RailsAside (root : TreePath) (files : σ → FileTree) (b : Board σ) : Prop where
  register : ∀ q w, AttributeTree.railTexts root (files (b (.register q) w).next) =
    AttributeTree.railTexts root (files w)
  controlFile : ∀ path w, AttributeTree.railTexts root (files (b (.controlFile path) w).next) =
    AttributeTree.railTexts root (files w)

namespace OnFiles

/-- **The rails hold the same after any accesses.** -/
theorem railTexts_after (onFiles : OnFiles root files b) (aside : RailsAside root files b)
    (qs : List Query) (w : σ) : AttributeTree.railTexts root (files (b.after w qs)) =
      AttributeTree.railTexts root (files w) := by
  induction qs generalizing w with
  | nil => rfl
  | cons q qs ih =>
    rw [Board.after_cons, ih]
    cases q with
    | device q =>
      rw [onFiles.next]
      exact AttributeTree.railTexts_devices root q (files w)
    | controlFile path => exact aside.controlFile path w
    | register q => exact aside.register q w

/-- Rails that are read one after another are read from one tree. -/
theorem pollRails (onFiles : OnFiles root files b) (l : List Rail) (w : σ) :
    b.pollRails l w = l.map fun r => (r, AttributeTree.rail (files w) root r) := by
  induction l generalizing w with
  | nil => rfl
  | cons r l ih =>
    have still : files (b (railAccess r) w).next = files w := onFiles.next (.rail r) w
    have first : (b (railAccess r) w).answer = AttributeTree.rail (files w) root r :=
      onFiles.answer (.rail r) w
    have rest := ih (b (railAccess r) w).next
    rw [still] at rest
    rw [Board.pollRails, poll, List.map_cons, first]
    exact congrArg _ rest

end OnFiles

/-- **The alarms of a scan are told by what the attributes of the rails hold.** Neither the monitors
nor the other files matter, and the boards may be different ones. -/
theorem RailScan.alarms_congr {τ : Type} {b' : Board τ} {root' : TreePath} {files' : τ → FileTree}
    (onFiles : OnFiles root files b) (onFiles' : OnFiles root' files' b') {s : RailScan b}
    {s' : RailScan b'} (same : AttributeTree.railTexts root (files s.world) =
      AttributeTree.railTexts root' (files' s'.world)) : s.alarms = s'.alarms := by
  have alarm_congr {r : Rail} {a a' : Except Fault RailReading} (h : a.toOption = a'.toOption) :
      RailMonitor.alarm? r a = RailMonitor.alarm? r a' := by
    cases a <;> cases a' <;> cases h <;> rfl
  rw [s.alarms_eq, s'.alarms_eq, readings, readings, onFiles.pollRails, onFiles'.pollRails]
  simp only [RailMonitor.alarmsOf, List.flatMap_map]
  refine List.flatMap_congr fun r _ => congrArg Option.toList (alarm_congr ?_)
  exact AttributeTree.rail_congr (congrFun same r)

end SwitchThermal
