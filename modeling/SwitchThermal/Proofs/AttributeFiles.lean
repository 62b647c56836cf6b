import SwitchThermal.AttributeTree
import SwitchThermal.Proofs.Command
import SwitchThermal.Proofs.Survey

/-!
# Attribute files

What holds of devices that are attribute files, whatever the files hold.

* `FileTree.locate_eq_ok_iff`, `FileTree.look_eq_ok_iff` — where a path leads, and what is there.
* `FileTree.readBytes_write`, `Attribute.readText_writeText` — a file holds what was written to it.
* `OverAttributes`, `OnFiles` — the devices of a board are attribute files below a root: every
  answer comes from some tree, or from the tree that the board's state holds.
* `AttributeTree.ShowsFan`, `AttributeTree.fan_cases` — what the reading of a fan comes from.
* `AttributeTree.percentage_le`, `Round.speed_le` — valid speeds are bounded.
* `AttributeTree.kind_of_unreadable` — a fan that cannot be read is an internal fault.
* `OnFiles.speed_set`, `OnFiles.after_follow` — the speed attribute after a setting of the primary
  fan, and the files after the accesses that follow it.
-/

set_option autoImplicit false

namespace SwitchThermal

variable {σ : Type} {b : Board σ} {w : σ} {root : TreePath}

/-! ## Files -/

namespace FileTree

variable {t t' : FileTree} {p q here : Place} {names : List String} {path : TreePath}
  {content : Runs}

/-- Only directories lead on, so a node that is no directory is not on the way. -/
theorem follow_setNode {name : String} (h : t.follow here name = .ok q)
    (aside : t.node? p ≠ some .directory) (n : Node) :
    (t.setNode p n).follow here name = .ok q := by
  have directory : t.node? here = some .directory := by
    unfold follow at h
    split at h
    · cases h
    · assumption
    · cases h
  have elsewhere : here ≠ p := by
    rintro rfl
    exact aside directory
  have below : p ≠ [] := by
    rintro rfl
    exact aside (if_pos rfl)
  unfold follow at h ⊢
  rw [node?_setNode n below, if_neg elsewhere]
  exact h

theorem walk_cons (t : FileTree) (here : Place) (name : String) (names : List String) :
    t.walk here (name :: names) = t.follow here name >>= fun p => t.walk p names := by
  rw [walk]
  cases t.follow here name <;> rfl

theorem walk_setNode (h : t.walk here names = .ok q) (aside : t.node? p ≠ some .directory)
    (n : Node) : (t.setNode p n).walk here names = .ok q := by
  induction names generalizing here with
  | nil => exact h
  | cons name names ih =>
    rw [walk_cons] at h ⊢
    obtain ⟨there, next, rest⟩ := bind_eq_ok h
    rw [follow_setNode next aside n]
    exact ih rest

theorem usableNames_eq_ok (h : usableNames path = .ok names) : names = path.names := by
  unfold usableNames at h
  split at h
  · cases h
  · split at h
    · cases h
    · split at h
      · cases h
      · cases h
        rfl

theorem locate_eq_ok_iff : t.locate path = .ok q ↔
    usableNames path = .ok path.names ∧ t.walk [] path.names = .ok q := by
  unfold locate
  constructor
  · intro h
    split at h
    · cases h
    · rename_i names usable
      obtain rfl := usableNames_eq_ok usable
      split at h
      · cases h
      · rename_i walked
        cases h
        exact ⟨usable, walked⟩
  · rintro ⟨usable, walked⟩
    simp only [usable, walked]

/-- Where a path leads, there is a node. -/
theorem look_eq_ok_iff {n : Node} :
    t.look path = .ok n ↔ ∃ p, t.locate path = .ok p ∧ t.node? p = some n := by
  unfold look
  constructor
  · intro h
    split at h
    · cases h
    · rename_i p located
      split at h
      · cases h
      · rename_i node
        cases h
        exact ⟨p, located, node⟩
  · rintro ⟨p, located, node⟩
    simp only [located, node]

theorem locate_setNode (h : t.locate path = .ok q) (aside : t.node? p ≠ some .directory)
    (n : Node) : (t.setNode p n).locate path = .ok q := by
  obtain ⟨usable, walked⟩ := locate_eq_ok_iff.1 h
  exact locate_eq_ok_iff.2 ⟨usable, walk_setNode walked aside n⟩

/-- A path leads to what has replaced the file or program that it led to. -/
theorem look_setNode (h : t.locate path = .ok p) (aside : t.node? p ≠ some .directory) (n : Node) :
    (t.setNode p n).look path = .ok n := by
  have below : p ≠ [] := by
    rintro rfl
    exact aside (if_pos rfl)
  have node : (t.setNode p n).node? p = some n := by
    rw [node?_setNode n below, if_pos rfl]
  exact look_eq_ok_iff.2 ⟨p, locate_setNode h aside n, node⟩

/-- A file is made where its path leads. -/
theorem locate_of_locateNew (h : t.locateNew path = .ok p) : t.locate path = .ok p := by
  unfold locateNew at h
  split at h
  · cases h
  · split at h
    · split at h <;> cases h
    · exact h

/-- What a write does to a tree. -/
theorem write_eq_ok (h : t.write path content = .ok t') :
    ∃ p executable, t.locate path = .ok p ∧ t.node? p ≠ some .directory ∧
      t' = t.setNode p (.file content executable) := by
  unfold write at h
  cases place : t.locateNew path with
  | error e =>
    rw [place] at h
    cases h
  | ok p =>
    rw [place] at h
    have located := locate_of_locateNew place
    cases node : t.node? p with
    | none =>
      simp only [node] at h
      cases h
      exact ⟨p, false, located, by rw [node]; nofun, rfl⟩
    | some n =>
      simp only [node] at h
      cases n with
      | directory => cases h
      | file old executable =>
        cases h
        exact ⟨p, executable, located, by rw [node]; nofun, rfl⟩
      | program =>
        cases h
        exact ⟨p, true, located, by rw [node]; nofun, rfl⟩

/-- **A file holds what was written to it.** -/
theorem readBytes_write (h : t.write path content = .ok t') :
    t'.readBytes path = .ok content.toBytes := by
  obtain ⟨p, executable, located, aside, rfl⟩ := write_eq_ok h
  rw [readBytes, look_setNode located aside]

end FileTree

theorem Attribute.write_of_writeText {t t' : FileTree} {path : TreePath} {value : String}
    (h : Attribute.writeText t path value = .ok t') :
    t.write path (Runs.ofBytes (Text.encode value)) = .ok t' := by
  unfold writeText at h
  split at h
  · rename_i written
    cases h
    exact written
  · cases h

theorem Attribute.readText_writeText {t t' : FileTree} {path : TreePath} {value : String}
    (h : Attribute.writeText t path value = .ok t') : Attribute.readText t' path = .ok value := by
  rw [readText, FileTree.readText, FileTree.readBytes_write (write_of_writeText h),
    Runs.toBytes_ofBytes]
  simp only [Text.decode?_encode]

theorem Attribute.readInt_of_readText {t : FileTree} {path : TreePath} {content : String}
    (h : Attribute.readText t path = .ok content) :
    Attribute.readInt t path = Attribute.parseInt path.text content := by
  rw [readInt, h]

/-- A text that is no number is shown without the blanks around it. -/
theorem Attribute.eq_malformed_of_parseInt {path content : String} {e : Fault}
    (h : Attribute.parseInt path content = .error e) :
    e = .malformed path (Text.trimText content) := by
  unfold parseInt at h
  split at h
  · cases h
  · cases h
    rfl

/-! ## Valid speeds -/

/-- The devices of the board are attribute files below a root. The files may change from one access
to the next. -/
def OverAttributes (root : TreePath) (b : Board σ) : Prop :=
  ∀ q w, ∃ tree, (b (.device q) w).answer = (AttributeTree.devices root q tree).answer

namespace AttributeTree

theorem fanPercentage_le {f : Fan} {rpm : Int} (turns : 0 < rpm)
    (valid : rpm * 100 < (f.greatestRpm : Int) * 112) : fanPercentage f rpm ≤ 111 := by
  have scaled : (rpm * 100).toNat < f.greatestRpm * 112 := by omega
  have quotient : (rpm * 100).toNat / f.greatestRpm < 112 := Nat.div_lt_of_lt_mul scaled
  unfold fanPercentage
  simp only
  split <;> omega

/-- A fan is there, and its attribute holds a speed. -/
structure ShowsFan (t : FileTree) (root : TreePath) (f : Fan) (rpm : Int) : Prop where
  present : modulePresent t root (fanModule f) = .ok true
  speed : Attribute.readInt t (root.child ["fan", speedFile f]) = .ok rpm

theorem ShowsFan.fan_eq {t : FileTree} {f : Fan} {rpm : Int} (h : ShowsFan t root f rpm) :
    fan t root f = .ok (fanReading f rpm) := by
  rw [fan, h.present]
  change (do let rpm ← Attribute.readInt t _; return fanReading f rpm) = _
  rw [h.speed]
  rfl

/-- What the reading of a fan comes from. -/
theorem fan_cases {t : FileTree} {f : Fan} {r : FanReading} (h : fan t root f = .ok r) :
    r = .absent f ∨ ∃ rpm, ShowsFan t root f rpm ∧ r = fanReading f rpm := by
  obtain ⟨there, present, h⟩ := bind_eq_ok h
  cases there with
  | false =>
    cases h
    exact .inl rfl
  | true =>
    obtain ⟨rpm, speed, h⟩ := bind_eq_ok h
    cases h
    exact .inr ⟨rpm, ⟨present, speed⟩, rfl⟩

/-- The speed of a valid fan, in percent, is below the upper end of the valid window. -/
theorem percentage_le {tree : FileTree} {f : Fan} {r : FanReading}
    (h : fan tree root f = .ok r) (healthy : r.healthy f = true) : r.percentage ≤ 111 := by
  rcases fan_cases h with rfl | ⟨rpm, -, rfl⟩
  · exact Nat.zero_le _
  · by_cases still : rpm ≤ 0
    · rw [fanReading, if_pos still]
      exact Nat.zero_le _
    · rw [fanReading, if_neg still] at healthy ⊢
      have valid : f.rpmValid rpm = true := by simpa [FanReading.healthy] using healthy
      simp only [Fan.rpmValid, Bool.and_eq_true, decide_eq_true_eq] at valid
      exact fanPercentage_le (Int.not_le.1 still) valid.2

end AttributeTree

/-- The chassis speed that a pass goes by is bounded. -/
theorem Round.speed_le (files : OverAttributes root b) (table : BandTable) (w : σ) :
    (b.round table w).speed ≤ 111 := by
  refine speedOf_le (by decide) fun f r hmem healthy => ?_
  obtain ⟨w', answer⟩ := mem_poll (mem_readings.1 hmem)
  obtain ⟨tree, shown⟩ := files (.fan f) w'
  exact AttributeTree.percentage_le (shown.symm.trans answer) healthy

/-! ## Kinds of faults -/

namespace AttributeTree

theorem kind_of_unreadableAttribute {tree : FileTree} {path : TreePath} {e : Fault}
    (h : Attribute.readInt tree path = .error e) : e.kind = .internal := by
  cases read : Attribute.readText tree path with
  | ok content =>
    rw [Attribute.readInt_of_readText read] at h
    rw [Attribute.eq_malformed_of_parseInt h]
    rfl
  | error e' =>
    rw [Attribute.readInt, read] at h
    cases h
    unfold Attribute.readText at read
    split at read
    · cases read
    · cases read
      rfl

theorem kind_of_unknownPresence {tree : FileTree} {module : String} {e : Fault}
    (h : modulePresent tree root module = .error e) : e.kind = .internal := by
  unfold modulePresent at h
  cases hread : Attribute.readInt tree (root.child ["module", module ++ "_status"]) with
  | error e' =>
    rw [hread] at h
    cases h
    exact kind_of_unreadableAttribute hread
  | ok n =>
    rw [hread] at h
    cases h

/-- A fan that cannot be read is an internal fault. -/
theorem kind_of_unreadable {tree : FileTree} {f : Fan} {e : Fault}
    (h : fan tree root f = .error e) : e.kind = .internal := by
  rcases bind_eq_error h with unknown | ⟨present, -, h⟩
  · exact kind_of_unknownPresence unknown
  · cases present with
    | false => cases h
    | true =>
      rcases bind_eq_error h with unreadable | ⟨rpm, -, h⟩
      · exact kind_of_unreadableAttribute unreadable
      · cases h

/-- Of the speeds in range none is refused but for a failing file. -/
theorem refused_by_file {tree : FileTree} {v : Nat} {e : Fault} (range : 60 ≤ v ∧ v ≤ 100)
    (h : setFan tree root .primary v = .error e) :
    ∃ cause, e = .unwritableFile (speedPath root).text cause := by
  have checked : checkSpeed .primary v = .ok () := by
    have positive : v ≠ 0 := by omega
    unfold checkSpeed
    rw [if_neg (by decide), if_neg positive, if_pos range]
  rcases bind_eq_error h with refused | ⟨-, -, unwritten⟩
  · rw [checked] at refused
    cases refused
  · unfold Attribute.writeText at unwritten
    split at unwritten
    · cases unwritten
    · cases unwritten
      exact ⟨_, rfl⟩

theorem writeText_of_setFan {tree tree' : FileTree} {f : Fan} {v : Nat}
    (h : setFan tree root f v = .ok tree') :
    Attribute.writeText tree (speedPath root) (speedText v) = .ok tree' := by
  obtain ⟨-, -, written⟩ := bind_eq_ok h
  exact written

/-- A setting is what the speed attribute then holds. -/
theorem speed_of_set {tree tree' : FileTree} {f : Fan} {v : Nat}
    (h : setFan tree root f v = .ok tree') :
    Attribute.readText tree' (speedPath root) = .ok (speedText v) :=
  Attribute.readText_writeText (writeText_of_setFan h)

theorem devices_setFan (tree : FileTree) (f : Fan) (v : Nat) :
    devices root (.setFan f v) tree = changed tree (setFan tree root f v) := rfl

/-- The fan of a supply cannot be set, so nothing changes. -/
theorem devices_setFan_supply (tree : FileTree) (p : PowerSupply) (v : Nat) :
    (devices root (.setFan (.supply p) v) tree).next = tree := rfl

end AttributeTree

/-! ## Boards on files -/

/-- The devices of the board are the attribute files below a root, in the tree that the board's
state holds. What the registers do to the tree is left open. -/
structure OnFiles (root : TreePath) (files : σ → FileTree) (b : Board σ) : Prop where
  answer : ∀ q w, (b (.device q) w).answer = (AttributeTree.devices root q (files w)).answer
  next : ∀ q w, files (b (.device q) w).next = (AttributeTree.devices root q (files w)).next

namespace OnFiles

variable {files : σ → FileTree} {v : Nat}

theorem overAttributes (h : OnFiles root files b) : OverAttributes root b :=
  fun q w => ⟨files w, h.answer q w⟩

/-- An accepted speed is what the speed attribute then holds. -/
theorem speed_set (h : OnFiles root files b)
    (accepted : (b (speedAccess .primary v) w).answer = .ok ()) :
    Attribute.readText (files (b (speedAccess .primary v) w).next) (AttributeTree.speedPath root) =
      .ok (AttributeTree.speedText v) := by
  rw [h.answer, AttributeTree.devices_setFan] at accepted
  rw [h.next, AttributeTree.devices_setFan]
  cases set : AttributeTree.setFan (files w) root .primary v with
  | error e =>
    rw [set] at accepted
    cases accepted
  | ok tree => exact AttributeTree.speed_of_set set

/-- The accesses by which the fans of the supplies follow change no file. -/
theorem follow (h : OnFiles root files b) {view : SupplyView} {percentage : Nat} {q : Query}
    (hq : FollowAccess view percentage q) (w : σ) : files (b q w).next = files w := by
  cases hq with
  | state p => exact h.next _ w
  | speed records p => exact h.next _ w
  | set view _ p => exact (h.next _ w).trans (AttributeTree.devices_setFan_supply _ p percentage)

theorem after_follow (h : OnFiles root files b) {view : SupplyView} {percentage : Nat}
    {qs : List Query} (hqs : ∀ q ∈ qs, FollowAccess view percentage q) (w : σ) :
    files (b.after w qs) = files w := by
  induction qs generalizing w with
  | nil => rfl
  | cons q qs ih =>
    obtain ⟨hq, hqs⟩ := List.forall_mem_cons.1 hqs
    rw [Board.after_cons, ih hqs, h.follow hq]

end OnFiles

end SwitchThermal
