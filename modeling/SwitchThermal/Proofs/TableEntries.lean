import Mathlib.Data.List.Destutter
import SwitchThermal.Band.Table

/-!
# Tables from entries

A table takes the first entry of each sensor, whatever the order of the entries and however many there
are of a sensor. It is what comes of sorting the entries in table order, those of one sensor left as
they were, and keeping the first of neighbours of one sensor.

* `get?_ofEntries` — the table looks up the first entry.
* `entriesOf`, `ofEntries_congr` — the entries of a sensor in their order, on which alone the table
  depends.
* `sortedEntries`, `entriesOf_mergeSort` — the sorted entries, and that sorting does not reorder those
  of one sensor.
* `entries_eq_sortedEntries` — the table lists the sorted entries.
* `FirstEntries`, `table_of_first_entries` — all of it.
-/

set_option autoImplicit false

namespace SwitchThermal.BandTable

variable {l l' : List (Sensor × Bands)} {x : Sensor} {bs : Bands}

/-! ## The first entry of a sensor -/

theorem get?_addEntry (t : BandTable) (e : Sensor × Bands) (x : Sensor) :
    (t.addEntry e).cells.get? x = (t.cells.get? x).or (if x = e.1 then some e.2 else none) := by
  unfold addEntry
  cases present : t.cells.get? e.1 with
  | some bs =>
    by_cases here : x = e.1
    · subst here
      simp [present]
    · simp [here]
  | none =>
    by_cases here : x = e.1
    · subst here
      simp [present]
    · simp [here, Cells.get?_insert_of_ne t.cells e.2 (Ne.symm here)]

theorem lookup_cons_eq (e : Sensor × Bands) (l : List (Sensor × Bands)) (x : Sensor) :
    (e :: l).lookup x = if x = e.1 then some e.2 else l.lookup x := by
  rw [List.lookup_cons]
  by_cases here : x = e.1
  · simp [here]
  · simp [here, beq_eq_false_iff_ne.2 here]

theorem get?_foldl_addEntry (t : BandTable) (l : List (Sensor × Bands)) (x : Sensor) :
    (l.foldl addEntry t).cells.get? x = (t.cells.get? x).or (l.lookup x) := by
  induction l generalizing t with
  | nil => simp
  | cons e l ih =>
    rw [List.foldl_cons, ih, get?_addEntry, Option.or_assoc, lookup_cons_eq]
    split
    · rw [Option.some_or]
    · rw [Option.none_or]

/-- A table looks up the first entry of a sensor. -/
theorem get?_ofEntries (l : List (Sensor × Bands)) (x : Sensor) :
    (ofEntries l).cells.get? x = l.lookup x := by
  rw [ofEntries, get?_foldl_addEntry, Cells.get?_empty, Option.none_or]

theorem mem_entries_ofEntries : (x, bs) ∈ (ofEntries l).entries ↔ l.lookup x = some bs := by
  rw [entries, Cells.mem_toList, get?_ofEntries]

theorem mem_relevant_ofEntries :
    x ∈ (ofEntries l).relevant ↔ ∃ bs, l.lookup x = some bs ∧ bs.relevant = true := by
  simp only [relevant, List.mem_map, List.mem_filter, Prod.exists, mem_entries_ofEntries]
  constructor
  · rintro ⟨y, bs, ⟨found, active⟩, rfl⟩
    exact ⟨bs, found, active⟩
  · rintro ⟨bs, found, active⟩
    exact ⟨x, bs, ⟨found, active⟩, rfl⟩

/-! ## The order of a table -/

/-- Entries that rise strictly in table order. -/
def Ascending (l : List (Sensor × Bands)) : Prop :=
  l.Pairwise fun a b => Listed.rank a.1 < Listed.rank b.1

theorem ascending_entries (t : BandTable) : Ascending t.entries :=
  t.cells.sorted_toList

/-- The sensors that steer the fans come once each, in table order. -/
theorem ascending_relevant (t : BandTable) :
    t.relevant.Pairwise fun x y => Listed.rank x < Listed.rank y := by
  rw [relevant, List.pairwise_map]
  exact t.ascending_entries.filter _

/-- In entries that rise strictly each is the first of its sensor. -/
theorem Ascending.mem_iff_lookup (h : Ascending l) : (x, bs) ∈ l ↔ l.lookup x = some bs := by
  rw [List.lookup_eq_some_iff]
  constructor
  · intro listed
    obtain ⟨before, after, rfl⟩ := List.append_of_mem listed
    refine ⟨before, after, rfl, fun e earlier => ?_⟩
    have below := (List.pairwise_append.1 h).2.2 e earlier (x, bs) List.mem_cons_self
    rw [bne_iff_ne]
    rintro rfl
    exact Nat.lt_irrefl _ below
  · rintro ⟨before, after, rfl, -⟩
    exact List.mem_append_right _ List.mem_cons_self

theorem Ascending.nodup (h : Ascending l) : l.Nodup := by
  refine List.Pairwise.imp ?_ h
  rintro a b before rfl
  exact Nat.lt_irrefl _ before

/-- Entries that rise strictly are those of the table that is made of them. -/
theorem Ascending.entries_ofEntries (h : Ascending l) : (ofEntries l).entries = l := by
  have same (e : Sensor × Bands) : e ∈ (ofEntries l).entries ↔ e ∈ l :=
    mem_entries_ofEntries.trans h.mem_iff_lookup.symm
  have perm := (List.perm_ext_iff_of_nodup (ascending_entries (ofEntries l)).nodup h.nodup).2 same
  refine perm.eq_of_pairwise (fun a b _ _ before after => ?_) (ascending_entries _) h
  exact absurd after (Nat.lt_asymm before)

/-! ## The order of the entries -/

/-- The entries of a sensor, in their order. -/
def entriesOf (l : List (Sensor × Bands)) (x : Sensor) : List (Sensor × Bands) :=
  l.filter fun e => e.1 = x

theorem lookup_eq_head?_entriesOf (l : List (Sensor × Bands)) (x : Sensor) :
    l.lookup x = (entriesOf l x).head?.map Prod.snd := by
  induction l with
  | nil => rfl
  | cons e l ih =>
    rw [lookup_cons_eq, entriesOf, List.filter_cons]
    by_cases here : x = e.1
    · simp [here]
    · rw [if_neg here, if_neg (by simpa using Ne.symm here), ih, entriesOf]

/-- Only the first entries matter, -/
theorem ofEntries_eq_of_lookup (same : ∀ x, l.lookup x = l'.lookup x) :
    ofEntries l = ofEntries l' := by
  have cells : (ofEntries l).cells = (ofEntries l').cells := by
    ext1 x
    rw [get?_ofEntries, get?_ofEntries, same]
  exact congrArg BandTable.mk cells

/-- and so the order of entries of different sensors does not. -/
theorem ofEntries_congr (same : ∀ x, entriesOf l x = entriesOf l' x) :
    ofEntries l = ofEntries l' := by
  refine ofEntries_eq_of_lookup fun x => ?_
  rw [lookup_eq_head?_entriesOf, lookup_eq_head?_entriesOf, same]

/-! ## Sorted entries -/

/-- Does the first entry come no later in the table? -/
def inOrder (a b : Sensor × Bands) : Bool :=
  decide (Listed.rank a.1 ≤ Listed.rank b.1)

/-- The entries in table order, those of one sensor as they were; of neighbours of one sensor only the
first is kept. -/
def sortedEntries (l : List (Sensor × Bands)) : List (Sensor × Bands) :=
  (l.mergeSort inOrder).destutter fun a b => a.1 ≠ b.1

theorem inOrder_trans (a b c : Sensor × Bands) (hab : inOrder a b = true)
    (hbc : inOrder b c = true) : inOrder a c = true := by
  simp only [inOrder, decide_eq_true_eq] at *
  exact Nat.le_trans hab hbc

theorem inOrder_total (a b : Sensor × Bands) : (inOrder a b || inOrder b a) = true := by
  simp only [inOrder, Bool.or_eq_true, decide_eq_true_eq]
  exact Nat.le_total _ _

/-- Sorting leaves the entries of one sensor as they were. -/
theorem entriesOf_mergeSort (l : List (Sensor × Bands)) (x : Sensor) :
    entriesOf (l.mergeSort inOrder) x = entriesOf l x := by
  have level : (entriesOf l x).Pairwise fun a b => inOrder a b = true := by
    refine List.pairwise_of_forall_mem_list fun a ha b hb => ?_
    obtain ⟨-, rfl⟩ : a ∈ l ∧ a.1 = x := by simpa [entriesOf] using ha
    obtain ⟨-, same⟩ : b ∈ l ∧ b.1 = a.1 := by simpa [entriesOf] using hb
    simp [inOrder, same]
  have kept : (entriesOf l x).Sublist (l.mergeSort inOrder) :=
    List.sublist_mergeSort inOrder_trans inOrder_total level List.filter_sublist
  have among : (entriesOf l x).Sublist (entriesOf (l.mergeSort inOrder) x) := by
    have again : (entriesOf l x).filter (fun e => e.1 = x) = entriesOf l x := by simp [entriesOf]
    rw [← again]
    exact kept.filter _
  have counted := ((List.mergeSort_perm l inOrder).filter fun e => e.1 = x).length_eq
  exact (among.eq_of_length counted.symm).symm

/-- An entry after one of the same sensor is not looked up. -/
theorem lookup_destutter' (e : Sensor × Bands) (l : List (Sensor × Bands)) (x : Sensor) :
    (l.destutter' (fun a b => a.1 ≠ b.1) e).lookup x = (e :: l).lookup x := by
  induction l generalizing e with
  | nil => rfl
  | cons e' l ih =>
    rw [List.destutter'_cons]
    by_cases other : e.1 ≠ e'.1
    · rw [if_pos other, lookup_cons_eq, ih, ← lookup_cons_eq]
    · rw [if_neg other, ih, lookup_cons_eq, lookup_cons_eq, lookup_cons_eq, ← not_not.1 other]
      split <;> rfl

theorem lookup_sortedEntries (l : List (Sensor × Bands)) (x : Sensor) :
    (sortedEntries l).lookup x = l.lookup x := by
  have kept : ∀ l : List (Sensor × Bands),
      (l.destutter fun a b => a.1 ≠ b.1).lookup x = l.lookup x := by
    intro l
    cases l with
    | nil => rfl
    | cons e l => exact lookup_destutter' e l x
  rw [sortedEntries, kept, lookup_eq_head?_entriesOf, entriesOf_mergeSort,
    ← lookup_eq_head?_entriesOf]

theorem ascending_sortedEntries (l : List (Sensor × Bands)) : Ascending (sortedEntries l) := by
  have rising : (sortedEntries l).Pairwise fun a b => inOrder a b = true :=
    (List.pairwise_mergeSort inOrder_trans inOrder_total l).sublist (List.destutter_sublist _ _)
  have apart : (sortedEntries l).IsChain fun a b => a.1 ≠ b.1 := List.isChain_destutter _ _
  have trans : IsTrans (Sensor × Bands) fun a b => Listed.rank a.1 < Listed.rank b.1 :=
    ⟨fun _ _ _ => Nat.lt_trans⟩
  refine List.isChain_iff_pairwise.1 (List.isChain_iff_getElem.2 fun i hi => ?_)
  have le : Listed.rank (sortedEntries l)[i].1 ≤ Listed.rank (sortedEntries l)[i + 1].1 :=
    of_decide_eq_true (rising.isChain.getElem i hi)
  exact Nat.lt_of_le_of_ne le fun same => apart.getElem i hi (Listed.rank_inj same)

/-- **A table lists the sorted entries.** -/
theorem entries_eq_sortedEntries (l : List (Sensor × Bands)) :
    (ofEntries l).entries = sortedEntries l := by
  have same : ofEntries l = ofEntries (sortedEntries l) :=
    ofEntries_eq_of_lookup fun x => (lookup_sortedEntries l x).symm
  rw [same, (ascending_sortedEntries l).entries_ofEntries]

/-! ## Tables -/

/-- What a table holds that is made of entries. -/
structure FirstEntries (l : List (Sensor × Bands)) (t : BandTable) : Prop where
  /-- A sensor has the bands of its first entry, and without an entry it has none. -/
  bands : ∀ x, t.bands x = (l.lookup x).getD Bands.none
  entries_iff : ∀ x bs, (x, bs) ∈ t.entries ↔ l.lookup x = some bs
  ascending : Ascending t.entries
  /-- The sensors that steer the fans are those whose first entry has an active band, -/
  relevant_iff : ∀ x, x ∈ t.relevant ↔ ∃ bs, l.lookup x = some bs ∧ bs.relevant = true
  /-- each of them once. -/
  relevant_ascending : t.relevant.Pairwise fun x y => Listed.rank x < Listed.rank y
  sorted : t.entries = sortedEntries l

/-- **A table keeps the first entry of each sensor, in table order.** It is the same table if the
entries are shuffled and those of each sensor stay in their order. -/
theorem table_of_first_entries (l : List (Sensor × Bands)) :
    FirstEntries l (ofEntries l) ∧
      ∀ l', (∀ x, entriesOf l' x = entriesOf l x) → ofEntries l' = ofEntries l := by
  refine ⟨⟨?_, ?_, ascending_entries _, ?_, ascending_relevant _, entries_eq_sortedEntries l⟩, ?_⟩
  · intro x
    rw [BandTable.bands, get?_ofEntries]
  · intro x bs
    exact mem_entries_ofEntries
  · intro x
    exact mem_relevant_ofEntries
  · intro l' same
    exact ofEntries_congr same

/-- The TCAM has two entries, of which the first counts wherever the core's one stands. -/
theorem table_of_shuffled_entries :
    (∀ x, entriesOf [(.tcam, .stepped 1 2 3 4 5), (.tcam, .none), (.cpuCore0, .none)] x =
      entriesOf [(.cpuCore0, .none), (.tcam, .stepped 1 2 3 4 5), (.tcam, .none)] x) ∧
    ofEntries [(.tcam, .stepped 1 2 3 4 5), (.tcam, .none), (.cpuCore0, .none)] =
      ofEntries [(.cpuCore0, .none), (.tcam, .stepped 1 2 3 4 5), (.tcam, .none)] := by
  have same : ∀ x, entriesOf [(.tcam, .stepped 1 2 3 4 5), (.tcam, .none), (.cpuCore0, .none)] x =
      entriesOf [(.cpuCore0, .none), (.tcam, .stepped 1 2 3 4 5), (.tcam, .none)] x := by
    intro x
    cases x <;> rfl
  exact ⟨same, (table_of_first_entries _).2 _ same⟩

end SwitchThermal.BandTable
