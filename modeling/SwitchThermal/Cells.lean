/-!
# Finite tables

A table over a fixed list of keys, with one optional cell per key. Two tables with the same cells
are equal, whatever the order of the writes that filled them.

* `Listed` — a type whose members are listed once each, in table order.
* `Cells` — the table; `get?`, `insert`, `erase`, `ofList`, `toList`, `overlay`.
* `Cells.get?_empty`, `Cells.get?_insert`, `Cells.get?_erase`, `Cells.get?_overlay` — each operation
  through `get?`.
* `Cells.ext` — tables that agree under `get?` are equal.
* `Cells.sorted_toList`, `Cells.ofList_of_perm` — the entries are in table order, whatever the order
  in which they were inserted.
-/

set_option autoImplicit false

namespace SwitchThermal

/-- The members of a type, each listed once, with the position of each. -/
class Listed (κ : Type) where
  /-- The members in table order. -/
  all : List κ
  /-- The position of a member. -/
  rank : κ → Nat
  getElem?_rank : ∀ k, all[rank k]? = some k
  rank_of_getElem? : ∀ i k, all[i]? = some k → rank k = i

theorem Listed.rank_lt {κ : Type} [Listed κ] (k : κ) :
    Listed.rank k < (Listed.all : List κ).length := by
  have h := Listed.getElem?_rank k
  exact (List.getElem?_eq_some_iff.1 h).1

theorem Listed.rank_inj {κ : Type} [Listed κ] {a b : κ} (h : Listed.rank a = Listed.rank b) :
    a = b := by
  have ha := Listed.getElem?_rank a
  rw [h, Listed.getElem?_rank b] at ha
  exact (Option.some.inj ha).symm

theorem Listed.mem_all {κ : Type} [Listed κ] (k : κ) : k ∈ (Listed.all : List κ) :=
  List.mem_of_getElem? (Listed.getElem?_rank k)

theorem Listed.sorted_all {κ : Type} [Listed κ] :
    (Listed.all : List κ).Pairwise fun a b => Listed.rank a < Listed.rank b := by
  rw [List.pairwise_iff_getElem]
  intro i j hi hj before
  have ranki := Listed.rank_of_getElem? i _ (List.getElem?_eq_getElem (l := Listed.all) hi)
  have rankj := Listed.rank_of_getElem? j _ (List.getElem?_eq_getElem (l := Listed.all) hj)
  omega

/-- A type whose members are the distinct entries of a list. -/
@[reducible] def Listed.ofNodup {κ : Type} [DecidableEq κ] (all : List κ) (complete : ∀ k, k ∈ all)
    (distinct : all.Nodup) : Listed κ where
  all := all
  rank := fun k => all.idxOf k
  getElem?_rank k := by
    rw [List.getElem?_eq_getElem (List.idxOf_lt_length_of_mem (complete k)), List.getElem_idxOf]
  rank_of_getElem? i k h := by
    obtain ⟨hi, rfl⟩ := List.getElem?_eq_some_iff.1 h
    exact distinct.idxOf_getElem i hi

/-- A table with one optional cell per key. -/
structure Cells (κ : Type) [Listed κ] (α : Type) where
  slots : Vector (Option α) (Listed.all : List κ).length
  deriving DecidableEq, Repr

namespace Cells

variable {κ α : Type} [Listed κ]

def empty : Cells κ α :=
  ⟨Vector.replicate _ none⟩

def get? (m : Cells κ α) (k : κ) : Option α :=
  have _ := Listed.rank_lt k
  m.slots[Listed.rank k]

/-- The table with the entry of one key replaced. -/
def insert (m : Cells κ α) (k : κ) (v : α) : Cells κ α :=
  ⟨m.slots.set (Listed.rank k) (some v) (Listed.rank_lt k)⟩

/-- The table without the entry of one key. -/
def erase (m : Cells κ α) (k : κ) : Cells κ α :=
  ⟨m.slots.set (Listed.rank k) none (Listed.rank_lt k)⟩

/-- The entries in table order. -/
def toList (m : Cells κ α) : List (κ × α) :=
  Listed.all.filterMap fun k => (m.get? k).map fun v => (k, v)

/-- The entries of a list, a later one replacing an earlier one of the same key. -/
def ofList (l : List (κ × α)) : Cells κ α :=
  l.foldl (fun m e => m.insert e.1 e.2) empty

/-- The first table with the entries of the second one written over it. -/
def overlay (m n : Cells κ α) : Cells κ α :=
  n.toList.foldl (fun m e => m.insert e.1 e.2) m

@[simp] theorem get?_empty (k : κ) : (empty : Cells κ α).get? k = none := by
  simp [get?, empty]

@[simp] theorem get?_insert_self (m : Cells κ α) (k : κ) (v : α) :
    (m.insert k v).get? k = some v := by
  simp [get?, insert]

theorem get?_insert_of_ne (m : Cells κ α) {k j : κ} (v : α) (h : k ≠ j) :
    (m.insert k v).get? j = m.get? j := by
  have hr : Listed.rank k ≠ Listed.rank j := fun e => h (Listed.rank_inj e)
  simp [get?, insert, Vector.getElem_set_ne, hr]

theorem get?_insert [DecidableEq κ] (m : Cells κ α) (k j : κ) (v : α) :
    (m.insert k v).get? j = if k = j then some v else m.get? j := by
  by_cases h : k = j
  · subst h
    simp
  · simp [h, get?_insert_of_ne m v h]

@[simp] theorem get?_erase_self (m : Cells κ α) (k : κ) : (m.erase k).get? k = none := by
  simp [get?, erase]

theorem get?_erase_of_ne (m : Cells κ α) {k j : κ} (h : k ≠ j) :
    (m.erase k).get? j = m.get? j := by
  have hr : Listed.rank k ≠ Listed.rank j := fun e => h (Listed.rank_inj e)
  simp [get?, erase, Vector.getElem_set_ne, hr]

theorem get?_erase [DecidableEq κ] (m : Cells κ α) (k j : κ) :
    (m.erase k).get? j = if k = j then none else m.get? j := by
  by_cases h : k = j
  · subst h
    simp
  · simp [h, get?_erase_of_ne m h]

theorem get?_foldl_insert [DecidableEq κ] (f : κ → α) (l : List κ) (m : Cells κ α) (j : κ) :
    (l.foldl (fun m k => m.insert k (f k)) m).get? j =
      if j ∈ l then some (f j) else m.get? j := by
  induction l generalizing m with
  | nil => simp
  | cons k l ih =>
    rw [List.foldl_cons, ih, get?_insert]
    by_cases hl : j ∈ l
    · simp [hl]
    · by_cases hk : k = j
      · simp [hk]
      · simp [hl, hk, Ne.symm hk]

theorem get?_foldl_insert_of_unlisted {l : List (κ × α)} {m : Cells κ α} {j : κ}
    (h : ∀ v, (j, v) ∉ l) : (l.foldl (fun m e => m.insert e.1 e.2) m).get? j = m.get? j := by
  induction l generalizing m with
  | nil => rfl
  | cons e l ih =>
    have other : e.1 ≠ j := by
      rintro rfl
      exact h e.2 List.mem_cons_self
    rw [List.foldl_cons, ih fun v hv => h v (List.mem_cons_of_mem _ hv),
      get?_insert_of_ne _ _ other]

/-- The last entry of a key counts. -/
theorem get?_foldl_insert_last [DecidableEq κ] (l : List (κ × α)) (m : Cells κ α) (j : κ) :
    (l.foldl (fun m e => m.insert e.1 e.2) m).get? j =
      ((l.reverse.find? fun e => decide (e.1 = j)).map Prod.snd).or (m.get? j) := by
  induction l generalizing m with
  | nil => rfl
  | cons e l ih =>
    rw [List.foldl_cons, ih, List.reverse_cons, List.find?_append, get?_insert]
    cases l.reverse.find? fun e => decide (e.1 = j) with
    | some e' => rfl
    | none => by_cases here : e.1 = j <;> simp [here]

/-- A key keeps its value or gets one of the entries. -/
theorem get?_foldl_insert_cases [DecidableEq κ] (l : List (κ × α)) (m : Cells κ α) (j : κ) :
    (l.foldl (fun m e => m.insert e.1 e.2) m).get? j = m.get? j ∨
      ∃ v, (l.foldl (fun m e => m.insert e.1 e.2) m).get? j = some v ∧ (j, v) ∈ l := by
  rw [get?_foldl_insert_last]
  cases found : l.reverse.find? fun e => decide (e.1 = j) with
  | none => exact .inl rfl
  | some e =>
    obtain rfl : e.1 = j := by simpa using List.find?_some found
    exact .inr ⟨e.2, rfl, List.mem_reverse.1 (List.mem_of_find?_eq_some found)⟩

/-- What a list of entries covers does not matter before they are inserted. -/
theorem get?_foldl_insert_congr [DecidableEq κ] {l : List (κ × α)} {m m' : Cells κ α} {j : κ}
    (h : (∃ v, (j, v) ∈ l) ∨ m.get? j = m'.get? j) :
    (l.foldl (fun m e => m.insert e.1 e.2) m).get? j =
      (l.foldl (fun m e => m.insert e.1 e.2) m').get? j := by
  induction l generalizing m m' with
  | nil =>
    rcases h with ⟨v, hv⟩ | h
    · cases hv
    · exact h
  | cons e l ih =>
    refine ih ?_
    by_cases here : e.1 = j
    · right
      rw [get?_insert, get?_insert, if_pos here, if_pos here]
    · rw [get?_insert, get?_insert, if_neg here, if_neg here]
      refine h.imp_left ?_
      rintro ⟨v, hv⟩
      rcases List.mem_cons.1 hv with rfl | hv
      · exact absurd rfl here
      · exact ⟨v, hv⟩

theorem mem_toList {m : Cells κ α} {k : κ} {v : α} : (k, v) ∈ m.toList ↔ m.get? k = some v := by
  simp only [toList, List.mem_filterMap, Option.map_eq_some_iff, Prod.mk.injEq]
  constructor
  · rintro ⟨j, -, u, hu, rfl, rfl⟩
    exact hu
  · intro h
    exact ⟨k, Listed.mem_all k, v, h, rfl, rfl⟩

/-- An overlaid table shows the entries of the second one, and those of the first elsewhere. -/
theorem get?_overlay [DecidableEq κ] (m n : Cells κ α) (k : κ) :
    (m.overlay n).get? k = (n.get? k).or (m.get? k) := by
  rw [overlay, get?_foldl_insert_last]
  congr 1
  cases hn : n.get? k with
  | none =>
    have unlisted : ∀ e ∈ n.toList, e.1 ≠ k := by
      rintro ⟨j, v⟩ hmem rfl
      rw [mem_toList.1 hmem] at hn
      cases hn
    have missed : (n.toList.reverse.find? fun e => decide (e.1 = k)) = none := by
      rw [List.find?_eq_none]
      intro e hmem
      simpa using unlisted e (List.mem_reverse.1 hmem)
    rw [missed]
    rfl
  | some v =>
    have listed : (n.toList.reverse.find? fun e => decide (e.1 = k)).isSome = true := by
      rw [List.find?_isSome]
      exact ⟨(k, v), List.mem_reverse.2 (mem_toList.2 hn), by simp⟩
    obtain ⟨⟨j, u⟩, found⟩ := Option.isSome_iff_exists.1 listed
    have here := List.find?_some found
    have hmem := mem_toList.1 (List.mem_reverse.1 (List.mem_of_find?_eq_some found))
    obtain rfl : j = k := by simpa using here
    rw [found, ← hn, hmem]
    rfl

@[ext] theorem ext {m n : Cells κ α} (h : ∀ k, m.get? k = n.get? k) : m = n := by
  cases m with
  | mk a =>
    cases n with
    | mk b =>
      congr 1
      apply Vector.ext
      intro i hi
      have hk := Listed.rank_of_getElem? i _ (List.getElem?_eq_getElem (l := Listed.all) hi)
      have := h (Listed.all[i])
      simp only [get?, hk] at this
      exact this

theorem insert_comm [DecidableEq κ] (m : Cells κ α) {k j : κ} (h : k ≠ j) (v w : α) :
    (m.insert k v).insert j w = (m.insert j w).insert k v := by
  ext1 i
  simp only [get?_insert]
  by_cases hk : k = i
  · subst hk
    simp [Ne.symm h]
  · simp [hk]

theorem sorted_toList (m : Cells κ α) :
    m.toList.Pairwise fun a b => Listed.rank a.1 < Listed.rank b.1 := by
  rw [toList, List.pairwise_filterMap]
  refine Listed.sorted_all.imp ?_
  intro a b before x hx y hy
  obtain ⟨_, _, rfl⟩ := Option.map_eq_some_iff.1 hx
  obtain ⟨_, _, rfl⟩ := Option.map_eq_some_iff.1 hy
  exact before

theorem ofList_toList [DecidableEq κ] (m : Cells κ α) : ofList m.toList = m := by
  ext1 k
  exact (get?_overlay empty m k).trans (by simp)

/-- The order in which the entries are inserted does not matter. -/
theorem ofList_of_perm [DecidableEq κ] {m : Cells κ α} {l : List (κ × α)} (h : l.Perm m.toList) :
    ofList l = m := by
  refine Eq.trans (Eq.symm ?_) (ofList_toList m)
  refine h.symm.foldl_eq' ?_ empty
  intro x hx y hy n
  by_cases same : x.1 = y.1
  · have hxv := mem_toList.1 hx
    have hyv := mem_toList.1 hy
    rw [same, hyv] at hxv
    obtain rfl : x = y := Prod.ext same (Option.some.inj hxv).symm
    rfl
  · exact insert_comm n same x.2 y.2

/-- Entries that are inserted twice might as well be inserted once. -/
theorem foldl_insert_again [DecidableEq κ] (l : List (κ × α)) (m : Cells κ α) :
    l.foldl (fun m e => m.insert e.1 e.2) (l.foldl (fun m e => m.insert e.1 e.2) m) =
      l.foldl (fun m e => m.insert e.1 e.2) m := by
  ext1 j
  refine get?_foldl_insert_congr ?_
  by_cases listed : ∃ v, (j, v) ∈ l
  · exact .inl listed
  · exact .inr (get?_foldl_insert_of_unlisted fun v hv => listed ⟨v, hv⟩)

end Cells

end SwitchThermal
