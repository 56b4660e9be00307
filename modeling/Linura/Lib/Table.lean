import Mathlib.Algebra.Order.Ring.Nat
import Mathlib.Data.List.Sort
import Mathlib.Algebra.BigOperators.Group.List.Basic

/-!
# Tables

A table is the list of its rows, in the order they were inserted.  The selections,
updates and ordered queries of a relational store are list functions, and the
lemmas say how an update of the rows of one key acts on the rows selected for a
key: it commutes with selecting that key and leaves every other key alone.
-/

namespace Linura.Lib

variable {ρ κ : Type}

def orderBy [LinearOrder κ] (column : ρ → κ) (rows : List ρ) : List ρ :=
  rows.insertionSort fun row row' => column row ≤ column row'

/-- The row with the greatest value of a column. -/
def lastBy [LinearOrder κ] (column : ρ → κ) (rows : List ρ) : Option ρ :=
  (orderBy column rows).getLast?

def updateRows (condition : ρ → Bool) (change : ρ → ρ) (rows : List ρ) : List ρ :=
  rows.map fun row => if condition row then change row else row

section Order

variable [LinearOrder κ] {column : ρ → κ} {rows : List ρ}

theorem orderBy_perm : (orderBy column rows).Perm rows := List.perm_insertionSort _ _

@[simp]
theorem mem_orderBy {row : ρ} : row ∈ orderBy column rows ↔ row ∈ rows := orderBy_perm.mem_iff

theorem orderBy_eq_self (sorted : rows.Pairwise fun row row' => column row ≤ column row') :
    orderBy column rows = rows :=
  sorted.insertionSort_eq

theorem orderBy_map {τ : Type} (f : τ → ρ) (values : List τ) :
    orderBy column (values.map f) = (orderBy (fun value => column (f value)) values).map f :=
  (List.map_insertionSort (fun value value' => column (f value) ≤ column (f value'))
    (fun row row' => column row ≤ column row') f values fun _ _ _ _ => Iff.rfl).symm

theorem lastBy_eq_getLast? (sorted : rows.Pairwise fun row row' => column row ≤ column row') :
    lastBy column rows = rows.getLast? := by
  rw [lastBy, orderBy_eq_self sorted]

end Order

section Update

variable {condition select : ρ → Bool} {change : ρ → ρ} {rows : List ρ}

@[simp]
theorem length_updateRows : (updateRows condition change rows).length = rows.length :=
  List.length_map _

@[simp]
theorem updateRows_append (more : List ρ) :
    updateRows condition change (rows ++ more) =
      updateRows condition change rows ++ updateRows condition change more :=
  List.map_append

theorem updateRows_eq_self (none : ∀ row ∈ rows, condition row = false) :
    updateRows condition change rows = rows := by
  conv_rhs => rw [← List.map_id rows]
  refine List.map_congr_left fun row member => ?_
  simp [none row member]

/-- An update that does not move rows in or out of a selection commutes with it. -/
theorem filter_updateRows
    (respects : ∀ row, condition row = true → select (change row) = select row) :
    (updateRows condition change rows).filter select =
      updateRows condition change (rows.filter select) := by
  induction rows with
  | nil => rfl
  | cons row rest ih =>
    have image : select (if condition row then change row else row) = select row := by
      split
      · rename_i holds
        exact respects row holds
      · rfl
    simp only [updateRows, List.map_cons, List.filter_cons, image] at ih ⊢
    split
    · rw [List.map_cons, ih]
    · exact ih

/-- An update of rows outside a selection leaves the selected rows alone. -/
theorem filter_updateRows_of_disjoint
    (respects : ∀ row, condition row = true → select (change row) = select row)
    (disjoint : ∀ row, condition row = true → select row = false) :
    (updateRows condition change rows).filter select = rows.filter select := by
  rw [filter_updateRows respects]
  apply updateRows_eq_self
  intro row member
  cases holds : condition row with
  | false => rfl
  | true =>
    have selected := (List.mem_filter.mp member).2
    rw [disjoint row holds] at selected
    cases selected

end Update

section Keys

variable [DecidableEq κ] {key : ρ → κ} {rows : List ρ}

/-- Appended rows of one key are not selected for another. -/
theorem filter_append_of_ne {more : List ρ} {k other : κ} (keys : ∀ row ∈ more, key row = k)
    (ne : other ≠ k) : ((rows ++ more).filter fun row => key row = other) =
      rows.filter fun row => key row = other := by
  have none : (more.filter fun row => key row = other) = [] := by
    rw [List.filter_eq_nil_iff]
    intro row member
    simp [keys row member, ne.symm]
  rw [List.filter_append, none, List.append_nil]

/-- Appended rows of one key are selected for it. -/
theorem filter_append_of_eq (rows : List ρ) {more : List ρ} {k : κ}
    (keys : ∀ row ∈ more, key row = k) :
    ((rows ++ more).filter fun row => key row = k) = (rows.filter fun row =>
      key row = k) ++ more := by
  have all : (more.filter fun row => key row = k) = more := by
    rw [List.filter_eq_self]
    intro row member
    simp [keys row member]
  rw [List.filter_append, all]

/-- Among rows with distinct keys, a row is the only one with its key. -/
theorem filter_key (nodup : (rows.map key).Nodup) {row : ρ} (member : row ∈ rows) :
    (rows.filter fun other => key other = key row) = [row] := by
  induction rows with
  | nil => cases member
  | cons head rest ih =>
    obtain ⟨fresh, nodupRest⟩ := List.nodup_cons.mp nodup
    rcases List.mem_cons.mp member with rfl | later
    · have none : (rest.filter fun other => key other = key row) = [] := by
        rw [List.filter_eq_nil_iff]
        intro other otherMember
        simp only [decide_eq_true_eq]
        intro same
        exact fresh (List.mem_map.mpr ⟨other, otherMember, same⟩)
      simp [none]
    · have distinct : key head ≠ key row := by
        intro same
        exact fresh (List.mem_map.mpr ⟨row, later, same.symm⟩)
      rw [List.filter_cons_of_neg (by simp [distinct])]
      exact ih nodupRest later

/-- Among rows with distinct keys, a row is found by its key. -/
theorem find?_key (nodup : (rows.map key).Nodup) {row : ρ} (member : row ∈ rows) :
    (rows.find? fun other => key other = key row) = some row := by
  rw [← List.head?_filter, filter_key nodup member]
  rfl

theorem find?_key_eq_none {k : κ} (absent : k ∉ rows.map key) :
    (rows.find? fun row => key row = k) = none := by
  rw [List.find?_eq_none]
  intro row member
  simp only [decide_eq_true_eq]
  rintro rfl
  exact absent (List.mem_map_of_mem member)

end Keys

section Partition

variable [DecidableEq κ] {key : ρ → κ}

private theorem sum_indicator {keys : List κ} (nodup : keys.Nodup) {k : κ} (member : k ∈ keys) :
    (keys.map fun k' => if k = k' then 1 else 0).sum = 1 := by
  induction keys with
  | nil => simp at member
  | cons head rest ih =>
    obtain ⟨fresh, nodupRest⟩ := List.nodup_cons.mp nodup
    rcases List.mem_cons.mp member with rfl | later
    · have zero : (rest.map fun k' => if k = k' then 1 else 0) = rest.map fun _ => 0 := by
        refine List.map_congr_left fun k' memberRest => if_neg ?_
        rintro rfl
        exact fresh memberRest
      simp [zero]
    · have distinct : k ≠ head := by
        rintro rfl
        exact fresh later
      simp [distinct, ih nodupRest later]

/-- Rows whose keys are among distinct keys are counted key by key. -/
theorem length_eq_sum_filter {keys : List κ} (nodup : keys.Nodup) {rows : List ρ}
    (covered : ∀ row ∈ rows, key row ∈ keys) :
    rows.length = (keys.map fun k => (rows.filter fun row => key row = k).length).sum := by
  induction rows with
  | nil => simp
  | cons row rest ih =>
    have rowCovered := covered row List.mem_cons_self
    have split : ∀ k, ((row :: rest).filter fun row => key row = k).length =
        (rest.filter fun row => key row = k).length + if key row = k then 1 else 0 := by
      intro k
      by_cases same : key row = k
      · simp [same]
      · simp [same]
    simp only [split, List.sum_map_add, sum_indicator nodup rowCovered, List.length_cons]
    rw [← ih fun row' member => covered row' (List.mem_cons_of_mem _ member)]

end Partition

end Linura.Lib
