import Mathlib.Algebra.Order.Ring.Nat
import Mathlib.Algebra.BigOperators.Group.List.Basic
import Mathlib.Data.List.Sort
import Mathlib.Data.Prod.Lex
import Mathlib.Order.Defs.LinearOrder

/-!
# Ordered maps

A map with ordered keys, kept as the list of its entries in increasing key order:
what iterating over a search tree yields.  Two maps with the same lookups are
equal, and every update is described twice: by the lookups it changes, and, up to
a permutation, by the entries it adds or removes.  The second form is what sums
and counts over a map's entries are computed from.
-/

namespace Linura.Lib

/-- A finite map whose entries are listed by increasing key. -/
structure BTreeMap (κ ν : Type) [LinearOrder κ] where
  entries : List (κ × ν)
  sorted : entries.Pairwise fun entry later => entry.1 < later.1

namespace BTreeMap

variable {κ ν : Type} [LinearOrder κ]
variable {map : BTreeMap κ ν} {key : κ} {value : ν}

instance [DecidableEq ν] : DecidableEq (BTreeMap κ ν) := fun map map' =>
  decidable_of_iff (map.entries = map'.entries) ⟨by cases map; cases map'; simp, congrArg entries⟩

/-- The map without entries. -/
def empty : BTreeMap κ ν := ⟨[], .nil⟩

instance : Inhabited (BTreeMap κ ν) := ⟨empty⟩

/-- The number of entries. -/
def len (map : BTreeMap κ ν) : Nat := map.entries.length

/-- The keys, in increasing order. -/
def keys (map : BTreeMap κ ν) : List κ := map.entries.map Prod.fst

/-- The value stored under a key. -/
def get? (map : BTreeMap κ ν) (key : κ) : Option ν :=
  (map.entries.find? fun entry => entry.1 = key).map Prod.snd

/-- A key has a value. -/
def containsKey (map : BTreeMap κ ν) (key : κ) : Bool := (map.get? key).isSome

/-- The entries that satisfy a condition. -/
def retain (map : BTreeMap κ ν) (keep : κ → ν → Bool) : BTreeMap κ ν where
  entries := map.entries.filter fun entry => keep entry.1 entry.2
  sorted := map.sorted.filter _

/-- Forget a key. -/
def remove (map : BTreeMap κ ν) (key : κ) : BTreeMap κ ν :=
  map.retain fun key' _ => key' ≠ key

/-- Put an entry at its place in a sorted list, replacing one with the same key. -/
def insertEntry (key : κ) (value : ν) : List (κ × ν) → List (κ × ν)
  | [] => [(key, value)]
  | entry :: rest =>
    if key < entry.1 then (key, value) :: entry :: rest
    else if key = entry.1 then (key, value) :: rest
    else entry :: insertEntry key value rest

theorem mem_insertEntry {list : List (κ × ν)} {entry : κ × ν}
    (member : entry ∈ insertEntry key value list) : entry = (key, value) ∨ entry ∈ list := by
  induction list with
  | nil => exact .inl (List.mem_singleton.mp member)
  | cons head rest ih =>
    unfold insertEntry at member
    split_ifs at member
    · exact List.mem_cons.mp member
    · exact (List.mem_cons.mp member).imp_right (List.mem_cons_of_mem _)
    · rcases List.mem_cons.mp member with rfl | later
      · exact .inr List.mem_cons_self
      · exact (ih later).imp_right (List.mem_cons_of_mem _)

private theorem insertEntry_sorted {list : List (κ × ν)}
    (sorted : list.Pairwise fun entry later => entry.1 < later.1) :
    (insertEntry key value list).Pairwise fun entry later => entry.1 < later.1 := by
  induction list with
  | nil => exact List.pairwise_singleton _ _
  | cons head rest ih =>
    obtain ⟨headLt, restSorted⟩ := List.pairwise_cons.mp sorted
    unfold insertEntry
    split_ifs with before same
    · refine List.pairwise_cons.mpr ⟨?_, sorted⟩
      intro entry member
      rcases List.mem_cons.mp member with rfl | later
      · exact before
      · exact before.trans (headLt entry later)
    · exact List.pairwise_cons.mpr ⟨fun entry later => same ▸ headLt entry later, restSorted⟩
    · refine List.pairwise_cons.mpr ⟨?_, ih restSorted⟩
      intro entry member
      rcases mem_insertEntry member with rfl | later
      · exact lt_of_le_of_ne (not_lt.mp before) (Ne.symm same)
      · exact headLt entry later

/-- Store a value under a key. -/
def insert (map : BTreeMap κ ν) (key : κ) (value : ν) : BTreeMap κ ν where
  entries := insertEntry key value map.entries
  sorted := insertEntry_sorted map.sorted

/-! ### Lookups -/

@[simp]
theorem get?_empty (key : κ) : (empty : BTreeMap κ ν).get? key = none := rfl

/-- Keys are unique. -/
theorem keys_nodup (map : BTreeMap κ ν) : map.keys.Nodup :=
  List.pairwise_map.mpr (map.sorted.imp fun lt => lt.ne)

theorem entries_nodup (map : BTreeMap κ ν) : map.entries.Nodup :=
  List.Nodup.of_map _ map.keys_nodup

/-- The entries are the pairs that lookups return. -/
theorem mem_entries_iff : (key, value) ∈ map.entries ↔ map.get? key = some value := by
  constructor
  · intro member
    cases found : map.entries.find? fun entry => entry.1 = key with
    | none =>
      have := List.find?_eq_none.mp found _ member
      simp at this
    | some entry =>
      have entryMember := List.mem_of_find?_eq_some found
      have entryKey : entry.1 = key := by simpa using List.find?_some found
      -- an entry with this key is the only one
      have unique := List.inj_on_of_nodup_map map.keys_nodup entryMember member entryKey
      rw [get?, found, unique]
      rfl
  · intro read
    rw [get?, Option.map_eq_some_iff] at read
    obtain ⟨entry, found, rfl⟩ := read
    have entryKey : entry.1 = key := by simpa using List.find?_some found
    exact entryKey ▸ List.mem_of_find?_eq_some found

theorem get?_eq_none_iff : map.get? key = none ↔ ∀ entry ∈ map.entries, entry.1 ≠ key := by
  simp [get?]

theorem mem_keys_iff : key ∈ map.keys ↔ ∃ value, map.get? key = some value := by
  simp only [keys, List.mem_map, Prod.exists, exists_and_right, exists_eq_right, mem_entries_iff]

@[simp]
theorem containsKey_eq_false :
    map.containsKey key = false ↔ map.get? key = none := by
  simp [containsKey]

/-- Maps with the same lookups are equal. -/
theorem ext_get? {map map' : BTreeMap κ ν} (same : ∀ key, map.get? key = map'.get? key) :
    map = map' := by
  have members : ∀ entry, entry ∈ map.entries ↔ entry ∈ map'.entries := by
    rintro ⟨key, value⟩
    rw [mem_entries_iff, mem_entries_iff, same]
  have perm := (List.perm_ext_iff_of_nodup map.entries_nodup map'.entries_nodup).mpr members
  have entries : map.entries = map'.entries :=
    perm.eq_of_pairwise (fun _ _ _ _ lt gt => absurd gt lt.asymm) map.sorted map'.sorted
  cases map
  cases map'
  cases entries
  rfl

/-! ### Updates -/

theorem get?_retain {keep : κ → ν → Bool} :
    (map.retain keep).get? key = (map.get? key).filter fun value => keep key value := by
  ext value
  rw [← mem_entries_iff, Option.filter_eq_some_iff, ← mem_entries_iff, retain, List.mem_filter]

/-- Removing a key removes nothing else. -/
@[simp]
theorem get?_remove {key key' : κ} :
    (map.remove key).get? key' = if key' = key then none else map.get? key' := by
  rw [remove, get?_retain]
  split_ifs with same
  · simp [same]
  · cases map.get? key' <;> simp [same]

/-- Up to order, an insertion adds its entry to those with other keys. -/
theorem entries_insert_perm (map : BTreeMap κ ν) (key : κ) (value : ν) :
    (map.insert key value).entries.Perm ((key, value) :: (map.remove key).entries) := by
  obtain ⟨list, sorted⟩ := map
  simp only [insert, remove, retain]
  induction list with
  | nil => exact List.Perm.refl _
  | cons head rest ih =>
    obtain ⟨headLt, restSorted⟩ := List.pairwise_cons.mp sorted
    -- once the place is reached, no later entry carries the key
    have laterKept (le : key ≤ head.1) :
        rest.filter (fun entry => decide (entry.1 ≠ key)) = rest := by
      rw [List.filter_eq_self]
      intro entry member
      simpa using (le.trans_lt (headLt entry member)).ne'
    unfold insertEntry
    split_ifs with before same
    · rw [List.filter_cons_of_pos (by simpa using before.ne'), laterKept before.le]
    · rw [List.filter_cons_of_neg (by simp [same]), laterKept same.le]
    · rw [List.filter_cons_of_pos (by simpa using Ne.symm same)]
      exact ((ih restSorted).cons head).trans (List.Perm.swap _ _ _)

/-- Inserting a key changes nothing else. -/
@[simp]
theorem get?_insert {key key' : κ} :
    (map.insert key value).get? key' = if key' = key then some value else map.get? key' := by
  ext value'
  rw [← mem_entries_iff, (map.entries_insert_perm key value).mem_iff, List.mem_cons,
    mem_entries_iff, get?_remove]
  split_ifs with same
  · simp [same, eq_comm]
  · simp [same]

theorem mem_keys_insert {key key' : κ} :
    key' ∈ (map.insert key value).keys ↔ key' = key ∨ key' ∈ map.keys := by
  rw [mem_keys_iff, mem_keys_iff, get?_insert]
  by_cases same : key' = key
  · simp [same]
  · simp [same]

/-- Up to order, a stored entry stands before the entries with other keys. -/
theorem entries_perm_of_get? (read : map.get? key = some value) :
    map.entries.Perm ((key, value) :: (map.remove key).entries) := by
  have restored : map.insert key value = map := by
    apply ext_get?
    intro key'
    rw [get?_insert]
    split_ifs with same
    · rw [same, read]
    · rfl
  have perm := map.entries_insert_perm key value
  rwa [restored] at perm

theorem remove_eq_self (missing : map.get? key = none) : map.remove key = map := by
  apply ext_get?
  intro key'
  rw [get?_remove]
  split_ifs with same
  · rw [same, missing]
  · rfl

/-- A key above all others is inserted at the end. -/
theorem entries_insert_of_forall_lt (value : ν) (above : ∀ entry ∈ map.entries, entry.1 < key) :
    (map.insert key value).entries = map.entries ++ [(key, value)] := by
  obtain ⟨list, sorted⟩ := map
  simp only [insert] at above ⊢
  induction list with
  | nil => rfl
  | cons head rest ih =>
    have headLt := above head List.mem_cons_self
    rw [insertEntry, if_neg headLt.not_gt, if_neg headLt.ne',
      ih (List.pairwise_cons.mp sorted).2 fun entry member =>
        above entry (List.mem_cons_of_mem _ member), List.cons_append]

/-! ### Sums over the values -/

variable (f : ν → Nat)

/-- The sum of a number computed from each value. -/
def total (map : BTreeMap κ ν) : Nat := (map.entries.map fun entry => f entry.2).sum

theorem len_eq_total (map : BTreeMap κ ν) : map.len = map.total fun _ => 1 := by
  simp [len, total]

/-- The total after an insertion. -/
theorem total_insert (map : BTreeMap κ ν) (key : κ) (value : ν) :
    (map.insert key value).total f = f value + (map.remove key).total f := by
  have perm := (map.entries_insert_perm key value).map fun entry => f entry.2
  rw [total, perm.sum_eq]
  rfl

theorem total_eq_add_remove (read : map.get? key = some value) :
    map.total f = f value + (map.remove key).total f := by
  have perm := (entries_perm_of_get? read).map fun entry => f entry.2
  rw [total, perm.sum_eq]
  rfl

theorem total_insert_of_fresh (value : ν) (fresh : map.get? key = none) :
    (map.insert key value).total f = f value + map.total f := by
  rw [total_insert, remove_eq_self fresh]

end BTreeMap

end Linura.Lib
