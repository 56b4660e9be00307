import Linura.Lib.BTreeMap
import Linura.Planner.Plan

/-!
# Retained plans

`PlanStore` keeps the latest plans under their ids.  The map of plans and the queue of their ids are
changed separately; that they always agree, and that the queue is a window over the plans that were
added, is an invariant of every sequence of insertions.
-/

namespace Linura.Planner

open Linura.Lib Linura.Core

inductive PlanStoreError
  | invalidCapacity
  | idempotencyConflict (planId : PlanId)
  deriving DecidableEq

structure PlanStore where
  capacity : Nat
  plans : BTreeMap PlanId ReconciliationPlan
  order : List PlanId

namespace PlanStore

/-- `PlanStore::with_capacity` -/
def withCapacity (capacity : Nat) : Except PlanStoreError PlanStore :=
  if capacity = 0 then .error .invalidCapacity else .ok ⟨capacity, .empty, []⟩

/-- The loop of `insert`: drop the oldest plans until there is room. -/
def makeRoom (capacity : Nat) (plans : BTreeMap PlanId ReconciliationPlan) :
    List PlanId → BTreeMap PlanId ReconciliationPlan × List PlanId
  | [] => (plans, [])
  | oldest :: rest =>
    if capacity ≤ plans.len then makeRoom capacity (plans.remove oldest) rest else
      (plans, oldest :: rest)

/-- `PlanStore::insert` -/
def insert (store : PlanStore) (plan : ReconciliationPlan) : Except PlanStoreError PlanStore :=
  match store.plans.get? plan.id with
  | some existing => if existing = plan then .ok store else .error (.idempotencyConflict plan.id)
  | none =>
    let (plans, order) := makeRoom store.capacity store.plans store.order
    .ok ⟨store.capacity, plans.insert plan.id plan, order ++ [plan.id]⟩

/-- The store after a call, which is unchanged if the call failed. -/
def after (store : PlanStore) (plan : ReconciliationPlan) : PlanStore :=
  match store.insert plan with
  | .ok next => next
  | .error _ => store

/-- The plans that a sequence of calls adds: those whose id is not stored when they come. -/
def additions (store : PlanStore) : List ReconciliationPlan → List ReconciliationPlan
  | [] => []
  | plan :: later =>
    if store.plans.get? plan.id = none then plan :: (store.after plan).additions later
    else (store.after plan).additions later

/-- The last `count` elements of a list. -/
def latest {α : Type} (count : Nat) (list : List α) : List α := list.drop (list.length - count)

theorem latest_concat {α : Type} {count : Nat} (positive : 0 < count) (list : List α) (value : α) :
    latest count (list ++ [value]) =
      (if count ≤ (latest count list).length then (latest count list).tail else latest count list)
        ++ [value] := by
  have length : (latest count list).length = min count list.length := by
    rw [latest, List.length_drop]
    omega
  rw [length]
  split
  case isTrue full =>
    rw [latest, latest, List.tail_drop, List.length_append, List.length_singleton,
      List.drop_append_of_le_length]
    · congr 2
      omega
    · omega
  case isFalse room =>
    have short : (list ++ [value]).length - count = 0 := by
      rw [List.length_append, List.length_singleton]
      omega
    have short' : list.length - count = 0 := by omega
    rw [latest, latest, short, short', List.drop_zero, List.drop_zero]

/-- The store holds exactly the plans of a window, in its order. -/
structure Holds (store : PlanStore) (window : List ReconciliationPlan) : Prop where
  order : store.order = window.map ReconciliationPlan.id
  entries : store.plans.entries.Perm (window.map fun plan => (plan.id, plan))
  bounded : window.length ≤ store.capacity

namespace Holds

variable {store : PlanStore} {window : List ReconciliationPlan}

theorem len_eq (holds : Holds store window) : store.plans.len = window.length := by
  rw [BTreeMap.len, holds.entries.length_eq, List.length_map]

theorem keys_perm (holds : Holds store window) : store.plans.keys.Perm store.order := by
  have keys := holds.entries.map Prod.fst
  rw [List.map_map] at keys
  rw [holds.order]
  exact keys

/-- The stored plans are those of the window. -/
theorem stored (holds : Holds store window) (plan : ReconciliationPlan) :
    store.plans.get? plan.id = some plan ↔ plan ∈ window := by
  rw [← BTreeMap.mem_entries_iff, holds.entries.mem_iff]
  simp

/-- Making room drops the oldest plan of a full window, and no other. -/
theorem makeRoom (holds : Holds store window) :
    ∃ plans, PlanStore.makeRoom store.capacity store.plans store.order = (plans,
        (if store.capacity ≤ window.length then window.tail else window).map
          ReconciliationPlan.id) ∧
      plans.entries.Perm ((if store.capacity ≤ window.length then window.tail else window).map
        fun plan => (plan.id, plan)) ∧
      ∀ key, store.plans.get? key = none → plans.get? key = none := by
  have length := holds.len_eq
  rw [holds.order]
  cases window with
  | nil =>
    exact ⟨store.plans, by simp [PlanStore.makeRoom], by simpa using holds.entries, fun _ => id⟩
  | cons oldest rest =>
    rw [List.map_cons, PlanStore.makeRoom, length]
    split
    case isFalse room => exact ⟨store.plans, rfl, holds.entries, fun _ => id⟩
    case isTrue full =>
      have read := (holds.stored oldest).mpr List.mem_cons_self
      have left := (BTreeMap.entries_perm_of_get? read).symm.trans holds.entries
      rw [List.map_cons, List.perm_cons] at left
      refine ⟨store.plans.remove oldest.id, ?_, left, fun key missing => ?_⟩
      · -- one plan fewer is below the capacity
        have smaller : ¬ store.capacity ≤ (store.plans.remove oldest.id).len := by
          have bounded := holds.bounded
          rw [BTreeMap.len, left.length_eq, List.length_map]
          exact Nat.not_le.mpr bounded
        cases rest with
        | nil => rfl
        | cons next later => rw [List.tail_cons, List.map_cons, PlanStore.makeRoom, if_neg smaller]
      · rw [BTreeMap.get?_remove, missing, ite_self]

/-- One insertion moves the window. -/
theorem after (holds : Holds store window) (positive : 0 < store.capacity)
    (plan : ReconciliationPlan) :
    Holds (store.after plan) (if store.plans.get? plan.id = none then
        (if store.capacity ≤ window.length then window.tail else window) ++ [plan] else window) ∧
      (store.after plan).capacity = store.capacity := by
  rw [PlanStore.after, insert]
  cases read : store.plans.get? plan.id with
  | some existing =>
    by_cases same : existing = plan
    · simpa [same] using holds
    · simpa [same] using holds
  | none =>
    obtain ⟨plans, made, left, missing⟩ := holds.makeRoom
    have bounded := holds.bounded
    rw [made, if_pos rfl]
    refine ⟨⟨?_, ?_, ?_⟩, rfl⟩
    · rw [List.map_append]
      rfl
    · have added := plans.entries_insert_perm plan.id plan
      rw [BTreeMap.remove_eq_self (missing _ read)] at added
      rw [List.map_append]
      exact added.trans ((left.cons _).trans (List.perm_append_singleton _ _).symm)
    · change _ ≤ store.capacity
      split
      case isTrue full =>
        rw [List.length_append, List.length_tail, List.length_singleton]
        omega
      case isFalse room =>
        rw [List.length_append, List.length_singleton]
        omega

end Holds

/-- Over a run, the window is the latest of what was added. -/
theorem holds_foldl {store : PlanStore} (positive : 0 < store.capacity)
    (calls : List ReconciliationPlan)
    {added : List ReconciliationPlan} (holds : Holds store (latest store.capacity added)) :
    Holds (calls.foldl after store) (latest store.capacity (added ++ store.additions calls)) ∧
      (calls.foldl after store).capacity = store.capacity := by
  -- each call adds its plan to what was added, or nothing
  induction calls generalizing store added with
  | nil => simpa [additions] using holds
  | cons plan later ih =>
    obtain ⟨moved, capacity⟩ := holds.after positive plan
    rw [List.foldl_cons, additions]
    by_cases fresh : store.plans.get? plan.id = none
    · rw [if_pos fresh, ← latest_concat positive, ← capacity] at moved
      rw [if_pos fresh, ← capacity, List.append_cons]
      exact ih (capacity ▸ positive) moved
    · rw [if_neg fresh, ← capacity] at moved
      rw [if_neg fresh, ← capacity]
      exact ih (capacity ▸ positive) moved

/-- Whatever is inserted, the queue lists the stored ids once each, in the order in which their
plans were added, and the stored plans are the latest that were added, as many as the capacity.  An
equal plan under a stored id changes nothing, and a different one is refused. -/
theorem plan_store_window (capacity : Nat) (calls : List ReconciliationPlan) :
    match withCapacity capacity with
    | .error _ => capacity = 0
    | .ok created =>
      let store := calls.foldl after created
      let window := latest capacity (created.additions calls)
      store.order = window.map ReconciliationPlan.id ∧ store.order.Nodup ∧
      (∀ key, key ∈ store.order ↔ ∃ plan, store.plans.get? key = some plan) ∧
      store.plans.len ≤ capacity ∧ (∀ plan, store.plans.get? plan.id = some plan ↔ plan ∈ window) ∧
      ∀ plan existing, store.plans.get? plan.id = some existing →
        (existing = plan → store.insert plan = .ok store) ∧
        (existing ≠ plan → store.insert plan = .error (.idempotencyConflict plan.id) ∧
          store.after plan = store) := by
  by_cases zero : capacity = 0
  · rw [withCapacity, if_pos zero]
    exact zero
  rw [withCapacity, if_neg zero]
  have start : Holds ⟨capacity, .empty, []⟩ (latest capacity []) :=
    ⟨by simp [latest], by simp [latest, BTreeMap.empty], by simp [latest]⟩
  obtain ⟨holds, same⟩ := holds_foldl (Nat.pos_of_ne_zero zero) calls start
  rw [List.nil_append] at holds
  refine ⟨holds.order, holds.keys_perm.nodup (BTreeMap.keys_nodup _),
    fun key => ?_, ?_, holds.stored, ?_⟩
  · rw [← holds.keys_perm.mem_iff, BTreeMap.mem_keys_iff]
  · rw [holds.len_eq]
    exact holds.bounded.trans same.le
  · intro plan existing read
    refine ⟨fun equal => ?_, fun other => ?_⟩
    · rw [insert, read, equal]
      exact if_pos rfl
    · have refused : (calls.foldl after ⟨capacity, .empty, []⟩).insert plan =
          .error (.idempotencyConflict plan.id) := by
        rw [insert, read]
        exact if_neg other
      exact ⟨refused, by rw [PlanStore.after, refused]⟩

end PlanStore

end Linura.Planner
