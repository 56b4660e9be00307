import Linura.Lib.BTreeMap
import Linura.Lib.Words

/-!
# Bounded retention, oldest first

A store that keeps weighted entries under keys, remembers the order in which the keys came and the
sum of the weights, and makes room for a new entry by dropping the oldest ones.  The map, the queue
and the sum are updated separately and by saturating arithmetic; the accounts say that they agree.
-/

namespace Linura.Lib

/-- Entries under keys, the keys from the oldest to the newest, and the sum of the weights. -/
structure Retention (κ ν : Type) [LinearOrder κ] where
  entries : BTreeMap κ ν
  order : List κ
  retained : Nat

namespace Retention

variable {κ ν : Type} [LinearOrder κ] (weight : ν → Nat) (capacity limit : Nat)

/-- Another entry of weight `need` has no room. -/
def full (need : Nat) (entries : BTreeMap κ ν) (retained : Nat) : Bool :=
  capacity ≤ entries.len || limit < saturatingAdd retained need

/-- Drop the oldest entries until one of weight `need` has room.  The answer is `false` when the
queue runs out first. -/
def evict (need : Nat) (entries : BTreeMap κ ν) (retained : Nat) : List κ → Bool × Retention κ ν
  | [] => (!full capacity limit need entries retained, ⟨entries, [], retained⟩)
  | oldest :: rest =>
    if full capacity limit need entries retained then
      match entries.get? oldest with
      | some removed =>
        evict need (entries.remove oldest) (saturatingSub retained (weight removed)) rest
      | none => evict need entries retained rest
    else (true, ⟨entries, oldest :: rest, retained⟩)

/-- Add an entry as the newest. -/
def push (store : Retention κ ν) (key : κ) (value : ν) : Retention κ ν where
  entries := store.entries.insert key value
  order := store.order ++ [key]
  retained := saturatingAdd store.retained (weight value)

/-- The queue lists the keys of the map once each, and the sum is that of the weights. -/
structure Balanced (store : Retention κ ν) : Prop where
  nodup : store.order.Nodup
  mem_order : ∀ key, key ∈ store.order ↔ key ∈ store.entries.keys
  retained_eq : store.retained = store.entries.total weight

/-- The accounts balance and keep to the limits. -/
structure Accounted (store : Retention κ ν) : Prop extends Balanced weight store where
  len_le : store.entries.len ≤ capacity
  retained_le : store.retained ≤ limit

variable {weight capacity limit}

variable {entries : BTreeMap κ ν}

/-- Where sums do not saturate, a store that is not full has room. -/
theorem room_of_not_full {need retained : Nat}
    (addressable : limit < u64Max ∨ retained + need ≤ u64Max)
    (notFull : full capacity limit need entries retained = false) :
    entries.len < capacity ∧ retained + need ≤ limit := by
  rw [full, Bool.or_eq_false_iff, decide_eq_false_iff_not, decide_eq_false_iff_not,
    saturatingAdd] at notFull
  omega

/-- Without its oldest entry, a store still balances. -/
theorem Balanced.remove_oldest {retained : Nat} {oldest : κ} {rest : List κ}
    (balanced : Balanced weight ⟨entries, oldest :: rest, retained⟩) :
    ∃ removed, entries.get? oldest = some removed ∧
      Balanced weight ⟨entries.remove oldest, rest, retained - weight removed⟩ := by
  obtain ⟨nodup, mem_order, retained_eq⟩ := balanced
  obtain ⟨notLater, nodupRest⟩ := List.nodup_cons.mp nodup
  obtain ⟨removed, read⟩ := BTreeMap.mem_keys_iff.mp ((mem_order oldest).mp List.mem_cons_self)
  refine ⟨removed, read, nodupRest, fun key => ?_, ?_⟩
  · have listed := mem_order key
    simp only [List.mem_cons, BTreeMap.mem_keys_iff, BTreeMap.get?_remove] at listed ⊢
    by_cases same : key = oldest
    · simpa [same] using notLater
    · simpa [same] using listed
  · have parts : entries.total weight = _ := BTreeMap.total_eq_add_remove weight read
    change retained = entries.total weight at retained_eq
    change retained - weight removed = (entries.remove oldest).total weight
    omega

/-- Making room succeeds for an entry that fits the limits.  It drops the oldest keys, as many as
`count` says, and keeps every other entry.  Saturation is harmless because the limit is below the
largest word, or else no sum reaches it. -/
theorem evict_spec {need : Nat} (positive : 0 < capacity) (fits : need ≤ limit) {order : List κ}
    {retained : Nat} (balanced : Balanced weight ⟨entries, order, retained⟩)
    (addressable : limit < u64Max ∨ retained + need ≤ u64Max) :
    ∃ count after, evict weight capacity limit need entries retained order = (true, after) ∧
      after.order = order.drop count ∧
      (∀ key, after.entries.get? key =
        if key ∈ order.take count then none else entries.get? key) ∧
      Balanced weight after ∧ after.entries.len < capacity ∧ after.retained + need ≤ limit := by
  -- The queue shrinks at each round, and while it has a key the accounts determine what is dropped.
  induction order generalizing entries retained with
  | nil =>
    have empty : entries.entries = [] := by
      rw [List.eq_nil_iff_forall_not_mem]
      intro entry member
      have listed := (balanced.mem_order entry.1).mpr (List.mem_map_of_mem member)
      exact absurd listed List.not_mem_nil
    have none_retained : retained = 0 := by
      have sum := balanced.retained_eq
      simpa [BTreeMap.total, empty] using sum
    have notFull : full capacity limit need entries retained = false := by
      have none_kept : entries.len = 0 := by rw [BTreeMap.len, empty, List.length_nil]
      simp only [full, Bool.or_eq_false_iff, decide_eq_false_iff_not, not_le, not_lt, saturatingAdd,
        none_kept, none_retained]
      omega
    refine ⟨0, ⟨entries, [], retained⟩, by rw [evict, notFull]; rfl, rfl, ?_, balanced,
      room_of_not_full addressable notFull⟩
    intro key
    simp
  | cons oldest rest ih =>
    rw [evict]
    by_cases isFull : full capacity limit need entries retained = true
    · obtain ⟨removed, read, smaller⟩ := balanced.remove_oldest
      have stillAddressable : limit < u64Max ∨ retained - weight removed + need ≤ u64Max := by omega
      obtain ⟨count, after, done, order, lookups, accounts⟩ := ih smaller stillAddressable
      rw [if_pos isFull, read]
      refine ⟨count + 1, after, done, order, fun key => ?_, accounts⟩
      rw [lookups, BTreeMap.get?_remove]
      by_cases same : key = oldest
      · simp [same]
      · simp [same]
    · rw [if_neg isFull]
      exact ⟨0, _, rfl, rfl, fun key => by simp, balanced,
        room_of_not_full addressable (by simpa using isFull)⟩

/-- A new key for which there is room keeps the accounts. -/
theorem accounted_push {store : Retention κ ν} {key : κ} {value : ν}
    (balanced : Balanced weight store) (fresh : store.entries.get? key = none)
    (lenRoom : store.entries.len < capacity) (room : store.retained + weight value ≤ limit)
    (words : limit ≤ u64Max) :
    Accounted weight capacity limit (store.push weight key value) := by
  have missing : key ∉ store.order := by
    rw [balanced.mem_order, BTreeMap.mem_keys_iff, fresh]
    simp
  have sum := BTreeMap.total_insert_of_fresh weight value fresh
  have count := BTreeMap.total_insert_of_fresh (fun _ => 1) value fresh
  rw [← BTreeMap.len_eq_total, ← BTreeMap.len_eq_total] at count
  have exact_sum : saturatingAdd store.retained (weight value) = store.retained + weight value := by
    simp only [saturatingAdd]
    omega
  refine ⟨⟨?_, fun other => ?_, ?_⟩, ?_, ?_⟩
  · exact List.Nodup.append balanced.nodup (List.nodup_singleton key)
      (by simpa [List.disjoint_singleton] using missing)
  · rw [push, List.mem_append, List.mem_singleton, balanced.mem_order, BTreeMap.mem_keys_insert,
      or_comm]
  · change saturatingAdd _ _ = BTreeMap.total weight (store.entries.insert key value)
    rw [exact_sum, sum, balanced.retained_eq, Nat.add_comm]
  · change (store.entries.insert key value).len ≤ capacity
    omega
  · change saturatingAdd _ _ ≤ limit
    omega

end Retention

end Linura.Lib
