import Mathlib.Data.Finset.Sort
import Mathlib.Data.Prod.Lex
import Linura.Lib.BTreeMap
import Linura.Lib.Traversal
import Linura.Core.Identifiers

/-!
# The capability catalog

Blueprints require and exclude other capabilities.  Resolving a request selects what is required,
directly or not, and reports what is selected and not registered, and which selected capabilities
exclude each other.  The requirements may be cyclic; the loop ends on every catalog.
-/

namespace Linura.Capability

open Linura.Lib Linura.Core

inductive CapabilityRelationKind
  | requires
  | provides
  | conflicts
  | replaces
  | recommends
  | optional
  deriving DecidableEq, Repr

structure CapabilityRelation where
  kind : CapabilityRelationKind
  capability : CapabilityId
  deriving DecidableEq

structure DesiredResourceBlueprint where
  provider : ProviderId
  resource : ResourceId
  observationCapability : CapabilityId
  state : BTreeMap String String
  deriving DecidableEq

/-- `CapabilityBlueprint`, without its title. -/
structure CapabilityBlueprint where
  id : CapabilityId
  relations : List CapabilityRelation
  desiredResources : List DesiredResourceBlueprint
  deriving DecidableEq

abbrev CapabilityCatalog := BTreeMap CapabilityId CapabilityBlueprint

structure Resolution where
  selected : Finset CapabilityId
  conflicts : List (CapabilityId × CapabilityId)
  missing : Finset CapabilityId
  deriving DecidableEq

/-- `canonical_conflict_pair` -/
def canonicalConflictPair (left right : CapabilityId) : CapabilityId × CapabilityId :=
  if left ≤ right then (left, right) else (right, left)

/-- The conflicts that a capability declares with selected ones, each noted once. -/
def noteConflicts (selected : Finset CapabilityId) (id : CapabilityId)
    (conflicts : List (CapabilityId × CapabilityId)) (relations : List CapabilityRelation) :
    List (CapabilityId × CapabilityId) :=
  relations.foldl (fun conflicts relation =>
    if relation.kind = .conflicts ∧ relation.capability ∈ selected then
      if canonicalConflictPair id relation.capability ∈ conflicts then conflicts
      else conflicts ++ [canonicalConflictPair id relation.capability]
    else conflicts) conflicts

variable (catalog : CapabilityCatalog)

def relationsOf (id : CapabilityId) : List CapabilityRelation :=
  (catalog.get? id).elim [] CapabilityBlueprint.relations

/-- The loop of `resolve`: one pass over the relations of a new capability pushes what it requires
and notes the conflicts with what is selected so far. -/
def resolution : Worklist CapabilityId Resolution where
  children id := ((relationsOf catalog id).filter (·.kind = .requires)).map (·.capability)
  visit id result :=
    { selected := insert id result.selected
      conflicts :=
        noteConflicts (insert id result.selected) id result.conflicts (relationsOf catalog id)
      missing := if (catalog.get? id).isNone then insert id result.missing else result.missing }

theorem isSome_resolution (requested : List CapabilityId) :
    ((resolution catalog).explore (requested.reverse.length + Worklist.edges catalog.keys
      (fun id => ((resolution catalog).children id).length) []) requested.reverse []
        ⟨∅, [], ∅⟩).isSome = true := by
  refine Worklist.explore_isSome (fun id => ?_) le_rfl
  cases found : catalog.get? id with
  | some blueprint => exact .inl (BTreeMap.mem_keys_iff.mpr ⟨blueprint, found⟩)
  | none => exact .inr (by simp [resolution, relationsOf, found])

/-- The order in which the source's sets are read. -/
abbrev sorted (ids : Finset CapabilityId) : List CapabilityId := ids.sort (· ≤ ·)

/-- `CapabilityCatalog::resolve`.  The second pass notes the conflicts with what was selected later.
-/
def resolve (requested : List CapabilityId) : Resolution :=
  let result := (Option.get _ (isSome_resolution catalog requested)).2
  let conflicts := (sorted result.selected).foldl (fun conflicts id =>
    noteConflicts result.selected id conflicts (relationsOf catalog id)) result.conflicts
  { result with conflicts := conflicts.mergeSort fun left right => toLex left ≤ toLex right }

/-! ### What is resolved -/

/-- One capability declares a relation to another. -/
def Declares (kind : CapabilityRelationKind) (id other : CapabilityId) : Prop :=
  ⟨kind, other⟩ ∈ relationsOf catalog id

/-- The least set that contains what is requested and what its members require. -/
inductive Selected (requested : List CapabilityId) : CapabilityId → Prop
  | requested {id : CapabilityId} (member : id ∈ requested) : Selected requested id
  | requires {id other : CapabilityId} (selected : Selected requested id)
      (declared : Declares catalog .requires id other) : Selected requested other

/-- A resolution is what the requested set determines. -/
structure Resolves (requested : List CapabilityId) (result : Resolution) : Prop where
  mem_selected : ∀ id, id ∈ result.selected ↔ Selected catalog requested id
  mem_missing : ∀ id, id ∈ result.missing ↔ Selected catalog requested id ∧ catalog.get? id = none
  mem_conflicts : ∀ pair, pair ∈ result.conflicts ↔ ∃ id other, Selected catalog requested id ∧
    Selected catalog requested other ∧ Declares catalog .conflicts id other ∧
      pair = canonicalConflictPair id other
  sorted : result.conflicts.Pairwise fun pair later => toLex pair < toLex later

variable {catalog} {requested requested' : List CapabilityId}

/-- The selected capabilities are those that requests lead to. -/
theorem selected_iff {id : CapabilityId} : Selected catalog requested id ↔
    ∃ root ∈ requested, Relation.ReflTransGen (resolution catalog).Child root id := by
  have child : ∀ id other, (resolution catalog).Child id other ↔
      Declares catalog .requires id other := by
    intro id other
    simp only [Worklist.Child, resolution, List.mem_map, List.mem_filter, Declares]
    constructor
    · rintro ⟨⟨kind, capability⟩, ⟨member, required⟩, rfl⟩
      obtain rfl : kind = .requires := by simpa using required
      exact member
    · exact fun member => ⟨_, ⟨member, by simp⟩, rfl⟩
  constructor
  · intro selected
    induction selected with
    | requested member => exact ⟨_, member, .refl⟩
    | requires _ declared ih =>
      obtain ⟨root, first, path⟩ := ih
      exact ⟨root, first, path.tail ((child _ _).mpr declared)⟩
  · rintro ⟨root, first, path⟩
    induction path with
    | refl => exact .requested first
    | tail _ edge ih => exact .requires ih ((child _ _).mp edge)

section Conflicts

variable {selected : Finset CapabilityId} {id : CapabilityId}

variable {conflicts : List (CapabilityId × CapabilityId)}

theorem mem_noteConflicts {relations : List CapabilityRelation}
    {pair : CapabilityId × CapabilityId} :
    pair ∈ noteConflicts selected id conflicts relations ↔ pair ∈ conflicts ∨
      ∃ other ∈ selected, ⟨.conflicts, other⟩ ∈ relations ∧
        pair = canonicalConflictPair id other := by
  induction relations generalizing conflicts with
  | nil => simp [noteConflicts]
  | cons relation rest ih =>
    obtain ⟨kind, other⟩ := relation
    rw [noteConflicts, List.foldl_cons, ← noteConflicts, ih]
    by_cases declared : kind = .conflicts ∧ other ∈ selected
    · obtain ⟨rfl, member⟩ := declared
      simp only [member, and_self, if_true, List.mem_cons, CapabilityRelation.mk.injEq, true_and]
      by_cases known : canonicalConflictPair id other ∈ conflicts
      · rw [if_pos known]
        constructor
        · exact Or.imp_right fun ⟨later, inside, listed, same⟩ => ⟨later, inside, .inr listed, same⟩
        · rintro (old | ⟨later, inside, rfl | listed, rfl⟩)
          · exact .inl old
          · exact .inl known
          · exact .inr ⟨later, inside, listed, rfl⟩
      · rw [if_neg known, List.mem_append, List.mem_singleton]
        constructor
        · rintro ((old | rfl) | ⟨later, inside, listed, same⟩)
          · exact .inl old
          · exact .inr ⟨other, member, .inl rfl, rfl⟩
          · exact .inr ⟨later, inside, .inr listed, same⟩
        · rintro (old | ⟨later, inside, rfl | listed, rfl⟩)
          · exact .inl (.inl old)
          · exact .inl (.inr rfl)
          · exact .inr ⟨later, inside, listed, rfl⟩
    · rw [if_neg declared]
      refine or_congr_right ⟨fun ⟨later, inside, listed, same⟩ =>
        ⟨later, inside, List.mem_cons_of_mem _ listed, same⟩,
          fun ⟨later, inside, listed, same⟩ => ?_⟩
      rcases List.mem_cons.mp listed with first | listed
      · cases first
        exact absurd ⟨rfl, inside⟩ declared
      · exact ⟨later, inside, listed, same⟩

theorem nodup_noteConflicts {relations : List CapabilityRelation} (nodup : conflicts.Nodup) :
    (noteConflicts selected id conflicts relations).Nodup := by
  refine List.foldlRecOn relations _ nodup fun conflicts nodup relation _ => ?_
  split_ifs with declared known
  · exact nodup
  · exact List.nodup_append.mpr ⟨nodup, List.nodup_singleton _, by
      intro pair member other last same
      exact known (List.mem_singleton.mp last ▸ same ▸ member)⟩
  · exact nodup

/-- The pass over all that is selected. -/
theorem mem_foldl_noteConflicts {ids : List CapabilityId} {pair : CapabilityId × CapabilityId} :
    pair ∈ ids.foldl (fun conflicts id =>
      noteConflicts selected id conflicts (relationsOf catalog id))
        conflicts ↔ pair ∈ conflicts ∨ ∃ id ∈ ids, ∃ other ∈ selected,
      Declares catalog .conflicts id other ∧ pair = canonicalConflictPair id other := by
  induction ids generalizing conflicts with
  | nil => simp
  | cons id rest ih => simp [ih, mem_noteConflicts, Declares, or_assoc]

end Conflicts

/-- What the loop has found when it is done. -/
theorem resolution_explored {fuel : Nat} {pending visited : List CapabilityId} {result : Resolution}
    (done : (resolution catalog).explore fuel pending [] ⟨∅, [], ∅⟩ = some (visited, result)) :
    (∀ id, id ∈ result.selected ↔ id ∈ visited) ∧
      (∀ id, id ∈ result.missing ↔ id ∈ visited ∧ catalog.get? id = none) ∧
      (∀ pair ∈ result.conflicts, ∃ id ∈ visited, ∃ other ∈ visited,
        Declares catalog .conflicts id other ∧ pair = canonicalConflictPair id other) ∧
      result.conflicts.Nodup := by
  refine Worklist.explore_rule (I := fun _ visited result =>
    (∀ id, id ∈ result.selected ↔ id ∈ visited) ∧
      (∀ id, id ∈ result.missing ↔ id ∈ visited ∧ catalog.get? id = none) ∧
      (∀ pair ∈ result.conflicts, ∃ id ∈ visited, ∃ other ∈ visited,
        Declares catalog .conflicts id other ∧ pair = canonicalConflictPair id other) ∧
      result.conflicts.Nodup) (fun holds _ => holds) ?_ (by simp) done
  intro id rest visited result ⟨selected, missing, conflicts, nodup⟩ _
  have inserted : ∀ other, other ∈ insert id result.selected ↔ other ∈ id :: visited := by
    simp [selected]
  refine ⟨inserted, fun other => ?_, fun pair member => ?_, nodup_noteConflicts nodup⟩
  · cases found : catalog.get? id with
    | none =>
      simp only [resolution, found, Option.isNone_none, if_true, Finset.mem_insert,
        missing, List.mem_cons]
      constructor
      · rintro (rfl | old)
        · exact ⟨.inl rfl, found⟩
        · exact ⟨.inr old.1, old.2⟩
      · rintro ⟨rfl | old, none⟩
        · exact .inl rfl
        · exact .inr ⟨old, none⟩
    | some blueprint =>
      simp only [resolution, found, Option.isNone_some, Bool.false_eq_true, if_false,
        missing, List.mem_cons]
      refine ⟨fun old => ⟨.inr old.1, old.2⟩, ?_⟩
      rintro ⟨rfl | old, none⟩
      · rw [found] at none
        cases none
      · exact ⟨old, none⟩
  · rcases mem_noteConflicts.mp member with old | ⟨other, inside, declared, same⟩
    · obtain ⟨left, first, right, second, declared, same⟩ := conflicts pair old
      exact ⟨left, List.mem_cons_of_mem _ first, right, List.mem_cons_of_mem _ second,
        declared, same⟩
    · exact ⟨id, List.mem_cons_self, other, (inserted other).mp inside, declared, same⟩

/-- What is selected, missing and in conflict. -/
theorem resolves_resolve (catalog : CapabilityCatalog) (requested : List CapabilityId) :
    Resolves catalog requested (resolve catalog requested) := by
  have done := (Option.some_get (isSome_resolution catalog requested)).symm
  rw [← Prod.mk.eta (p := Option.get _ _)] at done
  obtain ⟨selected, missing, conflicts, nodup⟩ := resolution_explored done
  have visited : ∀ id, id ∈ (Option.get _ (isSome_resolution catalog requested)).1 ↔
      Selected catalog requested id := by
    intro id
    rw [Worklist.mem_explore done, selected_iff]
    simp only [List.mem_reverse]
  simp only [visited] at selected missing conflicts
  have all : ∀ pair, pair ∈ (resolve catalog requested).conflicts ↔ ∃ id other,
      Selected catalog requested id ∧ Selected catalog requested other ∧
        Declares catalog .conflicts id other ∧ pair = canonicalConflictPair id other := by
    intro pair
    rw [resolve, List.mem_mergeSort, mem_foldl_noteConflicts]
    simp only [Finset.mem_sort, selected]
    constructor
    · rintro (old | ⟨id, first, other, second, declared, same⟩)
      · obtain ⟨id, first, other, second, declared, same⟩ := conflicts pair old
        exact ⟨id, other, first, second, declared, same⟩
      · exact ⟨id, other, first, second, declared, same⟩
    · rintro ⟨id, other, first, second, declared, same⟩
      exact .inr ⟨id, first, other, second, declared, same⟩
  refine ⟨selected, missing, all, ?_⟩
  have distinct : (resolve catalog requested).conflicts.Nodup := by
    refine (List.mergeSort_perm _ _).nodup_iff.mpr ?_
    exact List.foldlRecOn _ _ nodup fun _ nodup _ _ => nodup_noteConflicts nodup
  have ordered : (resolve catalog requested).conflicts.Pairwise fun pair later =>
      decide (toLex pair ≤ toLex later) = true := by
    refine List.pairwise_mergeSort (fun left mid right => ?_) (fun left right => ?_) _
    · simpa using le_trans
    · simpa using le_total (toLex left) (toLex right)
  refine (ordered.and distinct).imp fun ⟨le, ne⟩ => lt_of_le_of_ne (of_decide_eq_true le) ?_
  exact fun same => ne (toLex.injective same)

theorem Selected.mono (more : ∀ id ∈ requested, id ∈ requested') {id : CapabilityId}
    (selected : Selected catalog requested id) : Selected catalog requested' id := by
  induction selected with
  | requested member => exact .requested (more _ member)
  | requires _ declared ih => exact .requires ih declared

/-- Resolutions of requests with the same members are equal. -/
theorem Resolves.unique {result result' : Resolution} (resolves : Resolves catalog requested result)
    (resolves' : Resolves catalog requested' result')
    (same : ∀ id, id ∈ requested ↔ id ∈ requested') :
    result = result' := by
  have agree : ∀ id, Selected catalog requested id ↔ Selected catalog requested' id := fun id =>
    ⟨.mono fun id => (same id).mp, .mono fun id => (same id).mpr⟩
  have nodup : ∀ {list : List (CapabilityId × CapabilityId)},
      (list.Pairwise fun pair later => toLex pair < toLex later) → list.Nodup := fun sorted =>
    sorted.imp fun less equal => less.ne (congrArg toLex equal)
  have perm : result.conflicts.Perm result'.conflicts := by
    rw [List.perm_ext_iff_of_nodup (nodup resolves.sorted) (nodup resolves'.sorted)]
    simp only [resolves.mem_conflicts, resolves'.mem_conflicts, agree, implies_true]
  have conflicts : result.conflicts = result'.conflicts :=
    perm.eq_of_pairwise (fun _ _ _ _ less more =>
      absurd more less.asymm) resolves.sorted resolves'.sorted
  have selected : result.selected = result'.selected := by
    ext id
    rw [resolves.mem_selected, resolves'.mem_selected, agree]
  have missing : result.missing = result'.missing := by
    ext id
    rw [resolves.mem_missing, resolves'.mem_missing, agree]
  cases result
  cases result'
  simp_all

/-- The order of requests does not matter. -/
theorem resolve_congr (same : ∀ id, id ∈ requested ↔ id ∈ requested') :
    resolve catalog requested' = resolve catalog requested :=
  ((resolves_resolve catalog requested).unique (resolves_resolve catalog requested') same).symm

/-- `resolve` returns, on every catalog and request, the least selection, what is missing of it and
its conflicts; this depends on what is requested, not on how, and grows with it. -/
theorem resolve_spec (catalog : CapabilityCatalog) (requested : List CapabilityId) :
    Resolves catalog requested (resolve catalog requested) ∧
      (∀ requested' : List CapabilityId, (∀ id, id ∈ requested ↔ id ∈ requested') →
        resolve catalog requested' = resolve catalog requested) ∧
      ∀ requested' : List CapabilityId, (∀ id ∈ requested, id ∈ requested') →
        (resolve catalog requested).selected ⊆ (resolve catalog requested').selected ∧
        (resolve catalog requested).missing ⊆ (resolve catalog requested').missing ∧
        ∀ pair ∈ (resolve catalog requested).conflicts,
        pair ∈ (resolve catalog requested').conflicts := by
  have resolves := resolves_resolve catalog requested
  refine ⟨resolves, fun requested' => resolve_congr, fun requested' more => ?_⟩
  have resolves' := resolves_resolve catalog requested'
  refine ⟨fun id member => ?_, fun id member => ?_, fun pair member => ?_⟩
  · exact (resolves'.mem_selected id).mpr (((resolves.mem_selected id).mp member).mono more)
  · obtain ⟨selected, none⟩ := (resolves.mem_missing id).mp member
    exact (resolves'.mem_missing id).mpr ⟨selected.mono more, none⟩
  · obtain ⟨id, other, first, second, declared, same⟩ := (resolves.mem_conflicts pair).mp member
    exact (resolves'.mem_conflicts pair).mpr ⟨id, other, first.mono more,
      second.mono more, declared, same⟩

end Linura.Capability
