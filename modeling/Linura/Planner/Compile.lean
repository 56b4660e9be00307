import Linura.Capability.Catalog
import Linura.Intents.Model
import Linura.Planner.Plan

/-!
# Compiling an intent

`compile_intent` merges what the blueprints of the selected capabilities contribute to each
resource, as it is reached through one provider and one observation route.  Validation then refuses
a resource that is reached through two routes, so that in a compiled plan every resource has one
entry, which is the union of all contributions to it.
-/

namespace Linura.Planner

open Linura.Lib Linura.Core Linura.Intents Linura.Capability

/-- The errors of `PlanningError` that compiling an intent can report. -/
inductive CompileError
  | retiredIntent
  | missingCapability (capability : CapabilityId)
  | conflict (left right : CapabilityId)
  | emptyIntentStatement
  | desiredStateConflict (resource : ResourceId) (key first second : String)
  | invalidDesiredState (reason : String)
  deriving DecidableEq

abbrev DesiredResourceKey := ProviderId ×ₗ ResourceId ×ₗ CapabilityId

structure DesiredResourceContribution where
  state : BTreeMap String String
  capabilities : Finset CapabilityId

structure IntentPlan where
  intentId : IntentId
  capabilityResolution : Resolution
  desiredState : List DesiredResource
  warnings : List String

/-- The key under which the contributions of a template are merged. -/
def templateKey (template : DesiredResourceBlueprint) : DesiredResourceKey :=
  toLex (template.provider, toLex (template.resource, template.observationCapability))

/-- Merge one attribute of a template. -/
def mergeAttribute (resource : ResourceId) (state : BTreeMap String String)
    (entry : String × String) :
    Except CompileError (BTreeMap String String) :=
  match state.get? entry.1 with
  | some existing =>
    if existing ≠ entry.2 then .error (.desiredStateConflict resource entry.1 existing entry.2)
    else .ok (state.insert entry.1 entry.2)
  | none => .ok (state.insert entry.1 entry.2)

/-- Merge one template of a capability. -/
def contribute (contributions : BTreeMap DesiredResourceKey DesiredResourceContribution)
    (item : CapabilityId × DesiredResourceBlueprint) :
    Except CompileError (BTreeMap DesiredResourceKey DesiredResourceContribution) := do
  let entry := (contributions.get? (templateKey item.2)).getD ⟨.empty, ∅⟩
  let state ← item.2.state.entries.foldlM (mergeAttribute item.2.resource) entry.state
  return contributions.insert (templateKey item.2) ⟨state, insert item.1 entry.capabilities⟩

variable (catalog : CapabilityCatalog)

/-- Merge the templates of a selected capability, and warn if it has none. -/
def collect (collected : BTreeMap DesiredResourceKey DesiredResourceContribution × List String)
    (capability : CapabilityId) :
    Except CompileError
      (BTreeMap DesiredResourceKey DesiredResourceContribution × List String) := do
  let some blueprint := catalog.get? capability | throw (.missingCapability capability)
  let warnings := if blueprint.desiredResources.isEmpty then
      collected.2 ++ ["capability " ++ capability.value ++ " contributes no desired resources"]
    else collected.2
  let contributions ← (blueprint.desiredResources.map (capability, ·)).foldlM contribute collected.1
  return (contributions, warnings)

/-- `DeterministicPlanner::resolve_capabilities` -/
def resolveCapabilities (intent : Intent) (catalog : CapabilityCatalog)
    (requested : List CapabilityId) :
    Except CompileError Resolution := do
  demand (intent.status = .active) .retiredIntent
  let resolution := resolve catalog requested
  match (sorted resolution.missing).head? with
  | some missing => throw (.missingCapability missing)
  | none => pure ()
  match resolution.conflicts.head? with
  | some (left, right) => throw (.conflict left right)
  | none => pure ()
  return resolution

/-- The entry of the desired state for what was contributed under a key. -/
def desiredResource (intent : Intent) (entry : DesiredResourceKey × DesiredResourceContribution) :
    DesiredResource where
  provider := (ofLex entry.1).1
  resource := (ofLex (ofLex entry.1).2).1
  observationCapability := (ofLex (ofLex entry.1).2).2
  state := entry.2.state
  reason := ⟨intent.statement, [intent.id], [], sorted entry.2.capabilities⟩

/-- `DeterministicPlanner::compile_intent` -/
def compileIntent (debugText : String → String) (intent : Intent) (catalog : CapabilityCatalog)
    (requested : List CapabilityId) : Except CompileError IntentPlan := do
  demand (trimIsEmpty intent.statement = false) .emptyIntentStatement
  let resolution ← resolveCapabilities intent catalog requested
  let (contributions, warnings) ←
    (sorted resolution.selected).foldlM (collect catalog) (BTreeMap.empty, [])
  let resources := contributions.entries.map (desiredResource intent)
  (validateDesiredState resources).mapError fun error => .invalidDesiredState
    (error.display debugText)
  return ⟨intent.id, resolution, resources, warnings.mergeSort fun left right => left ≤ right⟩

/-! ### What is merged -/

/-- Merging keeps what is there, adds the entries, and meets no other value for a key. -/
theorem get?_of_mergeAttributes {resource : ResourceId} {entries : List (String × String)}
    {state state' : BTreeMap String String}
    (merged : entries.foldlM (mergeAttribute resource) state = .ok state') (key value : String) :
    state'.get? key = some value ↔ state.get? key = some value ∨ (key, value) ∈ entries := by
  refine foldlM_rule (I := fun done state' => state'.get? key = some value ↔
    state.get? key = some value ∨ (key, value) ∈ done) ?_ [] (by simp) merged
  intro done entry before after holds step
  obtain ⟨free, rfl⟩ : (∀ value, before.get? entry.1 = some value → value = entry.2) ∧
      after = before.insert entry.1 entry.2 := by
    unfold mergeAttribute at step
    cases seen : before.get? entry.1 with
    | none => simp_all
    | some existing =>
      rw [seen] at step
      dsimp only at step
      split_ifs at step with differs
      simp_all
  rw [List.mem_append, List.mem_singleton, ← or_assoc, ← holds, BTreeMap.get?_insert]
  by_cases same : key = entry.1
  · subst same
    rw [if_pos rfl]
    constructor
    · rintro ⟨rfl⟩
      exact .inr rfl
    · rintro (old | new)
      · rw [free _ old]
      · rw [← new]
  · rw [if_neg same]
    refine ⟨.inl, fun merged => merged.resolve_right fun new => same ?_⟩
    rw [← new]

/-- What was merged from a list of templates. -/
structure Merged (done : List (CapabilityId × DesiredResourceBlueprint))
    (contributions : BTreeMap DesiredResourceKey DesiredResourceContribution) : Prop where
  known : ∀ key, (∃ contribution, contributions.get? key = some contribution) ↔
    ∃ item ∈ done, templateKey item.2 = key
  state : ∀ key contribution, contributions.get? key = some contribution → ∀ name value,
    contribution.state.get? name = some value ↔
      ∃ item ∈ done, templateKey item.2 = key ∧ item.2.state.get? name = some value
  capabilities : ∀ key contribution, contributions.get? key = some contribution → ∀ capability,
    capability ∈ contribution.capabilities ↔ ∃ item ∈ done, templateKey item.2 = key ∧
      item.1 = capability

theorem merged_contribute {done : List (CapabilityId × DesiredResourceBlueprint)}
    {item : CapabilityId × DesiredResourceBlueprint}
    {before after : BTreeMap DesiredResourceKey DesiredResourceContribution}
    (merged : Merged done before)
    (step : contribute before item = .ok after) : Merged (done ++ [item]) after := by
  obtain ⟨state, mergedState, built⟩ := bind_eq_ok.mp step
  cases built
  have attributes := get?_of_mergeAttributes mergedState
  -- what was merged before under the key of the template, if anything
  have old : (∀ name value, ((before.get? (templateKey item.2)).getD ⟨.empty, ∅⟩).state.get? name =
        some value ↔ ∃ other ∈ done, templateKey other.2 = templateKey item.2 ∧
          other.2.state.get? name = some value) ∧
      ∀ capability, capability ∈
        ((before.get? (templateKey item.2)).getD ⟨.empty, ∅⟩).capabilities ↔
        ∃ other ∈ done, templateKey other.2 = templateKey item.2 ∧ other.1 = capability := by
    cases seen : before.get? (templateKey item.2) with
    | some contribution => exact ⟨merged.state _ _ seen, merged.capabilities _ _ seen⟩
    | none =>
      have absent : ∀ other ∈ done, templateKey other.2 ≠ templateKey item.2 := by
        intro other member same
        obtain ⟨contribution, found⟩ := (merged.known _).mpr ⟨other, member, same⟩
        rw [seen] at found
        cases found
      constructor
      · intro name value
        simpa using fun other template member same => absurd same (absent (other, template) member)
      · intro capability
        simpa using fun template member same => absent (capability, template) member same
  constructor
  · intro key
    rw [BTreeMap.get?_insert]
    by_cases same : key = templateKey item.2
    · simp [same]
    · rw [if_neg same, merged.known]
      simp [Ne.symm same]
  all_goals
    intro key contribution found
    rw [BTreeMap.get?_insert] at found
    split_ifs at found with same
  · cases found
    subst same
    intro name value
    rw [attributes, old.1, BTreeMap.mem_entries_iff]
    simp [or_and_right, exists_or]
  · simpa [Ne.symm same] using merged.state key contribution found
  · cases found
    subst same
    intro capability
    rw [Finset.mem_insert, old.2]
    simp [or_and_right, exists_or, or_comm, eq_comm]
  · simpa [Ne.symm same] using merged.capabilities key contribution found

/-- A template that a selected capability contributes. -/
def Contributes (requested : List CapabilityId) (id : CapabilityId)
    (template : DesiredResourceBlueprint) : Prop :=
  Selected catalog requested id ∧
    ∃ blueprint, catalog.get? id = some blueprint ∧ template ∈ blueprint.desiredResources

def templatesOf (id : CapabilityId) : List (CapabilityId × DesiredResourceBlueprint) :=
  ((catalog.get? id).elim [] (·.desiredResources)).map (id, ·)

theorem merged_collect {catalog : CapabilityCatalog} {ids : List CapabilityId}
    {collected : BTreeMap DesiredResourceKey DesiredResourceContribution × List String}
    (ended : ids.foldlM (collect catalog) (BTreeMap.empty, []) = .ok collected) :
    Merged (ids.flatMap (templatesOf catalog)) collected.1 := by
  refine foldlM_rule (I := fun done collected =>
    Merged (done.flatMap (templatesOf catalog)) collected.1)
    ?_ [] ⟨by simp, by simp, by simp⟩ ended
  intro done id before after merged step
  unfold collect at step
  cases found : catalog.get? id with
  | none => simp [found, throw_eq_error] at step
  | some blueprint =>
    simp only [found] at step
    obtain ⟨contributions, contributed, built⟩ := bind_eq_ok.mp step
    cases built
    rw [List.flatMap_append, List.flatMap_singleton, templatesOf, found]
    exact foldlM_rule (fun _ _ _ _ => merged_contribute) _ merged contributed

/-! ### Compiled plans -/

theorem nodup_of_scan {resources : List DesiredResource} {seen : List ResourceId}
    (valid : validateDesiredState.scan seen resources = .ok ()) :
    (resources.map (·.resource)).Nodup ∧ ∀ desired ∈ resources, desired.resource ∉ seen := by
  induction resources generalizing seen with
  | nil => simp
  | cons desired rest ih =>
    rw [validateDesiredState.scan] at valid
    split_ifs at valid with known
    obtain ⟨nodup, fresh⟩ := ih (check_bind_eq_ok.mp valid).2
    refine ⟨?_, ?_⟩
    · rw [List.map_cons, List.nodup_cons]
      refine ⟨fun member => ?_, nodup⟩
      obtain ⟨later, inRest, same⟩ := List.mem_map.mp member
      exact fresh later inRest (same ▸ List.mem_cons_self)
    · intro other member
      rcases List.mem_cons.mp member with rfl | inRest
      · exact known
      · exact fun old => fresh other inRest (List.mem_cons_of_mem _ old)

/-- What a plan says of the capabilities that were requested. -/
structure Compiled (catalog : CapabilityCatalog) (requested : List CapabilityId)
    (plan : IntentPlan) :
    Prop where
  registered : ∀ id, Selected catalog requested id → catalog.get? id ≠ none
  compatible : ∀ id other, Selected catalog requested id → Selected catalog requested other →
    ¬Declares catalog .conflicts id other
  agree : ∀ id id' template template' name value value', Contributes catalog requested id template →
    Contributes catalog requested id' template' → template.resource = template'.resource →
    template.state.get? name = some value → template'.state.get? name = some value' → value = value'
  distinct : (plan.desiredState.map (·.resource)).Nodup
  contributed : ∀ resource, (∃ desired ∈ plan.desiredState, desired.resource = resource) ↔
    ∃ id template, Contributes catalog requested id template ∧ template.resource = resource
  union : ∀ desired ∈ plan.desiredState, ∀ name value, desired.state.get? name = some value ↔
    ∃ id template, Contributes catalog requested id template ∧
      template.resource = desired.resource ∧
      template.state.get? name = some value
  capabilities : ∀ desired ∈ plan.desiredState, desired.reason.capabilityIds.Pairwise (· < ·) ∧
    ∀ id, id ∈ desired.reason.capabilityIds ↔
      ∃ template, Contributes catalog requested id template ∧ template.resource = desired.resource

/-- A plan that was compiled merges what its capabilities contribute. -/
theorem compiled_of_compileIntent {debugText : String → String} {intent : Intent}
    {catalog : CapabilityCatalog} {requested : List CapabilityId} {plan : IntentPlan}
    (compiled : compileIntent debugText intent catalog requested = .ok plan) :
    Compiled catalog requested plan := by
  obtain ⟨-, compiled⟩ := check_bind_eq_ok.mp compiled
  obtain ⟨resolution, resolved, compiled⟩ := bind_eq_ok.mp compiled
  obtain ⟨⟨contributions, warnings⟩, collected, compiled⟩ := bind_eq_ok.mp compiled
  obtain ⟨valid, compiled⟩ := check_bind_eq_ok.mp compiled
  cases compiled
  have resolves := resolves_resolve catalog requested
  obtain ⟨rfl, missing, conflicts⟩ : resolution = resolve catalog requested ∧
      resolution.missing = ∅ ∧ resolution.conflicts = [] := by
    obtain ⟨-, resolved⟩ := check_bind_eq_ok.mp resolved
    dsimp only at resolved
    split at resolved
    · cases resolved
    · rename_i none
      split at resolved
      · cases resolved
      · rename_i free
        cases resolved
        refine ⟨rfl, ?_, by simpa using free⟩
        have empty : (resolve catalog requested).missing.sort (· ≤ ·) = [] := by simpa using none
        rw [← Finset.sort_toFinset (resolve catalog requested).missing (· ≤ ·), empty]
        rfl
  have nodup : ((contributions.entries.map (desiredResource intent)).map (·.resource)).Nodup := by
    have scanned := mapError_eq_ok.mp valid
    unfold validateDesiredState at scanned
    split_ifs at scanned
    exact (nodup_of_scan scanned).1
  have merged := merged_collect collected
  have items : ∀ item, item ∈ ((resolve catalog requested).selected.sort (· ≤ ·)).flatMap
    (templatesOf catalog) ↔
      Contributes catalog requested item.1 item.2 := by
    rintro ⟨id, template⟩
    simp only [List.mem_flatMap, Finset.mem_sort, resolves.mem_selected, templatesOf, List.mem_map,
      Prod.mk.injEq, Contributes]
    constructor
    · rintro ⟨other, selected, template', listed, rfl, rfl⟩
      cases found : catalog.get? other with
      | none => simp [found] at listed
      | some blueprint => exact ⟨selected, blueprint, rfl, by simpa [found] using listed⟩
    · rintro ⟨selected, blueprint, found, listed⟩
      exact ⟨id, selected, template, by simpa [found] using listed, rfl, rfl⟩
  -- a resource is contributed to under one key only
  have oneKey : ∀ {key contribution id template}, contributions.get? key = some contribution →
      Contributes catalog requested id template →
      template.resource = (desiredResource intent (key, contribution)).resource →
      templateKey template = key := by
    intro key contribution id template found contributes same
    obtain ⟨other, found'⟩ :=
      (merged.known (templateKey template)).mpr ⟨_, (items (id, template)).mpr contributes, rfl⟩
    rw [List.map_map] at nodup
    have entry := List.inj_on_of_nodup_map nodup (BTreeMap.mem_entries_iff.mpr found')
      (BTreeMap.mem_entries_iff.mpr found) same
    exact congrArg Prod.fst entry
  have union : ∀ key contribution, contributions.get? key = some contribution → ∀ name value,
      contribution.state.get? name = some value ↔
        ∃ id template, Contributes catalog requested id template ∧
        template.resource = (desiredResource intent (key, contribution)).resource ∧
        template.state.get? name = some value := by
    intro key contribution found name value
    rw [merged.state key contribution found]
    constructor
    · rintro ⟨item, member, rfl, held⟩
      exact ⟨item.1, item.2, (items item).mp member, rfl, held⟩
    · rintro ⟨id, template, contributes, same, held⟩
      exact ⟨(id, template), (items _).mpr contributes, oneKey found contributes same, held⟩
  refine ⟨fun id selected none => ?_, fun id other first second declared => ?_, ?_,
    nodup, fun resource => ?_,
    ?_, ?_⟩
  · have member := (resolves.mem_missing id).mpr ⟨selected, none⟩
    rw [missing] at member
    cases member
  · have member := (resolves.mem_conflicts _).mpr ⟨id, other, first, second, declared, rfl⟩
    rw [conflicts] at member
    cases member
  · intro id id' template template' name value value' contributes contributes' same held held'
    obtain ⟨contribution, found⟩ :=
      (merged.known (templateKey template)).mpr ⟨_, (items (id, template)).mpr contributes, rfl⟩
    have read := (union _ _ found name value).mpr ⟨id, template, contributes, rfl, held⟩
    have read' := (union _ _ found name value').mpr ⟨id', template', contributes', same.symm, held'⟩
    exact Option.some.inj (read.symm.trans read')
  · constructor
    · rintro ⟨desired, member, rfl⟩
      obtain ⟨⟨key, contribution⟩, listed, rfl⟩ := List.mem_map.mp member
      obtain ⟨item, inside, rfl⟩ :=
        (merged.known key).mp ⟨contribution, BTreeMap.mem_entries_iff.mp listed⟩
      exact ⟨item.1, item.2, (items item).mp inside, rfl⟩
    · rintro ⟨id, template, contributes, rfl⟩
      obtain ⟨contribution, found⟩ :=
        (merged.known (templateKey template)).mpr ⟨_, (items (id, template)).mpr contributes, rfl⟩
      exact ⟨_, List.mem_map_of_mem (BTreeMap.mem_entries_iff.mpr found), rfl⟩
  · intro desired member
    obtain ⟨⟨key, contribution⟩, listed, rfl⟩ := List.mem_map.mp member
    exact union key contribution (BTreeMap.mem_entries_iff.mp listed)
  · intro desired member
    obtain ⟨⟨key, contribution⟩, listed, rfl⟩ := List.mem_map.mp member
    have found := BTreeMap.mem_entries_iff.mp listed
    refine ⟨(Finset.sortedLT_sort contribution.capabilities).pairwise, fun id => ?_⟩
    simp only [desiredResource, Finset.mem_sort]
    rw [merged.capabilities key contribution found]
    constructor
    · rintro ⟨item, inside, rfl, rfl⟩
      exact ⟨item.2, (items item).mp inside, rfl⟩
    · rintro ⟨template, contributes, same⟩
      exact ⟨(id, template), (items _).mpr contributes, oneKey found contributes same, rfl⟩

/-- `compile_intent` succeeds only on compatible capabilities, with one merged entry for every
resource they contribute to, and depends on what is requested, not on how. -/
theorem compileIntent_spec (debugText : String → String) (intent : Intent)
    (catalog : CapabilityCatalog)
    (requested : List CapabilityId) :
    (∀ plan, compileIntent debugText intent catalog requested = .ok plan →
      Compiled catalog requested plan) ∧
      ∀ requested' : List CapabilityId, (∀ id, id ∈ requested ↔ id ∈ requested') →
        compileIntent debugText intent catalog requested' =
          compileIntent debugText intent catalog requested := by
  refine ⟨fun plan => compiled_of_compileIntent, fun requested' same => ?_⟩
  unfold compileIntent resolveCapabilities
  rw [resolve_congr same]

end Linura.Planner
