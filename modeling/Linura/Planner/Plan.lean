import Linura.Lib.BTreeMap
import Linura.Lib.Except
import Linura.Core.Identifiers

/-!
# The deterministic planner

`plan_resource` compares the desired attributes of one resource with an observation of it.
The plan lists the attributes that differ with the values they have, and is blocked if an
attribute is not observed at all.

Two plans for one desired state that list the same attributes with the same values were
made under observations that agree on every desired attribute, changed or not: this is
what makes the list of changes a faithful record of the state a plan starts from.
-/

namespace Linura.Planner

open Linura.Lib Linura.Core

structure DesiredResource where
  provider : ProviderId
  resource : ResourceId
  observationCapability : CapabilityId
  state : BTreeMap String String
  reason : SemanticReason
  deriving DecidableEq

inductive DesiredStateValidationError
  | emptyDesiredState
  | duplicateResource (resource : ResourceId)
  | emptyResourceState (resource : ResourceId)
  | invalidAttributeKey (resource : ResourceId) (key : String)
  | invalidAttributeValue (resource : ResourceId) (key : String)
  | invalidSemanticReason (resource : ResourceId) (reason : String)
  deriving DecidableEq

/-- `validate_desired_resource` -/
def validateDesiredResource (desired : DesiredResource) :
    Except DesiredStateValidationError Unit := do
  if desired.state.entries.isEmpty then throw (.emptyResourceState desired.resource)
  desired.state.entries.forM fun (key, value) => do
    if trimIsEmpty key ∨ 256 < key.utf8ByteSize ∨ hasControl key then
      throw (.invalidAttributeKey desired.resource key)
    if 4096 < value.utf8ByteSize ∨ hasControl value then
      throw (.invalidAttributeValue desired.resource key)
  match desired.reason.validate with
  | .ok () => pure ()
  | .error reason => throw (.invalidSemanticReason desired.resource reason.display)

/-- `DesiredState::validate`, with the resources seen so far. -/
def validateDesiredState (resources : List DesiredResource) :
    Except DesiredStateValidationError Unit :=
  if resources.isEmpty then .error .emptyDesiredState else scan [] resources
where
  scan (seen : List ResourceId) : List DesiredResource → Except DesiredStateValidationError Unit
    | [] => .ok ()
    | desired :: rest =>
      if desired.resource ∈ seen then .error (.duplicateResource desired.resource)
      else do
        validateDesiredResource desired
        scan (desired.resource :: seen) rest

inductive PlanningFreshness
  | current
  | stale
  | future
  deriving DecidableEq, Repr

/-- `PlanningFreshness::as_str` -/
def PlanningFreshness.asStr : PlanningFreshness → String
  | .current => "current"
  | .stale => "stale"
  | .future => "future"

/-- `PlanningObservation`: what the planner sees of an observation. -/
structure PlanningObservation where
  provider : ProviderId
  resource : ResourceId
  observationCapability : CapabilityId
  authority : String
  evidenceId : String
  freshness : PlanningFreshness
  attributes : BTreeMap String String
  deriving DecidableEq

inductive PlanStatus
  | noChange
  | changeProposed
  | blocked
  deriving DecidableEq, Repr

inductive PlanFindingLevel
  | pass
  | warning
  | blocker
  deriving DecidableEq, Repr

structure PlanFinding where
  code : String
  level : PlanFindingLevel
  message : String
  deriving DecidableEq, Repr

structure StateChange where
  key : String
  current : Option String
  desired : String
  deriving DecidableEq, Repr

/-- `ExecutionAuthority`: a preview can carry no other. -/
inductive ExecutionAuthority
  | disabled
  deriving DecidableEq, Repr

structure ReconciliationPlan where
  id : PlanId
  requestId : RequestId
  actor : Actor
  provider : ProviderId
  resource : ResourceId
  observationCapability : CapabilityId
  reason : SemanticReason
  observedEvidenceId : String
  prospectiveRisk : RiskClass
  status : PlanStatus
  executionAuthority : ExecutionAuthority
  changes : List StateChange
  findings : List PlanFinding
  deriving DecidableEq

/-- `ReconciliationPlan::execution_authorized` -/
def ReconciliationPlan.executionAuthorized (plan : ReconciliationPlan) : Bool :=
  match plan.executionAuthority with
  | .disabled => false

/-- The errors of `PlanningError` that planning one resource can report. -/
inductive PlanningError
  | invalidDesiredState (reason : String)
  | invalidObservation (reason : String)
  | observationIdentityMismatch (reason : String)
  | observationNotCurrent (freshness : PlanningFreshness)
  | invalidPlanId (reason : String)
  deriving DecidableEq, Repr

/-- The text of a planning error, as `Display` writes it. -/
def PlanningError.display : PlanningError → String
  | .invalidDesiredState reason => "invalid desired state: " ++ reason
  | .invalidObservation reason => "invalid planning observation: " ++ reason
  | .observationIdentityMismatch reason =>
    "authoritative observation identity mismatch: " ++ reason
  | .observationNotCurrent freshness =>
    "planning requires current authoritative observation, got " ++ freshness.asStr
  | .invalidPlanId reason => "invalid deterministic plan id: " ++ reason

/-- `validate_planning_observation` -/
def validatePlanningObservation (observation : PlanningObservation) : Except PlanningError Unit :=
  if trimIsEmpty observation.authority then .error (.invalidObservation "authority cannot be empty")
  else if trimIsEmpty observation.evidenceId then
    .error (.invalidObservation "evidence id cannot be empty")
  else if observation.attributes.entries.isEmpty then
    .error (.invalidObservation "authoritative attributes cannot be empty")
  else .ok ()

section Planning

/- Rust's `Debug` text of a string. -/
variable (debugText : String → String)

/-- The text of a refusal, as `Display` writes it. -/
def DesiredStateValidationError.display : DesiredStateValidationError → String
  | .emptyDesiredState => "desired state must contain at least one resource"
  | .duplicateResource resource => "desired state contains duplicate resource " ++ resource.value
  | .emptyResourceState resource =>
    "desired resource " ++ resource.value ++ " must contain at least one state attribute"
  | .invalidAttributeKey resource key =>
    "desired resource " ++ resource.value ++ " contains invalid attribute key " ++ debugText key
  | .invalidAttributeValue resource key =>
    "desired resource " ++ resource.value ++ " contains an invalid value for attribute "
      ++ debugText key
  | .invalidSemanticReason resource reason =>
    "desired resource " ++ resource.value ++ " has invalid semantic provenance: " ++ reason

variable (observation : PlanningObservation)

/-- The findings that every plan starts with. -/
def baseFindings : List PlanFinding :=
  [⟨"semantic-origin", .pass, "desired state retains semantic provenance"⟩,
    ⟨"authoritative-observation", .pass, "planning is bound to current " ++ observation.authority
      ++ " evidence " ++ observation.evidenceId⟩,
    ⟨"execution-disabled", .pass,
      "v0.2 planning produces no executable effects and grants no mutation authority"⟩]

/-- The change that a desired attribute needs, if any. -/
def changeFor (entry : String × String) : Option StateChange :=
  match observation.attributes.get? entry.1 with
  | some current => if current ≠ entry.2 then some ⟨entry.1, some current, entry.2⟩ else none
  | none => some ⟨entry.1, none, entry.2⟩

/-- The blocker for a desired attribute that is not observed. -/
def findingFor (entry : String × String) : Option PlanFinding :=
  match observation.attributes.get? entry.1 with
  | some _ => none
  | none => some ⟨"attribute-not-observed", .blocker,
      "authoritative observation does not expose desired attribute " ++ debugText entry.1
        ++ "; planning fails closed"⟩

/-- The checks of `plan_resource` before it compares. -/
def checkPlannable (desired : DesiredResource) (observation : PlanningObservation) :
    Except PlanningError Unit := do
  match validateDesiredResource desired with
  | .ok () => pure ()
  | .error reason => throw (.invalidDesiredState (reason.display debugText))
  validatePlanningObservation observation
  if observation.freshness ≠ .current then throw (.observationNotCurrent observation.freshness)
  if observation.provider ≠ desired.provider then
    throw (.observationIdentityMismatch "provider differs from desired-state observation route")
  if observation.resource ≠ desired.resource then
    throw (.observationIdentityMismatch "resource differs from desired-state resource")
  if observation.observationCapability ≠ desired.observationCapability then
    throw (.observationIdentityMismatch "capability differs from desired-state observation route")

/-- `DeterministicPlanner::plan_resource`.  The loop over the desired attributes collects changes
and findings; each attribute contributes to both on its own. -/
def planResource (requestId : RequestId) (actor : Actor) (desired : DesiredResource)
    (observation : PlanningObservation) : Except PlanningError ReconciliationPlan := do
  checkPlannable debugText desired observation
  let changes := desired.state.entries.filterMap (changeFor observation)
  let findings := baseFindings observation ++
    desired.state.entries.filterMap (findingFor debugText observation)
  let blocked := findings.any fun finding => finding.level = .blocker
  match TypedId.new "plan id" requestId.value with
  | .error reason => throw (.invalidPlanId reason.display)
  | .ok id =>
    return {
      id
      requestId
      actor
      provider := desired.provider
      resource := desired.resource
      observationCapability := desired.observationCapability
      reason := desired.reason
      observedEvidenceId := observation.evidenceId
      prospectiveRisk := if changes.isEmpty then .readOnly else .systemMutation
      status := if blocked then .blocked else if changes.isEmpty then .noChange else .changeProposed
      executionAuthority := .disabled
      changes
      findings }

end Planning

/-! ### What a plan says about the observation -/

section Comparison

variable {debugText : String → String} {observation observation' : PlanningObservation}
variable {desired : DesiredResource}

/-- The attributes that change, with the values they have. -/
def currents (changes : List StateChange) : List (String × Option String) :=
  changes.map fun change => (change.key, change.current)

theorem changeFor_eq_none {entry : String × String} :
    changeFor observation entry = none ↔ observation.attributes.get? entry.1 = some entry.2 := by
  unfold changeFor
  cases seen : observation.attributes.get? entry.1 with
  | none => simp
  | some current =>
    by_cases same : current = entry.2
    · simp [same]
    · simp [same]

theorem changeFor_eq_some {entry : String × String} {change : StateChange}
    (found : changeFor observation entry = some change) :
    change.key = entry.1 ∧ change.desired = entry.2 ∧
      change.current = observation.attributes.get? entry.1 := by
  unfold changeFor at found
  cases seen : observation.attributes.get? entry.1 with
  | none =>
    rw [seen] at found
    cases found
    exact ⟨rfl, rfl, rfl⟩
  | some current =>
    rw [seen] at found
    dsimp only at found
    split at found
    · cases found
      exact ⟨rfl, rfl, rfl⟩
    · cases found

/-- A plan without a blocker was made under an observation of every desired attribute. -/
theorem observed_of_not_blocked (open_ : (baseFindings observation ++
      desired.state.entries.filterMap (findingFor debugText observation)).any
        (fun finding => finding.level = .blocker) = false) {key value : String}
    (wanted : desired.state.get? key = some value) :
    ∃ current, observation.attributes.get? key = some current := by
  cases seen : observation.attributes.get? key with
  | some current => exact ⟨current, rfl⟩
  | none =>
    have member : (key, value) ∈ desired.state.entries := BTreeMap.mem_entries_iff.mpr wanted
    have finding : findingFor debugText observation (key, value) = some ⟨"attribute-not-observed",
        .blocker, "authoritative observation does not expose desired attribute " ++ debugText key
          ++ "; planning fails closed"⟩ := by
      simp only [findingFor, seen]
    have blocked := List.any_eq_false.mp open_ _
      (List.mem_append_right _ (List.mem_filterMap.mpr ⟨_, member, finding⟩))
    simp at blocked

/-- The facts that a plan and the observation it was made under share. -/
structure PlannedUnder (requestId : RequestId) (desired : DesiredResource)
    (observation : PlanningObservation) (plan : ReconciliationPlan) : Prop where
  requestId_eq : plan.requestId = requestId
  id_value : plan.id.value = requestId.value
  provider_eq : plan.provider = desired.provider
  resource_eq : plan.resource = desired.resource
  capability_eq : plan.observationCapability = desired.observationCapability
  changes_eq : plan.changes = desired.state.entries.filterMap (changeFor observation)
  noChange : plan.status = .noChange → plan.changes = []
  changeProposed : plan.status = .changeProposed → plan.changes ≠ []
  observed : plan.status ≠ .blocked → ∀ key value, desired.state.get? key = some value →
    ∃ current, observation.attributes.get? key = some current

/-- What planning a resource returns. -/
theorem plannedUnder_of_planResource {requestId : RequestId} {actor : Actor}
    {plan : ReconciliationPlan}
    (planned : planResource debugText requestId actor desired observation = .ok plan) :
    PlannedUnder requestId desired observation plan ∧ plan.actor = actor ∧
      plan.executionAuthority = .disabled := by
  unfold planResource at planned
  obtain ⟨_, -, planned⟩ := bind_eq_ok.mp planned
  split at planned
  · cases planned
  · rename_i id built
    cases planned
    refine ⟨⟨rfl, TypedId.value_of_new built, rfl, rfl, rfl, rfl, ?_, ?_, ?_⟩, rfl, rfl⟩
    · intro status
      dsimp only at status ⊢
      split at status
      · cases status
      · split at status
        · rename_i none
          exact List.isEmpty_iff.mp none
        · cases status
    · intro status
      dsimp only at status ⊢
      split at status
      · cases status
      · split at status
        · cases status
        · rename_i some
          exact fun none => some (List.isEmpty_iff.mpr none)
    · intro status key value wanted
      dsimp only at status
      split at status
      · exact absurd rfl status
      · rename_i open_
        exact observed_of_not_blocked (Bool.not_eq_true _ ▸ open_) wanted

variable {requestId requestId' : RequestId} {plan plan' : ReconciliationPlan}

/-- Findings say nothing about the observation. -/
theorem PlannedUnder.withFindings (planned : PlannedUnder requestId desired observation plan)
    (findings : List PlanFinding) :
    PlannedUnder requestId desired observation { plan with findings } where
  requestId_eq := planned.requestId_eq
  id_value := planned.id_value
  provider_eq := planned.provider_eq
  resource_eq := planned.resource_eq
  capability_eq := planned.capability_eq
  changes_eq := planned.changes_eq
  noChange := planned.noChange
  changeProposed := planned.changeProposed
  observed := planned.observed

/-- A plan without changes was made under an observation that has every desired value. -/
theorem PlannedUnder.satisfied (planned : PlannedUnder requestId desired observation plan)
    (status : plan.status = .noChange) {key value : String}
    (wanted : desired.state.get? key = some value) :
    observation.attributes.get? key = some value := by
  have none := planned.noChange status
  rw [planned.changes_eq, List.filterMap_eq_nil_iff] at none
  exact changeFor_eq_none.mp (none _ (BTreeMap.mem_entries_iff.mpr wanted))

/-- Equal records of changes come from observations that agree on each listed attribute. -/
theorem get?_eq_of_currents_eq {entries : List (String × String)}
    (distinct : (entries.map Prod.fst).Nodup)
    (same : currents (entries.filterMap (changeFor observation)) =
      currents (entries.filterMap (changeFor observation'))) :
    ∀ entry ∈ entries, observation.attributes.get? entry.1 =
      observation'.attributes.get? entry.1 := by
  -- an attribute missing from both records has its desired value in both observations
  induction entries with
  | nil => simp
  | cons entry rest ih =>
    obtain ⟨fresh, distinct⟩ := List.nodup_cons.mp distinct
    have absent : ∀ seen : PlanningObservation, ∀ pair ∈ currents (rest.filterMap (changeFor seen)),
        pair.1 ≠ entry.1 := by
      intro seen pair member named
      obtain ⟨change, listed, rfl⟩ := List.mem_map.mp member
      obtain ⟨later, inRest, found⟩ := List.mem_filterMap.mp listed
      rw [(changeFor_eq_some found).1] at named
      exact fresh (named ▸ List.mem_map_of_mem inRest)
    have split : changeFor observation entry = none ∧ changeFor observation' entry = none ∧
          currents (rest.filterMap (changeFor observation)) =
            currents (rest.filterMap (changeFor observation')) ∨
        ∃ change change', changeFor observation entry = some change ∧
          changeFor observation' entry = some change' ∧ change.current = change'.current ∧
          currents (rest.filterMap (changeFor observation)) =
            currents (rest.filterMap (changeFor observation')) := by
      rw [List.filterMap_cons, List.filterMap_cons] at same
      cases here : changeFor observation entry with
      | none =>
        cases here' : changeFor observation' entry with
        | none =>
          rw [here, here'] at same
          exact .inl ⟨rfl, rfl, same⟩
        | some change' =>
          rw [here, here'] at same
          have member : (change'.key, change'.current) ∈
              currents (rest.filterMap (changeFor observation)) := by
            change _ = (change'.key, change'.current) :: _ at same
            rw [same]
            exact List.mem_cons_self
          exact absurd (changeFor_eq_some here').1 (absent _ _ member)
      | some change =>
        cases here' : changeFor observation' entry with
        | none =>
          rw [here, here'] at same
          have member : (change.key, change.current) ∈
              currents (rest.filterMap (changeFor observation')) := by
            change (change.key, change.current) :: _ = _ at same
            rw [← same]
            exact List.mem_cons_self
          exact absurd (changeFor_eq_some here).1 (absent _ _ member)
        | some change' =>
          rw [here, here'] at same
          change (change.key, change.current) :: _ = (change'.key, change'.current) :: _ at same
          obtain ⟨first, later⟩ := List.cons.inj same
          exact .inr ⟨change, change', rfl, rfl, (Prod.mk.inj first).2, later⟩
    intro pair member
    rcases List.mem_cons.mp member with rfl | inRest
    · rcases split with ⟨none, none', -⟩ | ⟨change, change', some, some', sameCurrent, -⟩
      · rw [changeFor_eq_none.mp none, changeFor_eq_none.mp none']
      · rw [← (changeFor_eq_some some).2.2, ← (changeFor_eq_some some').2.2, sameCurrent]
    · rcases split with ⟨-, -, later⟩ | ⟨-, -, -, -, -, later⟩
      · exact ih distinct later pair inRest
      · exact ih distinct later pair inRest

/-- Plans for one desired state with equal records of changes were made under observations that
agree on every desired attribute. -/
theorem PlannedUnder.agree (planned : PlannedUnder requestId desired observation plan)
    (planned' : PlannedUnder requestId' desired observation' plan')
    (same : currents plan.changes = currents plan'.changes) {key value : String}
    (wanted : desired.state.get? key = some value) :
    observation.attributes.get? key = observation'.attributes.get? key := by
  rw [planned.changes_eq, planned'.changes_eq] at same
  exact get?_eq_of_currents_eq desired.state.keys_nodup same (key, value)
    (BTreeMap.mem_entries_iff.mpr wanted)

end Comparison

end Linura.Planner
