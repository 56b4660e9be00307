import Linura.Control.ApprovalReview
import Linura.Lib.Split
import Linura.Planner.Plan
import Linura.Policy.SessionPolicies
import Linura.Transaction.Binding

/-!
# Risk classification and policy review of plans

Control classifies the risk of a plan by rules of its own, turns the plan into a policy
subject, and has the policy for its provider decide on it.

Whatever a registered operation's floor, classification does not go below it, so that the
baseline policy never lets a security-sensitive plan through without an approval.
-/

namespace Linura.Control

open Linura.Lib Linura.Core Linura.Planner Linura.Policy Linura.Transaction

/-! ### Principals -/

/-- A bounded printable text that is not blank. -/
def isPrincipal (value : String) : Bool :=
  !trimIsEmpty value && value.utf8ByteSize ≤ 256 && !hasControl value

structure AuthenticatedPrincipal where
  value : String
  valid : isPrincipal value = true
  deriving DecidableEq

/-- `AuthenticatedPrincipal::new`, with the text of its error. -/
def AuthenticatedPrincipal.new (value : String) : Except String AuthenticatedPrincipal :=
  if valid : isPrincipal value then .ok ⟨value, valid⟩
  else .error ("invalid authenticated principal: authenticated principal "
    ++ (if trimIsEmpty value then "cannot be empty"
      else if 256 < value.utf8ByteSize then "exceeds 256 UTF-8 bytes"
      else "contains control characters"))

/-! ### Risk rules -/

/-- The place of a risk class in their order. -/
def riskRank : RiskClass → Nat
  | .readOnly => 0
  | .userState => 1
  | .systemMutation => 2
  | .securitySensitive => 3
  | .destructive => 4

/-- The greater of two risk classes. -/
def riskMax (risk other : RiskClass) : RiskClass :=
  if riskRank risk ≤ riskRank other then other else risk

theorem le_riskMax_left (risk other : RiskClass) : riskRank risk ≤ riskRank
    (riskMax risk other) := by
  unfold riskMax
  split <;> omega

theorem le_riskMax_right (risk other : RiskClass) :
    riskRank other ≤ riskRank (riskMax risk other) := by
  unfold riskMax
  split <;> omega

structure RiskRule where
  id : String
  provider : String
  capability : String
  resourceLead : String
  changeKeys : List String
  risk : RiskClass
  deriving DecidableEq

/-- `RiskRule::matches_material_keys` -/
def RiskRule.matchesMaterialKeys (rule : RiskRule) (plan : ReconciliationPlan)
    (keys : List String) :
    Bool :=
  plan.provider.value = rule.provider && plan.observationCapability.value = rule.capability
    && startsWith plan.resource.value rule.resourceLead && !keys.isEmpty
    && keys.all fun key => rule.changeKeys.contains key

inductive RiskClassification
  | notApplicable (risk : RiskClass)
  | classified (risk : RiskClass) (revision : String) (ruleIds : List String)
  | unclassified (revision reason : String)
  | downgradeRejected (revision : String) (floor classified : RiskClass) (ruleIds : List String)
  deriving DecidableEq

structure RiskPolicy where
  revision : String
  rules : List RiskRule

/-- `REGISTERED_OPERATION_RISK_POLICY_REVISION` -/
def registeredOperationRiskPolicyRevision : String := "risk-policy:v0.10:registered-operation-floor"
/-- `REGISTERED_TRANSIENT_RISK_POLICY_REVISION` -/
def registeredTransientRiskPolicyRevision : String :=
  "risk-policy:v0.10:registered-transient-refinement"

def RiskPolicy.baseline : RiskPolicy where
  revision := "risk-policy:v0.3:1"
  rules :=
    [{ id := "systemd.unit.active-state.security-sensitive"
       provider := "systemd"
       capability := "systemd.unit.observe"
       resourceLead := "systemd:unit:"
       changeKeys := ["active_state"]
       risk := .securitySensitive },
     { id := "audio.session.output-state.user-state"
       provider := "pipewire"
       capability := "audio.session.observe"
       resourceLead := "audio:session:"
       changeKeys := ["muted", "volume_percent"]
       risk := .userState }]

def managedSessionTransitionProvider : String := "logind"
/-- `MANAGED_SESSION_TRANSITION_CAPABILITY` -/
def managedSessionTransitionCapability : String := "session.transition.observe"
/-- `MANAGED_SESSION_LOCK_PROVIDER` -/
def managedSessionLockProvider : String := "session-locker"

/-- An entry of `SESSION_TRANSITION_ROUTES`. -/
structure TransitionRoute where
  action : String
  operation : String
  resourceLead : String
  rule : String
  risk : RiskClass

/-- `SESSION_TRANSITION_ROUTES` -/
def sessionTransitionRoutes : List TransitionRoute :=
  [⟨"suspend", "operation:session.suspend", "session:transition:suspend:",
      "operation-registry.managed-session-suspend.risk-floor", .securitySensitive⟩,
    ⟨"logout", "operation:session.logout", "session:transition:logout:",
      "operation-registry.managed-session-logout.risk-floor", .destructive⟩,
    ⟨"reboot", "operation:session.reboot", "session:transition:reboot:",
      "operation-registry.managed-session-reboot.risk-floor", .destructive⟩,
    ⟨"power-off", "operation:session.power-off", "session:transition:power-off:",
      "operation-registry.managed-session-power-off.risk-floor", .destructive⟩]

/-- Rule identifiers in order, each once. -/
def sortedRuleIds (ids : List String) : List String :=
  (ids.insertionSort (· ≤ ·)).destutter (· ≠ ·)

section Review

/- Rust's `Debug` text of a string. -/
variable (debugText : String → String)

/-- `classify_with_registered_transient_refinement`, for a plan or for a requested state. -/
def RiskPolicy.classify (policy : RiskPolicy) (plan : ReconciliationPlan) (allowRefinement : Bool)
    (requestedState : Option (BTreeMap String String)) : RiskClassification :=
  if plan.status ≠ .changeProposed ∨ plan.changes = [] then .notApplicable plan.prospectiveRisk
  else
    let changeKeys := plan.changes.map (·.key)
    let materialKeys := requestedState.elim changeKeys (·.keys)
    if materialKeys = [] then
      .unclassified policy.revision "registered transient requested state is empty"
    else
      let matched := (policy.rules.filter fun rule =>
        rule.matchesMaterialKeys plan (if allowRefinement then materialKeys else changeKeys))
          |>.insertionSort fun rule other => rule.id ≤ other.id
      match matched with
      | [] => .unclassified policy.revision ("no trusted risk rule covers provider="
          ++ plan.provider.value ++ " resource=" ++ plan.resource.value ++ " capability="
          ++ plan.observationCapability.value ++ " material_keys=["
          ++ ", ".intercalate (materialKeys.map debugText) ++ "]")
      | first :: rest =>
        let classified := rest.foldl (fun risk rule => riskMax risk rule.risk) first.risk
        let ruleIds := matched.map (·.id)
        let below := riskRank classified < riskRank plan.prospectiveRisk
        if below ∧ !allowRefinement then
          .downgradeRejected policy.revision plan.prospectiveRisk classified ruleIds
        else
          .classified classified
            (if below then registeredTransientRiskPolicyRevision else policy.revision) ruleIds

variable (plan : ReconciliationPlan)

/-- The policy that `classify_plan_risk` chooses for a plan. -/
def riskPolicyFor : RiskPolicy :=
  if plan.provider.value = managedSessionTransitionProvider ∧
      plan.observationCapability.value = managedSessionTransitionCapability then
    { revision := "risk-policy:v0.10:session-transition:1"
      rules := sessionTransitionRoutes.map fun route =>
        { id := route.rule
          provider := "logind"
          capability := "session.transition.observe"
          resourceLead := route.resourceLead
          changeKeys := ["completed"]
          risk := route.risk } }
  else if plan.provider.value = managedSessionLockProvider then
    { revision := "risk-policy:v0.10:session-lock:1"
      rules :=
        [{ id := "session.native-lock.security-sensitive"
           provider := "session-locker"
           capability := "session.secure-lock.observe"
           resourceLead := "session:lock:"
           changeKeys := ["secure"]
           risk := .securitySensitive }] }
  else .baseline

/-- `classify_plan_risk` -/
def classifyPlanRisk : RiskClassification :=
  (riskPolicyFor plan).classify debugText plan false none

/-- `classify_plan_risk_with_floor` -/
def classifyPlanRiskWithFloor (floor : RiskClass) (floorRuleId : String) : RiskClassification :=
  match classifyPlanRisk debugText plan with
  | .classified risk _ ruleIds =>
    .classified (riskMax risk floor) registeredOperationRiskPolicyRevision
      (sortedRuleIds (ruleIds ++ [floorRuleId]))
  | .notApplicable risk => .notApplicable (riskMax risk floor)
  | other => other

/-! ### Policy subjects -/

inductive PolicySubjectError
  | invalidPrincipal (reason : String)
  | invalidSubject (reason : String)
  deriving DecidableEq, Repr

/-- The `Debug` text of a subject error. -/
def PolicySubjectError.debug : PolicySubjectError → String
  | .invalidPrincipal reason => "InvalidPrincipal(" ++ debugText reason ++ ")"
  | .invalidSubject reason => "InvalidSubject(" ++ debugText reason ++ ")"

/-- The text of a subject that was refused, as `Display` writes it. -/
def subjectErrorText : PolicySubjectValidationError → String
  | .invalidSemanticReason reason => "invalid semantic reason: " ++ reason
  | .emptyEvidenceId => "policy subject evidence id cannot be empty"
  | .evidenceIdTooLong => "policy subject evidence id exceeds 1024 UTF-8 bytes"
  | .tooManyChanges => "policy subject exceeds the 256-change review bound"
  | .tooManyFindings => "policy subject exceeds the 256-finding review bound"
  | .emptyChangeKey => "policy subject change key cannot be empty"
  | .duplicateChangeKey key => "policy subject contains duplicate change key " ++ debugText key
  | .emptyFindingCode => "policy subject finding code cannot be empty"
  | .emptyFindingMessage => "policy subject finding message cannot be empty"
  | .noChangeContainsChanges => "no-change policy subject cannot contain planned changes"
  | .noChangeHasNonReadOnlyRisk =>
    "no-change policy subject must carry read-only prospective risk"
  | .changeProposedWithoutChanges =>
    "change-proposed policy subject must contain a planned change"
  | .changeProposedIsReadOnly => "change-proposed policy subject cannot carry read-only risk"
  | .nonBlockedSubjectHasBlocker =>
    "non-blocked policy subject cannot contain blocker findings"
  | .blockedSubjectHasNoBlocker =>
    "blocked policy subject must contain at least one blocker finding"

/-- `map_status` -/
def mapStatus : PlanStatus → ReviewPlanStatus
  | .noChange => .noChange
  | .changeProposed => .changeProposed
  | .blocked => .blocked

/-- `map_finding_level` -/
def mapFindingLevel : PlanFindingLevel → ReviewFindingLevel
  | .pass => .pass
  | .warning => .warning
  | .blocker => .blocker

/-- The risk, the status and the finding that a classification gives a subject. -/
def classificationResult : RiskClassification → RiskClass × ReviewPlanStatus × List ReviewedFinding
  | .notApplicable risk => (risk, mapStatus plan.status, [])
  | .classified risk revision ruleIds =>
    (risk, mapStatus plan.status, [⟨"authority-risk-classified", .pass, "trusted risk policy "
      ++ revision ++ " classified the canonical plan as " ++ riskName risk ++ " using rules "
      ++ ",".intercalate ruleIds⟩])
  | .unclassified revision reason =>
    (plan.prospectiveRisk, .blocked, [⟨"authority-risk-unclassified", .blocker,
      "trusted risk policy " ++ revision ++ " cannot classify this mutation safely: " ++ reason⟩])
  | .downgradeRejected revision floor classified ruleIds =>
    (plan.prospectiveRisk, .blocked, [⟨"authority-risk-downgrade-rejected", .blocker,
      "trusted risk policy " ++ revision
        ++ " attempted to classify below the planner floor: floor=" ++ riskName floor
        ++ " classified=" ++ riskName classified ++ " rules=" ++ ",".intercalate ruleIds⟩])

variable (principal : AuthenticatedPrincipal)

/-- `policy_subject_from_plan_with_classification` -/
def policySubjectFromPlan (plan : ReconciliationPlan) (classification : RiskClassification) :
    Except PolicySubjectError PolicySubject :=
  match TypedId.new "principal id" principal.value with
  | .error reason => .error (.invalidPrincipal reason.display)
  | .ok principal =>
    let (risk, status, more) := classificationResult plan classification
    match PolicySubject.tryNew
      { principal := principal
        planId := plan.id
        requestId := plan.requestId
        actor := plan.actor
        provider := plan.provider
        resource := plan.resource
        capability := plan.observationCapability
        reason := plan.reason
        observedEvidenceId := plan.observedEvidenceId
        prospectiveRisk := risk
        status := status
        changes := plan.changes.map fun change => ⟨change.key, change.current, change.desired⟩
        findings := (plan.findings.map fun finding =>
          ⟨finding.code, mapFindingLevel finding.level, finding.message⟩) ++ more } with
    | .error reason => .error (.invalidSubject (subjectErrorText debugText reason))
    | .ok subject => .ok subject

/-- `review_subject_for_control` -/
def reviewSubjectForControl (subject : PolicySubject) : TrustedPolicyReview where
  evaluation :=
    if subject.provider.value = "session-locker" then sessionLockPolicy.evaluate subject
    else baselinePolicy.evaluate subject

/-- `review_plan_with_classification` -/
def reviewPlanWithClassification (plan : ReconciliationPlan) (classification : RiskClassification) :
    Except PolicySubjectError TrustedPolicyReview :=
  (policySubjectFromPlan debugText principal plan classification).map reviewSubjectForControl

structure ProtectiveLockContext where
  setting : ProtectiveLockSetting
  event : SleepInvocationId
  lock : SessionLockId
  deriving DecidableEq

/-- `review_protective_plan` -/
def reviewProtectivePlan (plan : ReconciliationPlan) (classification : RiskClassification)
    (context : ProtectiveLockContext) : Except PolicySubjectError TrustedPolicyReview :=
  (policySubjectFromPlan debugText principal plan classification).map fun subject =>
    ⟨(protectiveLockPolicy context.setting context.event context.lock).evaluate subject⟩

end Review

/-! ### What a review is about -/

section Facts

variable {debugText : String → String} {principal : AuthenticatedPrincipal}
    {plan : ReconciliationPlan}
variable {classification : RiskClassification} {subject : PolicySubject}

theorem PolicySubject.toSubjectMaterial_of_tryNew {material : SubjectMaterial}
    (built : PolicySubject.tryNew material = .ok subject) :
      subject.toSubjectMaterial = material := by
  unfold PolicySubject.tryNew at built
  split at built
  · cases built
    rfl
  · cases built

/-- What the subject of a plan has from the plan. -/
structure SubjectOf (principal : AuthenticatedPrincipal) (plan : ReconciliationPlan)
    (classification : RiskClassification) (subject : PolicySubject) : Prop where
  principal_value : subject.principal.value = principal.value
  planId_eq : subject.planId = plan.id
  requestId_eq : subject.requestId = plan.requestId
  actor_eq : subject.actor = plan.actor
  provider_eq : subject.provider = plan.provider
  resource_eq : subject.resource = plan.resource
  capability_eq : subject.capability = plan.observationCapability
  changes_eq : subject.changes =
    plan.changes.map fun change => ⟨change.key, change.current, change.desired⟩
  risk_eq : subject.prospectiveRisk = (classificationResult plan classification).1
  status_eq : subject.status = (classificationResult plan classification).2.1

theorem subjectOf_of_policySubjectFromPlan
    (derived : policySubjectFromPlan debugText principal plan classification = .ok subject) :
    SubjectOf principal plan classification subject := by
  unfold policySubjectFromPlan at derived
  split at derived
  · cases derived
  · rename_i id built
    dsimp only at derived
    split at derived
    · cases derived
    · rename_i subject' accepted
      cases derived
      have material := PolicySubject.toSubjectMaterial_of_tryNew accepted
      exact ⟨(congrArg (·.principal.value) material).trans (TypedId.value_of_new built),
        congrArg (·.planId) material, congrArg (·.requestId) material, congrArg (·.actor) material,
        congrArg (·.provider) material, congrArg (·.resource) material,
        congrArg (·.capability) material,
        congrArg (·.changes) material, congrArg (·.prospectiveRisk) material,
        congrArg (·.status) material⟩

/-- The baseline policy allows no mutation of the system. -/
theorem baselinePolicy_ne_allow
    (risky : riskRank .systemMutation ≤ riskRank subject.prospectiveRisk) :
    baselinePolicy.evaluateDecision subject ≠ .allow := by
  unfold baselinePolicy
  dsimp only
  cases risk : subject.prospectiveRisk with
  | readOnly | userState => simp [risk, riskRank] at risky
  | systemMutation => split_ifs <;> simp
  | securitySensitive => split_ifs <;> simp
  | destructive => split_ifs <;> simp

/-- A classification under a floor is at least the floor. -/
theorem floor_le_classified {floor risk : RiskClass} {ruleId revision : String}
    {ruleIds : List String}
    (classified : classifyPlanRiskWithFloor debugText plan floor ruleId =
      .classified risk revision ruleIds) : riskRank floor ≤ riskRank risk := by
  unfold classifyPlanRiskWithFloor at classified
  split at classified
  · cases classified
    exact le_riskMax_right _ _
  · cases classified
  · rename_i other notClassified notApplicable
    exact absurd classified (notClassified risk revision ruleIds)

end Facts

end Linura.Control
