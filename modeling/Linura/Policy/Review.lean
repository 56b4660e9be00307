import Linura.Core.Identifiers
import Linura.Lib.Except

/-!
# Policy reviews

The subject that a plan presents to policy, the decision on it, and the evaluation that
binds the two.  A subject is built by one checked constructor; policies differ in their
snapshot and in how they decide.
-/

namespace Linura.Policy

open Linura.Lib Linura.Core

/-- Who has to approve. -/
inductive ApprovalClass
  | interactiveUser
  | sessionOwnerAuthentication
  | administrator
  | destructiveAction
  deriving DecidableEq, Repr

inductive ReviewPlanStatus
  | noChange
  | changeProposed
  | blocked
  deriving DecidableEq, Repr

/-- The weight of a finding. -/
inductive ReviewFindingLevel
  | pass
  | warning
  | blocker
  deriving DecidableEq, Repr

/-- One attribute that a plan changes. -/
structure ReviewedChange where
  key : String
  current : Option String
  desired : String
  deriving DecidableEq, Repr

/-- One remark on a plan. -/
structure ReviewedFinding where
  code : String
  level : ReviewFindingLevel
  message : String
  deriving DecidableEq, Repr

structure PolicySnapshot where
  policyId : PolicyId
  revisionId : PolicyRevisionId
  deriving DecidableEq

/-- Why a subject was refused. -/
inductive PolicySubjectValidationError
  | invalidSemanticReason (reason : String)
  | emptyEvidenceId
  | evidenceIdTooLong
  | tooManyChanges
  | tooManyFindings
  | emptyChangeKey
  | duplicateChangeKey (key : String)
  | emptyFindingCode
  | emptyFindingMessage
  | noChangeContainsChanges
  | noChangeHasNonReadOnlyRisk
  | changeProposedWithoutChanges
  | changeProposedIsReadOnly
  | nonBlockedSubjectHasBlocker
  | blockedSubjectHasNoBlocker
  deriving DecidableEq, Repr

/-- `MAX_EVIDENCE_ID_BYTES` -/
def maxEvidenceIdBytes : Nat := 1024
/-- `MAX_REVIEW_CHANGES` -/
def maxReviewChanges : Nat := 256
/-- `MAX_REVIEW_FINDINGS` -/
def maxReviewFindings : Nat := 256

/-- What is said of a plan at the policy boundary. -/
structure SubjectMaterial where
  principal : PrincipalId
  planId : PlanId
  requestId : RequestId
  actor : Actor
  provider : ProviderId
  resource : ResourceId
  capability : CapabilityId
  reason : SemanticReason
  observedEvidenceId : String
  prospectiveRisk : RiskClass
  status : ReviewPlanStatus
  changes : List ReviewedChange
  findings : List ReviewedFinding
  deriving DecidableEq

namespace SubjectMaterial

variable (subject : SubjectMaterial)

def hasBlockers : Bool := subject.findings.any fun finding => finding.level = .blocker

/-- The keys of the changes are named, and none twice. -/
def checkChanges (seen : List String) : List ReviewedChange →
    Except PolicySubjectValidationError Unit
  | [] => .ok ()
  | change :: rest =>
    if trimIsEmpty change.key then .error .emptyChangeKey
    else if change.key ∈ seen then .error (.duplicateChangeKey change.key)
    else checkChanges (change.key :: seen) rest

/-- The findings have a code and a message. -/
def checkFindings : List ReviewedFinding → Except PolicySubjectValidationError Unit
  | [] => .ok ()
  | finding :: rest =>
    if trimIsEmpty finding.code then .error .emptyFindingCode
    else if trimIsEmpty finding.message then .error .emptyFindingMessage
    else checkFindings rest

/-- The status agrees with the changes, the risk and the findings. -/
def checkStatus : Except PolicySubjectValidationError Unit :=
  match subject.status with
  | .noChange =>
    if !subject.changes.isEmpty then .error .noChangeContainsChanges
    else if subject.prospectiveRisk ≠ .readOnly then .error .noChangeHasNonReadOnlyRisk
    else if subject.hasBlockers then .error .nonBlockedSubjectHasBlocker
    else .ok ()
  | .changeProposed =>
    if subject.changes.isEmpty then .error .changeProposedWithoutChanges
    else if subject.prospectiveRisk = .readOnly then .error .changeProposedIsReadOnly
    else if subject.hasBlockers then .error .nonBlockedSubjectHasBlocker
    else .ok ()
  | .blocked => if !subject.hasBlockers then .error .blockedSubjectHasNoBlocker else .ok ()

/-- The checks of `PolicySubject::try_new`. -/
def validate : Except PolicySubjectValidationError Unit := do
  match subject.reason.validate with
  | .error reason => throw (.invalidSemanticReason reason.display)
  | .ok () => pure ()
  if trimIsEmpty subject.observedEvidenceId then throw .emptyEvidenceId
  if maxEvidenceIdBytes < subject.observedEvidenceId.utf8ByteSize then throw .evidenceIdTooLong
  if maxReviewChanges < subject.changes.length then throw .tooManyChanges
  if maxReviewFindings < subject.findings.length then throw .tooManyFindings
  checkChanges [] subject.changes
  checkFindings subject.findings
  subject.checkStatus

end SubjectMaterial

/-- `PolicySubject`: a subject that passed its checks. -/
structure PolicySubject extends SubjectMaterial where
  valid : toSubjectMaterial.validate = .ok ()
  deriving DecidableEq

/-- `PolicySubject::try_new` -/
def PolicySubject.tryNew (material : SubjectMaterial) :
    Except PolicySubjectValidationError PolicySubject :=
  match checked : material.validate with
  | .ok () => .ok ⟨material, checked⟩
  | .error reason => .error reason

/-- The identities that an evaluation is bound to. -/
structure ReviewBinding where
  principal : PrincipalId
  planId : PlanId
  requestId : RequestId
  observedEvidenceId : String
  provider : ProviderId
  resource : ResourceId
  capability : CapabilityId
  policyId : PolicyId
  policyRevisionId : PolicyRevisionId
  deriving DecidableEq

inductive PolicyDecision
  | allow
  | deny (reason : String)
  | requireApproval (approvalClass : ApprovalClass) (reason : String)
  | blocked (reason : String)
  deriving DecidableEq, Repr

structure PolicyEvaluation where
  subject : PolicySubject
  binding : ReviewBinding
  decision : PolicyDecision
  deriving DecidableEq

/-- A policy: its snapshot, and how it decides. -/
structure PolicyEngine where
  snapshot : PolicySnapshot
  evaluateDecision : PolicySubject → PolicyDecision

def PolicyEngine.evaluate (engine : PolicyEngine) (subject : PolicySubject) : PolicyEvaluation where
  subject := subject
  binding :=
    { principal := subject.principal
      planId := subject.planId
      requestId := subject.requestId
      observedEvidenceId := subject.observedEvidenceId
      provider := subject.provider
      resource := subject.resource
      capability := subject.capability
      policyId := engine.snapshot.policyId
      policyRevisionId := engine.snapshot.revisionId }
  decision := engine.evaluateDecision subject

/-- `BaselinePolicy` -/
def baselinePolicy : PolicyEngine where
  snapshot := ⟨⟨"policy:baseline", by decide⟩, ⟨"policy:baseline:v1", by decide⟩⟩
  evaluateDecision subject :=
    if subject.status = .blocked ∨ subject.hasBlockers then
      .blocked "plan contains blockers and cannot enter approval review"
    else if subject.actor.kind = .remote then
      .deny "remote actors are disabled in the initial profile"
    else
      let agentProposal := subject.actor.kind = .agent
      match subject.prospectiveRisk with
      | .readOnly | .userState => .allow
      | .systemMutation => .requireApproval .interactiveUser
          (if agentProposal then "agent-proposed system mutation requires interactive approval"
          else "system mutation requires interactive approval")
      | .securitySensitive => .requireApproval .administrator
          (if agentProposal then
            "agent-proposed security-sensitive mutation requires administrator approval"
          else "security-sensitive mutation requires administrator approval")
      | .destructive => .requireApproval .destructiveAction
          (if agentProposal then
            "agent-proposed destructive mutation requires dedicated destructive approval"
          else "destructive mutation requires dedicated approval")

end Linura.Policy
