import Linura.Control.PlanPreview

/-!
# Durable authority

`DurableAuthorityControl` turns a request into a candidate that it planned and reviewed
itself, binds the candidate into the transaction store, hands a prepared transaction to an
executor at most once, and settles a transaction whose outcome is unknown by observing anew.

Authority is revalidated whenever it is used: the observation must still count, the review
must come out the same, and an approval it needs must still be satisfied.
-/

namespace Linura.Control

open Linura.Lib Linura.Core Linura.Observation Linura.Persistence Linura.Planner Linura.Policy
open Linura.Transaction

/-! ### Candidates -/

structure RiskProvenance where
  risk : RiskClass
  revision : String
  ruleIds : List String
  deriving DecidableEq

structure TrustedRiskFloor where
  risk : RiskClass
  ruleId : String
  deriving DecidableEq

structure DurableAuthorityCandidate where
  principal : AuthenticatedPrincipal
  plan : ReconciliationPlan
  observation : ObservationEnvelope
  review : TrustedPolicyReview
  risk : RiskProvenance
  riskFloor : Option TrustedRiskFloor
  requestDigest : ContentDigest
  preconditionDigest : ContentDigest
  observationDigest : ContentDigest
  reviewDigest : ContentDigest
  protective : Option ProtectiveLockContext

structure PreparedDurableAuthority (sha256 : Sha256) where
  candidate : DurableAuthorityCandidate
  binding : AuthorityBinding sha256
  snapshot : TransactionSnapshot
  approvalEvidenceId : Option ApprovalEvidenceId
  handedOff : Bool

structure VerifiedDurableAuthority where
  snapshot : TransactionSnapshot
  principal : PrincipalId
  desiredStateDigest : ContentDigest
  graphDigest : ContentDigest
  provenanceDigest : ContentDigest

inductive DurableRecoveryOutcome (sha256 : Sha256)
  | verified (authority : VerifiedDurableAuthority)
  | reprepared (prepared : PreparedDurableAuthority sha256)
  | blocked (snapshot : TransactionSnapshot)
  | stillIndeterminate (snapshot : TransactionSnapshot)

structure FreshRecoveryApproval where
  requestId : ApprovalRequestId
  approver : PolicyAuthenticatedApprover
  expiresAtUnixSeconds : Nat

inductive RecoveryApproval
  | existing (evidenceId : Option ApprovalEvidenceId)
  | onDemand (approval : FreshRecoveryApproval)
  | observeOnly

def RecoveryApproval.isObserveOnly : RecoveryApproval → Bool
  | .observeOnly => true
  | .existing _ | .onDemand _ => false

section Reviews

variable (debugText : String → String)

/-- `classify_candidate_risk` -/
def classifyCandidateRisk (plan : ReconciliationPlan) (floor : Option TrustedRiskFloor) :
    RiskClassification :=
  floor.elim (classifyPlanRisk debugText plan) fun floor =>
    classifyPlanRiskWithFloor debugText plan floor.risk floor.ruleId

/-- `risk_provenance` -/
def riskProvenance : RiskClassification → Except DurableAuthorityError RiskProvenance
  | .classified risk revision ruleIds => .ok ⟨risk, revision, ruleIds⟩
  | .notApplicable _ | .unclassified _ _ | .downgradeRejected _ _ _ _ => .error .riskNotClassified

/-- The trusted review of a plan with its risk, as candidates are made and rechecked. -/
def reviewCandidate (principal : AuthenticatedPrincipal) (plan : ReconciliationPlan)
    (floor : Option TrustedRiskFloor) (protective : Option ProtectiveLockContext) :
    Except DurableAuthorityError (RiskProvenance × TrustedPolicyReview) := do
  let classification := classifyCandidateRisk debugText plan floor
  let risk ← riskProvenance classification
  let reviewed := match protective with
    | some context => reviewProtectivePlan debugText principal plan classification context
    | none => reviewPlanWithClassification debugText principal plan classification
  let review ← reviewed.mapError fun error => DurableAuthorityError.preview (error.debug debugText)
  if review.evaluation.subject.prospectiveRisk ≠ risk.risk then throw .authorityChanged
  return (risk, review)

/-- A review that neither denies nor blocks a change. -/
def reviewIsOpen (review : TrustedPolicyReview) : Bool :=
  (match review.evaluation.decision with
    | .deny _ | .blocked _ => false
    | .allow | .requireApproval _ _ => true)
    && review.evaluation.subject.status = .changeProposed
    && !review.evaluation.subject.hasBlockers

end Reviews

/-- A candidate of a plan that was reviewed, with its digests. -/
def sealCandidate (sha256 : Sha256) (principal : AuthenticatedPrincipal) (plan : ReconciliationPlan)
    (observation : ObservationEnvelope) (review : TrustedPolicyReview) (risk : RiskProvenance)
    (riskFloor : Option TrustedRiskFloor) (requestDigest : ContentDigest)
    (protective : Option ProtectiveLockContext) :
    Except DurableAuthorityError DurableAuthorityCandidate := do
  let preconditionDigest ← digestPlanPrecondition sha256 plan
  let observationDigest ← digestObservation sha256 observation
  let reviewDigest ← digestReview sha256 review
  return ⟨principal, plan, observation, review, risk, riskFloor, requestDigest, preconditionDigest,
    observationDigest, reviewDigest, protective⟩

/-- The checks that make a plan with its review a candidate. -/
def candidateOfPlan (sha256 : Sha256) (debugText : String → String)
    (principal : AuthenticatedPrincipal) (plan : ReconciliationPlan)
    (observation : ObservationEnvelope) (floor : Option TrustedRiskFloor)
    (requestDigest : ContentDigest) (protective : Option ProtectiveLockContext) :
    Except DurableAuthorityError DurableAuthorityCandidate := do
  if plan.status ≠ .changeProposed ∨ plan.changes = [] ∨ plan.executionAuthorized then
    throw .candidateNotMutation
  let (risk, review) ← reviewCandidate debugText principal plan floor protective
  if !reviewIsOpen review then throw .candidateBlocked
  sealCandidate sha256 principal plan observation review risk floor requestDigest protective

/-! ### Expiry -/

/-- `observation_expires_at_unix_ms` -/
def observationExpiresAtUnixMs (observation : ObservationEnvelope) :
    Except DurableAuthorityError Nat :=
  (checkedAdd observation.observedAtUnixMs observation.validForMs).elim
    (.error .clockUnavailable) .ok

/-- `exclusive_seconds_to_last_valid_unix_ms` -/
def exclusiveSecondsToLastValidUnixMs (seconds : Nat) : Except DurableAuthorityError Nat :=
  ((checkedMul seconds 1000).bind (checkedSub · 1)).elim (.error .clockUnavailable) .ok

/-- `authority_expires_at_unix_ms` -/
def authorityExpiresAtUnixMs (observation : ObservationEnvelope)
    (authorization : AuthorizationBasis) :
    Except DurableAuthorityError Nat := do
  let observationExpiry ← observationExpiresAtUnixMs observation
  match authorization with
  | .policyAllow => return observationExpiry
  | .approval approval =>
    return min observationExpiry (← exclusiveSecondsToLastValidUnixMs approval.expiresAtUnixSeconds)

section Authority

variable {sha256 : Sha256} (env : Environment sha256)

/-- A program that may fail as durable authority does. -/
abbrev AuthorityProgram (sha256 : Sha256) := Program (World sha256) DurableAuthorityError

/-- A call of the transaction store, with the text of its error. -/
def transactions {α : Type} (call : LedgerProgram sha256 α) : AuthorityProgram sha256 α :=
  (onLedger call).mapError fun error => .transaction (storeErrorText error)

/-- A computation of the authority signer or of a binding. -/
def signed {α : Type} (result : Except TransactionValidationError α) : AuthorityProgram sha256 α :=
  .lift (result.mapError fun error => .transaction error.display)

/-- An observation that is checked, with the text of its error. -/
def checked {α : Type} (result : Except ObservationValidationError α) : AuthorityProgram sha256 α :=
  .lift (result.mapError fun error => .preview error.display)

/-- `authority_now_unix_ms` -/
def authorityNowUnixMs : AuthorityProgram sha256 Nat := do
  let sampled ← readMillis env .clockUnavailable .clockUnavailable
  .query fun world : World sha256 =>
    if sampled < world.lastAuthorityUnixMs then .error .clockRollback else .ok ()
  .modify fun world =>
    World.log (.authorityTime sampled) { world with lastAuthorityUnixMs := sampled }
  return sampled

variable (principal : AuthenticatedPrincipal)

/-- `candidate_inner` -/
def candidateInner (actor : Actor) (request : PlanDesiredStateRequest)
    (floor : Option TrustedRiskFloor) (protective : Option ProtectiveLockContext) :
    AuthorityProgram sha256 DurableAuthorityCandidate := do
  let requestDigest ← .lift (digestRequest sha256 request)
  let preview := match protective with
    | some context => previewProtectiveCandidate env principal actor request context
    | none => previewAuthorityCandidate env principal actor request
  let (plan, observation) ← preview.mapError fun error => .preview error.display
  .lift (candidateOfPlan sha256 env.debug.text principal plan observation floor requestDigest
    protective)

/-- `protective_candidate` -/
def protectiveCandidate (actor : Actor) (context : ProtectiveLockContext)
    (floor : TrustedRiskFloor) :
    AuthorityProgram sha256 DurableAuthorityCandidate := do
  let request ← .lift (context.request.mapError .preview)
  candidateInner env principal actor request (some floor) (some context)

/-! ### Approvals -/

/-- `issue_approval`.  Evidence that the registry did not hold before is recorded as issued. -/
def issueApproval (requestId : ApprovalRequestId) (candidate : DurableAuthorityCandidate)
    (approver : PolicyAuthenticatedApprover) (expiresAtUnixSeconds : Nat) :
    AuthorityProgram sha256 PolicyApprovalEvidence := do
  let sample ← readClock env
  let before ← .query fun world : World sha256 => .ok world.approvals
  let (result, approvals) :=
    before.issue (sample.map (· / 1000)) requestId candidate.review approver
    expiresAtUnixSeconds
  .modify fun world => { world with approvals }
  match result with
  | .error reason => .fail (.approval (env.debug.approvalControlError reason))
  | .ok evidence => do
    if before.records.containsKey evidence.id then return evidence
    else
      .modify (World.log (.issued evidence))
      return evidence

/-- `revoke_approval` -/
def revokeApproval (evidenceId : ApprovalEvidenceId) (revoker : PolicyAuthenticatedApprover) :
    AuthorityProgram sha256 Unit := do
  let sample ← readClock env
  let result ← .query fun world : World sha256 =>
    .ok (world.approvals.revoke (sample.map (· / 1000)) evidenceId revoker)
  .modify fun world => { world with approvals := result.2 }
  .lift (result.1.mapError fun reason => .approval (env.debug.approvalControlError reason))

/-- `ApprovalReviewControl::validate`, with the record it judged. -/
def validateApprovalNow (evidenceId : ApprovalEvidenceId) (review : TrustedPolicyReview) :
    AuthorityProgram sha256 (ApprovalValidation × Option ApprovalRecord) := do
  let sample ← readClock env
  let before ← .query fun world : World sha256 => .ok world.approvals
  let (verdict, approvals) := before.validate (sample.map (· / 1000)) evidenceId review
  let record := before.records.get? evidenceId
  .modify fun world =>
    World.log (.validated evidenceId review record (sample.map (· / 1000)) verdict)
    { world with approvals }
  match verdict with
  | .error reason => .fail (.approval (env.debug.approvalControlError reason))
  | .ok validation => return (validation, record)

/-- What authorises a reviewed change, as `revalidate_and_bind` finds it. -/
def authorizationFor (review : TrustedPolicyReview) (evidenceId : Option ApprovalEvidenceId) :
    AuthorityProgram sha256 AuthorizationBasis :=
  match review.evaluation.decision, evidenceId with
  | .allow, some _ => .fail .unexpectedApproval
  | .allow, none => pure .policyAllow
  | .requireApproval _ _, none => .fail .missingApproval
  | .requireApproval approvalClass _, some evidenceId => do
    let (validation, record) ← validateApprovalNow env evidenceId review
    .require (validation = .satisfied) (.approvalUnsatisfied validation)
    match record with
    | none => .fail .missingApproval
    | some record =>
      let evidence := record.evidence
      let authority ← signed (ApprovalAuthority.tryNew evidence.id evidence.requestId
        evidence.approver (approvalClassName approvalClass) evidence.issuedAtUnixSeconds
        evidence.expiresAtUnixSeconds)
      return .approval authority
  | .deny _, _ => .fail .candidateBlocked
  | .blocked _, _ => .fail .candidateBlocked

/-- `ProtectiveLockContext::require_current` -/
def requireCurrentSetting (context : ProtectiveLockContext) : AuthorityProgram sha256 Unit := do
  match ← currentSetting env context.setting.owner context.setting.epoch with
  | .error reason => .fail (.preview reason)
  | .ok current =>
    .require (current = some context.setting ∧ context.setting.enabled = true)
      (DurableAuthorityError.preview "protective-lock consent was revoked or superseded")

variable (candidate : DurableAuthorityCandidate)

/-- The part of `revalidate_and_bind` that computes on the candidate alone. -/
def recheckCandidate (nowUnixMs : Nat) : Except DurableAuthorityError Unit := do
  let plan := candidate.plan
  (candidate.observation.requireCurrent nowUnixMs).mapError fun error => .preview error.display
  (candidate.observation.validate plan.provider plan.resource plan.observationCapability).mapError
    fun error => .preview error.display
  if (← digestObservation sha256 candidate.observation) ≠ candidate.observationDigest then
    throw .authorityChanged
  let classification := classifyCandidateRisk env.debug.text plan candidate.riskFloor
  if (← riskProvenance classification) ≠ candidate.risk then throw .authorityChanged
  let (_, review) ← reviewCandidate env.debug.text candidate.principal plan candidate.riskFloor
    candidate.protective
  if (← digestReview sha256 review) ≠ candidate.reviewDigest ∨ review ≠ candidate.review then
    throw .authorityChanged

/-- What a candidate is bound to under an authorisation. -/
def candidateArguments (principal : PrincipalId) (authorization : AuthorizationBasis) :
    BindingArguments :=
  let subject := candidate.review.evaluation.subject
  let binding := candidate.review.evaluation.binding
  { principal
    requestId := subject.requestId
    planId := subject.planId
    requestDigest := candidate.requestDigest
    preconditionDigest := candidate.preconditionDigest
    observationDigest := candidate.observationDigest
    provider := subject.provider
    resource := subject.resource
    capability := subject.capability
    policyId := binding.policyId
    policyRevisionId := binding.policyRevisionId
    trustedRisk := candidate.risk.risk
    riskPolicyRevision := candidate.risk.revision
    riskRuleIds := candidate.risk.ruleIds
    reviewDigest := candidate.reviewDigest
    authorization }

def bindCandidate (authorization : AuthorizationBasis) :
    AuthorityProgram sha256 (AuthorityBinding sha256) := do
  let principal ← .lift ((typedId "principal id" candidate.principal.value).mapError .preview)
  signed (AuthorityBinding.tryNew sha256 (candidateArguments candidate principal authorization))

/-- The settings are consulted for a protective candidate, and for no other. -/
def requireProtective (protective : Option ProtectiveLockContext) (settings : Bool) :
    AuthorityProgram sha256 Unit :=
  match protective, settings with
  | some context, true => requireCurrentSetting env context
  | none, false => pure ()
  | _, _ => .fail .authorityChanged

/-- `revalidate_and_bind` -/
def revalidateAndBind (evidenceId : Option ApprovalEvidenceId) (nowUnixMs : Nat) (settings : Bool) :
    AuthorityProgram sha256 (AuthorityBinding sha256) := do
  requireProtective env candidate.protective settings
  .lift (recheckCandidate env candidate nowUnixMs)
  let authorization ← authorizationFor env candidate.review evidenceId
  bindCandidate candidate authorization

/-! ### Preparing and handing off -/

def preparedSnapshot : PrepareOutcome → TransactionSnapshot
  | .created snapshot | .existing snapshot => snapshot

/-- `prepare_inner` -/
def prepareInner (evidenceId : Option ApprovalEvidenceId) (settings : Bool) :
    AuthorityProgram sha256 (PreparedDurableAuthority sha256) := do
  let now ← authorityNowUnixMs env
  let binding ← revalidateAndBind env candidate evidenceId now settings
  let outcome ← transactions (LedgerStore.prepare binding)
  let snapshot := preparedSnapshot outcome
  .require (snapshot.bindingDigest = binding.digest ∧ snapshot.principal = binding.principal
    ∧ snapshot.requestId = binding.requestId) .authorityChanged
  return ⟨candidate, binding, snapshot, evidenceId, false⟩

/-- `review_findings_unchanged` -/
def reviewFindingsUnchanged (left right : PolicySubject) : Bool :=
  left.findings.length = right.findings.length &&
    (left.findings.zip right.findings).all fun (leftFinding, rightFinding) =>
      leftFinding.code = rightFinding.code && leftFinding.level = rightFinding.level &&
        if leftFinding.code = "authoritative-observation" then
          replaceText leftFinding.message left.observedEvidenceId "<observation-evidence>" =
            replaceText rightFinding.message right.observedEvidenceId "<observation-evidence>"
        else leftFinding.message = rightFinding.message

/-- `review_semantics_unchanged` -/
def reviewSemanticsUnchanged (left right : TrustedPolicyReview) : Bool :=
  let leftSubject := left.evaluation.subject
  let rightSubject := right.evaluation.subject
  let leftBinding := left.evaluation.binding
  let rightBinding := right.evaluation.binding
  leftSubject.principal = rightSubject.principal && leftSubject.planId = rightSubject.planId
    && leftSubject.requestId = rightSubject.requestId && leftSubject.actor = rightSubject.actor
    && leftSubject.provider = rightSubject.provider && leftSubject.resource = rightSubject.resource
    && leftSubject.capability = rightSubject.capability && leftSubject.reason = rightSubject.reason
    && leftSubject.prospectiveRisk = rightSubject.prospectiveRisk
    && leftSubject.status = rightSubject.status && leftSubject.changes = rightSubject.changes
    && reviewFindingsUnchanged leftSubject rightSubject
    && leftBinding.principal = rightBinding.principal && leftBinding.planId = rightBinding.planId
    && leftBinding.requestId = rightBinding.requestId
    && leftBinding.provider = rightBinding.provider && leftBinding.resource = rightBinding.resource
    && leftBinding.capability = rightBinding.capability
    && leftBinding.policyId = rightBinding.policyId
    && leftBinding.policyRevisionId = rightBinding.policyRevisionId
    && left.evaluation.decision = right.evaluation.decision

/-- `validate_protective_now` -/
def validateProtectiveNow : AuthorityProgram sha256 Unit :=
  match candidate.protective, candidate.riskFloor with
  | none, _ => .fail .authorityChanged
  | some context, none => do
    requireCurrentSetting env context
    .fail .authorityChanged
  | some context, some floor => do
    requireCurrentSetting env context
    let fresh ← protectiveCandidate env candidate.principal candidate.plan.actor context floor
    .require (reviewSemanticsUnchanged candidate.review fresh.review = true
      ∧ fresh.risk = candidate.risk) .authorityChanged

/-- `prepare_protective` -/
def prepareProtective : AuthorityProgram sha256 (PreparedDurableAuthority sha256) := do
  validateProtectiveNow env candidate
  prepareInner env candidate none true

structure DispatchPermit where
  transactionId : TransactionId
  generation : Nat
  stateVersion : Nat
  bindingDigest : ContentDigest
  authorityUseDigest : ContentDigest
  deriving DecidableEq

/-- `DispatchPermit::from_commit` -/
def DispatchPermit.fromCommit (commit : HandoffCommit) : DispatchPermit :=
  ⟨commit.transactionId, commit.generation, commit.stateVersion, commit.bindingDigest,
    commit.authorityUseDigest⟩

/-- `handoff_inner`.  The store reads the clock itself. -/
def handoffInner (prepared : PreparedDurableAuthority sha256) (settings : Bool) :
    AuthorityProgram sha256 DispatchPermit := do
  .require (prepared.handedOff = false) .alreadyHandedOff
  .require (principal.value = prepared.candidate.principal.value
    ∧ principal.value = prepared.binding.principal.value
    ∧ principal.value = prepared.snapshot.principal.value) .authorityChanged
  let now ← authorityNowUnixMs env
  let current ← revalidateAndBind env prepared.candidate prepared.approvalEvidenceId now settings
  .require (current.digest = prepared.binding.digest) .authorityChanged
  let durable ← transactions (LedgerStore.snapshot prepared.snapshot.transactionId)
  .require (durable = prepared.snapshot) .authorityChanged
  let authorityUse ← .lift (digestAuthorityUse sha256 durable now)
  let expiresAt ← .lift (authorityExpiresAtUnixMs prepared.candidate.observation
    current.authorization)
  let handoff ← signed (authorizeHandoff sha256 env.key durable authorityUse now expiresAt)
  let storeNow ← readClock env
  let commit ← transactions (LedgerStore.handoff handoff storeNow)
  .modify (World.log (.handedOff prepared.candidate.review current commit))
  return .fromCommit commit

/-- `handoff_protective` -/
def handoffProtective (prepared : PreparedDurableAuthority sha256) :
    AuthorityProgram sha256 DispatchPermit := do
  validateProtectiveNow env prepared.candidate
  handoffInner env principal prepared true

/-- The reason of `abort_prepared_after_restart`. -/
def restartAbortReason (sha256 : Sha256) : ContentDigest :=
  digestParts sha256 "linura.control.restart-prepared-abort.v1"
    [asBytes "process-local mutable authority state was lost at restart"]

/-- Retire prepared transactions one after the other. -/
def retireAll : List TransactionSnapshot → AuthorityProgram sha256 (List TransactionSnapshot)
  | [] => pure []
  | snapshot :: rest => do
    let retired ← transactions (LedgerStore.abortPrepared
      { transactionId := snapshot.transactionId
        expectedGeneration := snapshot.currentGeneration
        expectedStateVersion := snapshot.stateVersion
        reasonDigest := restartAbortReason sha256 })
    return retired :: (← retireAll rest)

/-- `abort_prepared_after_restart` -/
def abortPreparedAfterRestart : AuthorityProgram sha256 (List TransactionSnapshot) := do
  let prepared ← transactions (LedgerStore.listState .prepared)
  retireAll prepared

/-! ### Recovery -/

variable (anchor : RecoveryAnchor)

/-- Sign a resolution and have the store settle the transaction by it. -/
def settleBy (resolution : RecoveryResolution sha256) (authorizedAt expiresAt : Nat) :
    AuthorityProgram sha256 RecoveryOutcome := do
  let recovery ← signed (authorizeRecovery sha256 env.key anchor.snapshot resolution authorizedAt
    expiresAt)
  let storeNow ← readClock env
  transactions (LedgerStore.recover recovery storeNow)

variable (observation : ObservationEnvelope)

/-- Read the clock and check that an observation counts. -/
def currentNow : AuthorityProgram sha256 Nat := do
  let now ← authorityNowUnixMs env
  checked (observation.requireCurrent now)
  return now

/-- `verified_commit_digests` without the request digest: of the graph and of the provenance. -/
def verifiedCommitDigests (sha256 : Sha256) (anchor : RecoveryAnchor) (plan : ReconciliationPlan)
    (observationDigest : ContentDigest) : ContentDigest × ContentDigest :=
  (digestParts sha256 "linura.control.verified-graph.v1"
    [asBytes plan.id.value, asBytes plan.provider.value, asBytes plan.resource.value,
      asBytes anchor.preconditionDigest.value, asBytes observationDigest.value],
    digestParts sha256 "linura.control.verified-provenance.v1"
      [asBytes anchor.snapshot.transactionId.value, asBytes anchor.snapshot.bindingDigest.value,
        asBytes anchor.requestDigest.value, asBytes anchor.preconditionDigest.value,
        asBytes observationDigest.value])

/-- Recovery, when the desired state is observed. -/
def recoverVerified (plan : ReconciliationPlan) (observation : ObservationEnvelope)
    (observationDigest : ContentDigest) :
    AuthorityProgram sha256 (DurableRecoveryOutcome sha256) := do
  let _ ← currentNow env observation
  let authorizedAt ← currentNow env observation
  let (graph, provenance) := verifiedCommitDigests sha256 anchor plan observationDigest
  let expiresAt ← .lift (observationExpiresAtUnixMs observation)
  match ← settleBy env anchor (.intendedStateVerified observationDigest anchor.requestDigest graph
      provenance) authorizedAt expiresAt with
  | .verified snapshot =>
    let material ← transactions (LedgerStore.verifiedCommitMaterial snapshot.transactionId)
    .require (material.snapshot = snapshot ∧ material.desiredStateDigest = anchor.requestDigest
      ∧ material.graphDigest = graph ∧ material.provenanceDigest = provenance) .authorityChanged
    return .verified ⟨material.snapshot, material.snapshot.principal, material.desiredStateDigest,
      material.graphDigest, material.provenanceDigest⟩
  | _ => .fail .authorityChanged

/-- Recovery, when another state is observed than the transaction started from. -/
def recoverConflicting (observationDigest : ContentDigest) :
    AuthorityProgram sha256 (DurableRecoveryOutcome sha256) := do
  let _ ← currentNow env observation
  let authorizedAt ← currentNow env observation
  let expiresAt ← .lift (observationExpiresAtUnixMs observation)
  match ← settleBy env anchor (.conflictingState observationDigest) authorizedAt expiresAt with
  | .blocked snapshot => return .blocked snapshot
  | _ => .fail .authorityChanged

/-- Recovery, when nothing can be concluded. -/
def recoverAmbiguous (observationDigest : ContentDigest) :
    AuthorityProgram sha256 (DurableRecoveryOutcome sha256) := do
  let authorizedAt ← currentNow env observation
  let expiresAt ← .lift (observationExpiresAtUnixMs observation)
  match ← settleBy env anchor (.ambiguous observationDigest) authorizedAt expiresAt with
  | .stillIndeterminate snapshot => return .stillIndeterminate snapshot
  | _ => .fail .authorityChanged

/-- The approval that a reprepared generation rests on. -/
def recoveryEvidence : RecoveryApproval → AuthorityProgram sha256 (Option ApprovalEvidenceId)
  | .observeOnly => .fail .authorityChanged
  | .existing evidenceId => pure evidenceId
  | .onDemand approval =>
    match candidate.review.evaluation.decision with
    | .allow => pure none
    | .requireApproval _ _ => do
      let evidence ← issueApproval env approval.requestId candidate approval.approver
        approval.expiresAtUnixSeconds
      return some evidence.id
    | .deny _ | .blocked _ => .fail .candidateBlocked

/-- Recovery, when the state that the transaction started from is observed again: the next
generation is prepared. -/
def recoverAbsent (candidate : DurableAuthorityCandidate) (approval : RecoveryApproval) :
    AuthorityProgram sha256 (DurableRecoveryOutcome sha256) := do
  let evidenceId ← recoveryEvidence env candidate approval
  let now ← authorityNowUnixMs env
  let nextBinding ← revalidateAndBind env candidate evidenceId now false
  let authorizedAt ← currentNow env candidate.observation
  let expiresAt ← .lift (authorityExpiresAtUnixMs candidate.observation nextBinding.authorization)
  match ← settleBy env anchor (.intendedEffectAbsent candidate.observationDigest nextBinding)
      authorizedAt expiresAt with
  | .reprepared snapshot => return .reprepared ⟨candidate, nextBinding, snapshot, evidenceId, false⟩
  | _ => .fail .authorityChanged

/-- Recovery, when a change would still be proposed. -/
def recoverChange (principal : AuthenticatedPrincipal) (plan : ReconciliationPlan)
    (observation : ObservationEnvelope) (observationDigest : ContentDigest)
    (approval : RecoveryApproval) (floor : Option TrustedRiskFloor) :
    AuthorityProgram sha256 (DurableRecoveryOutcome sha256) := do
  let preconditionDigest ← .lift (digestPlanPrecondition sha256 plan)
  if preconditionDigest ≠ anchor.preconditionDigest then
    recoverConflicting env anchor observation observationDigest
  else if approval.isObserveOnly then recoverAmbiguous env anchor observation observationDigest
  else
    let (risk, review) ← .lift (reviewCandidate env.debug.text principal plan floor none)
    if !reviewIsOpen review then recoverAmbiguous env anchor observation observationDigest
    else
      let candidate ← .lift (sealCandidate sha256 principal plan observation review risk floor
        anchor.requestDigest none)
      recoverAbsent env anchor candidate approval

/-- The anchor of a request's transaction, which must be indeterminate and of this request. -/
def recoveryAnchorFor (request : PlanDesiredStateRequest) :
    AuthorityProgram sha256 RecoveryAnchor := do
  let principalId ← .lift ((typedId "principal id" principal.value).mapError .preview)
  let anchor ← transactions (LedgerStore.recoveryAnchor
    (.forNamespace sha256 principalId request.requestId))
  .require (anchor.snapshot.state = .indeterminate) .recoveryNotIndeterminate
  .require (anchor.snapshot.principal = principalId
    ∧ anchor.snapshot.requestId = request.requestId) .recoveryRequestMismatch
  let digest ← .lift (digestRequest sha256 request)
  .require (anchor.requestDigest = digest) .recoveryRequestMismatch
  return anchor

/-- `recover_indeterminate_inner` -/
def recoverIndeterminateInner (actor : Actor) (request : PlanDesiredStateRequest)
    (approval : RecoveryApproval) (floor : Option TrustedRiskFloor) :
    AuthorityProgram sha256 (DurableRecoveryOutcome sha256) := do
  let anchor ← recoveryAnchorFor principal request
  let protective := retainedProtectiveRequest principal request
  .require (protective = true → approval.isObserveOnly = true) .authorityChanged
  let (plan, observation) ← (freshPlan env protective principal actor request).mapError
    fun error => .preview error.display
  checked (observation.validate plan.provider plan.resource plan.observationCapability)
  let observationDigest ← .lift (digestObservation sha256 observation)
  match plan.status with
  | .noChange => recoverVerified env anchor plan observation observationDigest
  | .changeProposed =>
    recoverChange env anchor principal plan observation observationDigest approval floor
  | .blocked => recoverAmbiguous env anchor observation observationDigest

/-! ### Verified transactions -/

/-- `resume_verified` -/
def resumeVerified (transactionId : TransactionId) :
    AuthorityProgram sha256 VerifiedDurableAuthority := do
  let material ← transactions (LedgerStore.verifiedCommitMaterial transactionId)
  .require (material.snapshot.state = .verified
    ∧ principal.value = material.snapshot.principal.value) .authorityChanged
  return ⟨material.snapshot, material.snapshot.principal, material.desiredStateDigest,
    material.graphDigest, material.provenanceDigest⟩

/-- `commit_verified` -/
def commitVerified (verified : VerifiedDurableAuthority) :
    AuthorityProgram sha256 TransactionSnapshot := do
  .require (principal.value = verified.principal.value
    ∧ principal.value = verified.snapshot.principal.value
    ∧ verified.snapshot.state = .verified) .authorityChanged
  let durable ← transactions (LedgerStore.snapshot verified.snapshot.transactionId)
  .require (durable = verified.snapshot) .authorityChanged
  let request ← signed (authorizeCommit sha256 env.key durable verified.desiredStateDigest
    verified.graphDigest verified.provenanceDigest)
  let snapshot ← transactions (LedgerStore.commit request)
  .modify (World.log (.committed snapshot))
  return snapshot

end Authority

end Linura.Control
